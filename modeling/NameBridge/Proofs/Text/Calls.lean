import Mathlib.Data.List.Induction
import NameBridge.Proofs.Text.Sources

/-!
A cursor under any use.

Whatever is asked of a cursor over a source, in whatever order, what it has given are the first lines of the source,
one for each time a line was asked for while there was one (`LineCursor.answers_ofSource`). The failure of the source
waits until every line has been taken, and is answered to the first who asks for it then.
-/

namespace NameBridge

namespace LineCursor

/-- What can be asked of a cursor. -/
inductive Call where
  | peek
  | take
  | number
  | takeFault
  deriving DecidableEq, Repr

/-- What a cursor answers to each of these. -/
inductive Answer where
  | peeked (line : Option String)
  | taken (line : Option String)
  | number (n : Nat)
  | fault (cause : Option FileError)
  deriving DecidableEq, Repr

/-- The line that was given away. -/
def Answer.line? : Answer → Option String
  | .taken line => line
  | _ => none

/-- The failure that was given away. -/
def Answer.cause? : Answer → Option FileError
  | .fault cause => cause
  | _ => none

/-- The answer to a call, and the cursor after it. -/
def call (c : LineCursor) : Call → Answer × LineCursor
  | .peek => (.peeked c.peek, c)
  | .take =>
    match c.take with
    | some (line, c') => (.taken (some line), c')
    | none => (.taken none, c)
  | .number => (.number c.number, c)
  | .takeFault => (.fault c.takeFault.1, c.takeFault.2)

/-- The cursor after these calls. -/
def after (c : LineCursor) (calls : List Call) : LineCursor := calls.foldl (fun c x => (c.call x).2) c

/-- The answers to these calls. -/
def answers (c : LineCursor) : List Call → List Answer
  | [] => []
  | x :: calls => (c.call x).1 :: answers (c.call x).2 calls

theorem after_concat (c : LineCursor) (calls : List Call) (x : Call) :
    c.after (calls ++ [x]) = ((c.after calls).call x).2 := by
  rw [after, after, List.foldl_append]
  rfl

theorem answers_concat (c : LineCursor) (calls : List Call) (x : Call) :
    c.answers (calls ++ [x]) = c.answers calls ++ [((c.after calls).call x).1] := by
  induction calls generalizing c with
  | nil => rfl
  | cons y calls ih =>
    rw [List.cons_append, answers, answers, ih, List.cons_append]
    rfl

/-! ## Past the end -/

/-- With no line ahead no call brings one, whatever bytes are left. -/
theorem peek_after_of_peek_eq_none {c : LineCursor} (h : c.peek = none) (calls : List Call) :
    (c.after calls).peek = none := by
  induction calls using List.reverseRecOn with
  | nil => exact h
  | append_singleton calls x ih =>
    rw [after_concat]
    cases x with
    | peek => exact ih
    | take => rwa [call, take_eq_none_iff.2 ih]
    | number => exact ih
    | takeFault => exact ih

/-! ## One call -/

/-- A failure was asked for when every line had been taken. -/
def AskedAtEnd (source : ByteSource) (calls : List Call) : Prop :=
  ∃ before after, calls = before ++ .takeFault :: after ∧ source.lines.length ≤ before.count .take

theorem askedAtEnd_concat {source : ByteSource} {calls : List Call} {x : Call} :
    AskedAtEnd source (calls ++ [x]) ↔
      AskedAtEnd source calls ∨ x = .takeFault ∧ source.lines.length ≤ calls.count .take := by
  constructor
  · rintro ⟨before, after, heq, hle⟩
    rcases List.eq_nil_or_concat after with rfl | ⟨after, y, rfl⟩
    · obtain ⟨rfl, hx⟩ := List.append_inj' heq rfl
      exact .inr ⟨by simpa using hx, hle⟩
    · rw [List.concat_eq_append, ← List.cons_append, ← List.append_assoc] at heq
      exact .inl ⟨before, after, (List.append_inj' heq rfl).1, hle⟩
  · rintro (⟨before, after, rfl, hle⟩ | ⟨rfl, hle⟩)
    · exact ⟨before, after ++ [x], by simp, hle⟩
    · exact ⟨calls, [], rfl, hle⟩

/-- Where a cursor over a source stands after these calls: it has the lines left that were not asked for, and the
failure of the source at its end, unless that was asked for there. -/
structure Tracks (source : ByteSource) (calls : List Call) (c : LineCursor) : Prop where
  lines : c.lines = source.lines.drop (calls.count .take)
  number : c.number = min (calls.count .take) source.lines.length
  quiet : c.peek ≠ none → c.fault = none
  waiting : ¬AskedAtEnd source calls → c.atEnd.fault = source.fault?
  collected : AskedAtEnd source calls → c.fault = none

section

variable {source : ByteSource} {calls : List Call} {c : LineCursor}

theorem peek_eq_head? (c : LineCursor) : c.peek = c.lines.head? := by
  cases htake : c.take with
  | none => rw [(lines_of_take_eq_none htake).1, take_eq_none_iff.1 htake, List.head?_nil]
  | some next =>
    obtain ⟨line, c'⟩ := next
    rw [(lines_of_take_eq_some htake).1, List.head?_cons]
    simp only [take, Option.map_eq_some_iff, Prod.mk.injEq] at htake
    obtain ⟨_, hahead, rfl, -⟩ := htake
    exact hahead

theorem fault_of_peek_fill (source : ByteSource) (number : Nat) (h : (fill source number).peek ≠ none) :
    (fill source number).fault = none := by
  unfold fill at h ⊢
  split
  · rfl
  · rename_i hread
    simp [hread, peek] at h
  · rfl

theorem Tracks.ofSource (source : ByteSource) : Tracks source [] (ofSource source) where
  lines := lines_ofSource source
  number := by rw [LineCursor.ofSource, number_fill]; simp
  quiet := fault_of_peek_fill source 0
  waiting _ := fault_ofSource source
  collected := by rintro ⟨before, after, heq, -⟩; simp at heq

theorem Tracks.peek_eq (h : Tracks source calls c) : c.peek = source.lines[calls.count .take]? := by
  rw [peek_eq_head?, h.lines, List.head?_drop]

/-- A line is ahead as long as there were fewer calls for one than lines. -/
theorem Tracks.peek_eq_none_iff (h : Tracks source calls c) :
    c.peek = none ↔ source.lines.length ≤ calls.count .take := by
  rw [h.peek_eq, List.getElem?_eq_none_iff]

theorem le_of_askedAtEnd (h : AskedAtEnd source calls) : source.lines.length ≤ calls.count .take := by
  obtain ⟨before, after, rfl, hle⟩ := h
  rw [List.count_append]
  omega

theorem takeFault_eq_self (h : c.fault = none) : c.takeFault.2 = c := by
  rw [takeFault, ← h]

theorem Tracks.take (h : Tracks source calls c) : Tracks source (calls ++ [.take]) (c.call .take).2 := by
  have hcount : (calls ++ [Call.take]).count .take = calls.count .take + 1 := by simp
  have hasked : AskedAtEnd source (calls ++ [.take]) ↔ AskedAtEnd source calls := by simp [askedAtEnd_concat]
  cases htake : c.take with
  | none =>
    -- at the end the call is counted, and changes nothing
    have hend : source.lines.length ≤ calls.count .take := h.peek_eq_none_iff.1 (take_eq_none_iff.1 htake)
    rw [call, htake]
    constructor
    case lines => rw [h.lines, hcount, List.drop_eq_nil_of_le hend, List.drop_eq_nil_of_le (by omega)]
    case number =>
      rw [h.number, hcount]
      omega
    case quiet => exact h.quiet
    case waiting =>
      rw [hasked]
      exact h.waiting
    case collected =>
      rw [hasked]
      exact h.collected
  | some next =>
    obtain ⟨line, c'⟩ := next
    have hahead : c.peek ≠ none := fun hnone => by simp [take_eq_none_iff.2 hnone] at htake
    have hmore : ¬source.lines.length ≤ calls.count .take := fun hend => hahead (h.peek_eq_none_iff.2 hend)
    obtain ⟨hlines, hatEnd⟩ := lines_of_take_eq_some htake
    rw [call, htake]
    constructor
    case lines => rw [hcount, ← List.tail_drop, ← h.lines, hlines, List.tail_cons]
    case number =>
      rw [number_take htake, h.number, hcount]
      omega
    case quiet =>
      simp only [LineCursor.take, Option.map_eq_some_iff, Prod.mk.injEq] at htake
      obtain ⟨_, _, -, rfl⟩ := htake
      exact fault_of_peek_fill _ _
    case waiting =>
      rw [hasked, ← hatEnd]
      exact h.waiting
    case collected =>
      rw [hasked]
      exact fun hcollected => absurd (le_of_askedAtEnd hcollected) hmore

theorem Tracks.takeFault (h : Tracks source calls c) : Tracks source (calls ++ [.takeFault]) c.takeFault.2 := by
  have hcount : (calls ++ [Call.takeFault]).count .take = calls.count .take := by simp
  have hasked : AskedAtEnd source (calls ++ [.takeFault]) ↔ source.lines.length ≤ calls.count .take := by
    simp only [askedAtEnd_concat, true_and, or_iff_right_iff_imp]
    exact le_of_askedAtEnd
  by_cases hpeek : c.peek = none
  · have hend := h.peek_eq_none_iff.1 hpeek
    have hnone : c.takeFault.2.take = none := take_eq_none_iff.2 hpeek
    constructor
    case lines => rw [(lines_of_take_eq_none hnone).1, hcount, List.drop_eq_nil_of_le hend]
    case number => exact hcount ▸ h.number
    case quiet => exact fun _ => rfl
    case waiting => exact fun hwaiting => absurd (hasked.2 hend) hwaiting
    case collected => exact fun _ => rfl
  · -- before the end there is no failure yet, so nothing changes
    have hmore : ¬source.lines.length ≤ calls.count .take := fun hend => hpeek (h.peek_eq_none_iff.2 hend)
    rw [takeFault_eq_self (h.quiet hpeek)]
    constructor
    case lines => exact hcount ▸ h.lines
    case number => exact hcount ▸ h.number
    case quiet => exact h.quiet
    case waiting => exact fun _ => h.waiting fun hcollected => hmore (le_of_askedAtEnd hcollected)
    case collected => exact fun hcollected => absurd (hasked.1 hcollected) hmore

/-- Looking leaves everything in place. -/
theorem Tracks.look (h : Tracks source calls c) {x : Call} (hx : x = .peek ∨ x = .number) :
    Tracks source (calls ++ [x]) c := by
  have hcount : (calls ++ [x]).count .take = calls.count .take := by rcases hx with rfl | rfl <;> simp
  have hasked : AskedAtEnd source (calls ++ [x]) ↔ AskedAtEnd source calls := by
    rcases hx with rfl | rfl <;> simp [askedAtEnd_concat]
  exact ⟨hcount ▸ h.lines, hcount ▸ h.number, h.quiet, h.waiting ∘ hasked.not.1, h.collected ∘ hasked.1⟩

theorem Tracks.call (h : Tracks source calls c) (x : Call) : Tracks source (calls ++ [x]) (c.call x).2 := by
  cases x with
  | peek => exact h.look (.inl rfl)
  | take => exact h.take
  | number => exact h.look (.inr rfl)
  | takeFault => exact h.takeFault

/-- What is known of a cursor holds after all calls. -/
theorem tracks_after (source : ByteSource) (calls : List Call) :
    Tracks source calls ((ofSource source).after calls) := by
  induction calls using List.reverseRecOn with
  | nil => exact .ofSource source
  | append_singleton calls x ih =>
    rw [after_concat]
    exact ih.call x

/-- The failure can be had at the end, as long as it has not been asked for there. -/
theorem Tracks.fault_eq (h : Tracks source calls c) (hend : source.lines.length ≤ calls.count .take)
    (hfirst : ¬AskedAtEnd source calls) : c.fault = source.fault? := by
  have hnone : c.take = none := take_eq_none_iff.2 (h.peek_eq_none_iff.2 hend)
  rw [← h.waiting hfirst, (lines_of_take_eq_none hnone).2]

theorem Tracks.fault_eq_none (h : Tracks source calls c)
    (hnot : ¬(source.lines.length ≤ calls.count .take ∧ ¬AskedAtEnd source calls)) : c.fault = none := by
  rcases not_and_or.1 hnot with hmore | hasked
  · exact h.quiet fun hnone => hmore (h.peek_eq_none_iff.1 hnone)
  · exact h.collected (not_not.1 hasked)

end

/-! ## All answers -/

/-- The answer to a call for a line is what was ahead. -/
theorem fst_call_take (c : LineCursor) : (c.call .take).1 = .taken c.peek := by
  cases hpeek : c.peek with
  | none => rw [call, take_eq_none_iff.2 hpeek]
  | some line =>
    have hahead : c.ahead = some line := hpeek
    simp only [call, take, hahead, Option.map_some]

/-- The lines given are the first ones of the source. -/
theorem lines_answers (source : ByteSource) (calls : List Call) :
    ((ofSource source).answers calls).filterMap Answer.line? = source.lines.take (calls.count .take) := by
  induction calls using List.reverseRecOn with
  | nil => simp [answers]
  | append_singleton calls x ih =>
    rw [answers_concat, List.filterMap_append, ih, List.count_append]
    cases x with
    | take =>
      rw [fst_call_take, (tracks_after source calls).peek_eq]
      simp only [List.filterMap_cons, List.filterMap_nil, Answer.line?, List.count_singleton_self, List.take_add_one]
      cases source.lines[calls.count .take]? <;> rfl
    | peek => simp [call, Answer.line?]
    | number => simp [call, Answer.line?]
    | takeFault => simp [call, Answer.line?]

/-- The failure of the source is given once, to who asks for it at the end. -/
theorem causes_answers (source : ByteSource) (calls : List Call) :
    let causes := ((ofSource source).answers calls).filterMap Answer.cause?
    (AskedAtEnd source calls → causes = source.fault?.toList) ∧ (¬AskedAtEnd source calls → causes = []) := by
  induction calls using List.reverseRecOn with
  | nil => exact ⟨by rintro ⟨before, after, heq, -⟩; simp at heq, fun _ => rfl⟩
  | append_singleton calls x ih =>
    obtain ⟨hasked, hwaiting⟩ := ih
    have htracks := tracks_after source calls
    rw [answers_concat, List.filterMap_append, askedAtEnd_concat]
    by_cases hnow : x = .takeFault ∧ source.lines.length ≤ calls.count .take ∧ ¬AskedAtEnd source calls
    · obtain ⟨rfl, hend, hfirst⟩ := hnow
      have hcause : [(call ((ofSource source).after calls) .takeFault).1].filterMap Answer.cause? =
          source.fault?.toList := by
        rw [call, takeFault, htracks.fault_eq hend hfirst]
        cases source.fault? <;> rfl
      rw [hwaiting hfirst, hcause]
      exact ⟨fun _ => rfl, fun hnot => absurd (.inr ⟨rfl, hend⟩) hnot⟩
    · have hcause : [(call ((ofSource source).after calls) x).1].filterMap Answer.cause? = [] := by
        cases x with
        | take => rw [fst_call_take]; rfl
        | peek => rfl
        | number => rfl
        | takeFault =>
          rw [call, takeFault, htracks.fault_eq_none fun hend => hnow ⟨rfl, hend⟩]
          rfl
      rw [hcause, List.append_nil]
      exact ⟨fun h => hasked (h.elim id fun hx => by_contra fun hfirst => hnow ⟨hx.1, hx.2, hfirst⟩),
        fun h => hwaiting (not_or.1 h).1⟩

/-- A cursor over a source gives exactly the lines of the source, whatever is asked of it and in whatever order. With
`taken` the lines that it has given so far, it shows and gives the line after these, says how many these are, and stays
as it is when there is no line left. The failure of the source is given once, when it is first asked for with all lines
taken. No call brings a line after the last one, whatever bytes are left. -/
theorem answers_ofSource (source : ByteSource) (calls : List Call) :
    let c := (ofSource source).after calls
    let given := (ofSource source).answers calls
    let taken := given.filterMap Answer.line?
    let causes := given.filterMap Answer.cause?
    taken = source.lines.take (calls.count .take) ∧
    c.call .peek = (.peeked source.lines[taken.length]?, c) ∧
    c.call .number = (.number taken.length, c) ∧
    (c.call .take).1 = .taken source.lines[taken.length]? ∧
    (taken = source.lines → (c.call .take).2 = c) ∧
    (AskedAtEnd source calls → causes = source.fault?.toList) ∧
    (¬AskedAtEnd source calls → causes = []) ∧
    (∀ cause, (c.call .takeFault).1 = .fault (some cause) →
      taken = source.lines ∧ causes = [] ∧ source.fault? = some cause) ∧
    (taken = source.lines → ∀ unread more, ({ c with unread }.after more).peek = none) := by
  intro c given taken causes
  have htracks : Tracks source calls c := tracks_after source calls
  have htaken : taken = source.lines.take (calls.count .take) := lines_answers source calls
  obtain ⟨hasked, hwaiting⟩ := causes_answers source calls
  have hlength : taken.length = c.number := by rw [htaken, List.length_take, htracks.number]
  have hpeek : c.peek = source.lines[taken.length]? := by
    rw [htracks.peek_eq, htaken, List.length_take]
    rcases Nat.le_total (calls.count .take) source.lines.length with hle | hle
    · rw [Nat.min_eq_left hle]
    · rw [Nat.min_eq_right hle, List.getElem?_eq_none hle, List.getElem?_eq_none (Nat.le_refl _)]
  have hend : taken = source.lines → c.peek = none := fun hall => by
    rw [hpeek, hall, List.getElem?_eq_none (Nat.le_refl _)]
  refine ⟨htaken, by rw [call, hpeek], by rw [call, hlength], by rw [fst_call_take, hpeek], fun hall => ?_, hasked,
    hwaiting, fun cause hcause => ?_, fun hall unread more => ?_⟩
  · rw [call, take_eq_none_iff.2 (hend hall)]
  · have hfault : c.fault = some cause := by
      rw [call, takeFault] at hcause
      exact Answer.fault.inj hcause
    have hnow : source.lines.length ≤ calls.count .take ∧ ¬AskedAtEnd source calls := by
      by_contra hnot
      rw [htracks.fault_eq_none hnot] at hfault
      cases hfault
    refine ⟨?_, hwaiting hnow.2, ?_⟩
    · rw [htaken, List.take_of_length_le hnow.1]
    · rw [← htracks.fault_eq hnow.1 hnow.2, hfault]
  · have hnone : ({ c with unread } : LineCursor).peek = none := hend hall
    exact peek_after_of_peek_eq_none hnone more

/-- Two lines, then one that is no text, and another after that. -/
def brokenOff : ByteSource := ⟨[97, 13, 10, 98, 10, 255, 10, 99, 10], none⟩

/-- The failure is asked for too early, once at the end, and once more. -/
theorem answers_brokenOff :
    let calls : List Call := [.peek, .takeFault, .take, .number, .take, .take, .takeFault, .takeFault, .take, .peek]
    brokenOff.lines = ["a", "b"] ∧
    ((ofSource brokenOff).answers calls).filterMap Answer.line? = ["a", "b"] ∧
    ((ofSource brokenOff).answers calls).filterMap Answer.cause? = [.invalidText] := by
  intro calls
  have hlines : brokenOff.lines = ["a", "b"] := by decide +kernel
  have hfault : brokenOff.fault? = some .invalidText := by decide +kernel
  obtain ⟨htaken, -, -, -, -, hasked, -⟩ := answers_ofSource brokenOff calls
  have hatEnd : AskedAtEnd brokenOff calls :=
    ⟨[.peek, .takeFault, .take, .number, .take, .take], [.takeFault, .take, .peek], rfl, by rw [hlines]; decide⟩
  rw [hlines] at htaken
  rw [hfault] at hasked
  exact ⟨hlines, htaken, hasked hatEnd⟩

end LineCursor

end NameBridge
