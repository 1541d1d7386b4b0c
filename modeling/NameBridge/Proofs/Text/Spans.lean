import Mathlib.Data.List.TakeWhile
import NameBridge.Text.Blank

/-!
Where a text is cut.

Readers take characters as long as a test holds, up to a certain character, or word by word. If a text is put
together from a part that passes the test and a rest that does not start that way, it is cut between the two.
-/

namespace NameBridge.Text

section

variable {α : Type} {p : α → Bool} {run rest : List α}

theorem takeWhile_append (hrun : ∀ a ∈ run, p a = true) (hrest : ∀ a, rest.head? = some a → p a = false) :
    (run ++ rest).takeWhile p = run := by
  rw [List.takeWhile_append_of_pos hrun]
  cases rest with
  | nil => simp
  | cons a rest => simp [hrest a rfl]

theorem dropWhile_append (hrun : ∀ a ∈ run, p a = true) (hrest : ∀ a, rest.head? = some a → p a = false) :
    (run ++ rest).dropWhile p = rest := by
  rw [List.dropWhile_append_of_pos hrun]
  cases rest with
  | nil => simp
  | cons a rest => simp [hrest a rfl]

variable [DecidableEq α] {stop : α}

theorem takeWhile_before (h : stop ∉ run) (rest : List α) : (run ++ stop :: rest).takeWhile (· != stop) = run := by
  apply takeWhile_append
  · intro a ha
    have hne : a ≠ stop := fun heq => h (heq ▸ ha)
    simpa using hne
  · intro a ha
    cases ha
    simp

theorem dropWhile_before (h : stop ∉ run) (rest : List α) :
    (run ++ stop :: rest).dropWhile (· != stop) = stop :: rest := by
  apply dropWhile_append
  · intro a ha
    have hne : a ≠ stop := fun heq => h (heq ▸ ha)
    simpa using hne
  · intro a ha
    cases ha
    simp

end

theorem words_append {w : List Char} (hne : w ≠ []) (h : ∀ c ∈ w, isBlank c = false) (cs : List Char) :
    words (w ++ ' ' :: cs) = w :: words cs := by
  rw [words, List.splitOnP_append_cons_of_forall_mem h ' ' (by decide), List.filter_cons_of_pos (by simpa using hne)]
  rfl

theorem words_eq_singleton {w : List Char} (hne : w ≠ []) (h : ∀ c ∈ w, isBlank c = false) : words w = [w] := by
  rw [words, List.splitOnP_eq_singleton h, List.filter_cons_of_pos (by simpa using hne), List.filter_nil]

/-- A text of blanks only has no words. -/
theorem words_eq_nil_iff {cs : List Char} : words cs = [] ↔ ∀ c ∈ cs, isBlank c = true := by
  induction cs with
  | nil => simp [words_nil]
  | cons c cs ih =>
    rw [List.forall_mem_cons]
    by_cases hc : isBlank c = true
    · rw [words_blank_cons hc, ih, and_iff_right hc]
    · -- the first word starts with `c`
      obtain ⟨word, rest, hsplit⟩ := List.exists_cons_of_ne_nil (List.splitOnP_ne_nil isBlank cs)
      simp [words, List.splitOnP_cons_eq_if_modifyHead, hc, hsplit]

/-- Nothing is left of a text of blanks only. -/
theorem trim_eq_nil_iff {cs : List Char} : trim cs = [] ↔ ∀ c ∈ cs, isBlank c = true := by
  simp only [trim, trimEnd, trimStart, List.reverse_eq_nil_iff, List.dropWhile_eq_nil_iff, List.mem_reverse]
  constructor
  · intro h c hc
    rw [← List.takeWhile_append_dropWhile (p := isBlank) (l := cs), List.mem_append] at hc
    rcases hc with hc | hc
    · exact List.mem_takeWhile_imp hc
    · exact h c hc
  · intro h c hc
    exact h c ((List.dropWhile_sublist isBlank).mem hc)

/-- A text is what is left of it between two runs of blanks. -/
theorem exists_trim (cs : List Char) :
    ∃ lead trail, cs = lead ++ trim cs ++ trail ∧ (∀ c ∈ lead, isBlank c = true) ∧ ∀ c ∈ trail, isBlank c = true := by
  refine ⟨cs.takeWhile isBlank, ((trimStart cs).reverse.takeWhile isBlank).reverse, ?_, ?_, ?_⟩
  · have hend : trim cs ++ ((trimStart cs).reverse.takeWhile isBlank).reverse = trimStart cs := by
      rw [trim, trimEnd, ← List.reverse_append, List.takeWhile_append_dropWhile, List.reverse_reverse]
    rw [List.append_assoc, hend, trimStart, List.takeWhile_append_dropWhile]
  · intro c hc
    exact List.mem_takeWhile_imp hc
  · intro c hc
    exact List.mem_takeWhile_imp (List.mem_reverse.1 hc)

theorem trimEnd_append {trail : List Char} (htrail : ∀ c ∈ trail, isBlank c = true) (cs : List Char) :
    trimEnd (cs ++ trail) = trimEnd cs := by
  have hreverse : ∀ c ∈ trail.reverse, isBlank c = true := fun c hc => htrail c (List.mem_reverse.1 hc)
  rw [trimEnd, List.reverse_append, List.dropWhile_append_of_pos hreverse, trimEnd]

/-- Blanks around a text are not left of it. -/
theorem trim_append {lead trail : List Char} (hlead : ∀ c ∈ lead, isBlank c = true)
    (htrail : ∀ c ∈ trail, isBlank c = true) (cs : List Char) : trim (lead ++ cs ++ trail) = trim cs := by
  have hstart : trimStart (lead ++ cs ++ trail) = trimStart (cs ++ trail) := by
    rw [List.append_assoc, trimStart, List.dropWhile_append_of_pos hlead, trimStart]
  have hnone : trail.dropWhile isBlank = [] := List.dropWhile_eq_nil_iff.2 htrail
  rw [trim, trim, hstart, trimStart, List.dropWhile_append, hnone]
  split
  · rename_i hempty
    rw [trimStart, List.isEmpty_iff.1 hempty]
  · rw [trimEnd_append htrail, trimStart]

theorem mem_of_mem_trim {cs : List Char} {c : Char} (h : c ∈ trim cs) : c ∈ cs := by
  obtain ⟨lead, trail, hcs, -, -⟩ := exists_trim cs
  rw [hcs]
  exact List.mem_append_left _ (List.mem_append_right _ h)

theorem trim_trim (cs : List Char) : trim (trim cs) = trim cs := by
  obtain ⟨lead, trail, hcs, hlead, htrail⟩ := exists_trim cs
  have hsame := trim_append hlead htrail (trim cs)
  rwa [← hcs, eq_comm] at hsame

/-- Without blanks there is nothing to trim. -/
theorem trim_eq_self {cs : List Char} (h : ∀ c ∈ cs, isBlank c = false) : trim cs = cs := by
  have hdrop (ds : List Char) (hds : ∀ d ∈ ds, isBlank d = false) : ds.dropWhile isBlank = ds := by
    cases ds with
    | nil => rfl
    | cons d ds => simp [hds d List.mem_cons_self]
  unfold trim trimStart trimEnd
  rw [hdrop cs h, hdrop cs.reverse (by simpa using h), List.reverse_reverse]

theorem trimEnd_concat (init : List Char) {c : Char} (hc : isBlank c = false) :
    trimEnd (init ++ [c]) = init ++ [c] := by
  rw [trimEnd, List.reverse_append, List.reverse_singleton, List.singleton_append,
    List.dropWhile_cons_of_neg (by simp [hc]), List.reverse_cons, List.reverse_reverse]

/-! ## A blank at the end -/

theorem splitOnP_concat {α : Type} {p : α → Bool} {sep : α} (h : p sep = true) (xs : List α) :
    (xs ++ [sep]).splitOnP p = xs.splitOnP p ++ [[]] := by
  induction xs with
  | nil => simp [List.splitOnP_cons_eq_if_modifyHead, h]
  | cons x xs ih =>
    obtain ⟨piece, pieces, hsplit⟩ := List.exists_cons_of_ne_nil (List.splitOnP_ne_nil p xs)
    rw [List.cons_append, List.splitOnP_cons_eq_if_modifyHead, List.splitOnP_cons_eq_if_modifyHead, ih, hsplit]
    split <;> rfl

section

variable {c : Char}

theorem words_concat_blank (h : isBlank c = true) (cs : List Char) : words (cs ++ [c]) = words cs := by
  rw [words, splitOnP_concat h, List.filter_append, words]
  simp

theorem trimEnd_concat_blank (h : isBlank c = true) (cs : List Char) : trimEnd (cs ++ [c]) = trimEnd cs := by
  have htrail : ∀ d ∈ [c], isBlank d = true := by simpa using h
  exact trimEnd_append htrail cs

theorem trim_concat_blank (h : isBlank c = true) (cs : List Char) : trim (cs ++ [c]) = trim cs := by
  have htrail : ∀ d ∈ [c], isBlank d = true := by simpa using h
  have hsame : trim ([] ++ cs ++ [c]) = trim cs := trim_append (fun _ hd => absurd hd List.not_mem_nil) htrail cs
  rwa [List.nil_append] at hsame

theorem head?_trimStart_concat_blank (h : isBlank c = true) (cs : List Char) :
    (trimStart (cs ++ [c])).head? = (trimStart cs).head? := by
  rw [trimStart, List.dropWhile_append, trimStart]
  split
  · rename_i hempty
    rw [List.isEmpty_iff.1 hempty, List.dropWhile_cons_of_pos h, List.dropWhile_nil]
  · rename_i hne
    obtain ⟨d, ds, hd⟩ := List.exists_cons_of_ne_nil (fun hnil => hne (List.isEmpty_iff.2 hnil))
    rw [hd]
    rfl

end

end NameBridge.Text
