import NameBridge.Proofs.Text.Spans

/-!
The words of a text.

The words before and after a blank are all the words there are (`words_append_blank`). What trimming leaves of a text
has the same words, and it holds no blank exactly if there is one word at most (`unbroken_trim_iff`).
-/

namespace NameBridge.Text

/-- None of the characters is blank. -/
def Unbroken (cs : List Char) : Prop := ∀ c ∈ cs, isBlank c = false

instance (cs : List Char) : Decidable (Unbroken cs) := inferInstanceAs (Decidable (∀ c ∈ cs, isBlank c = false))

theorem words_append_blank {c : Char} (h : isBlank c = true) (cs ds : List Char) :
    words (cs ++ c :: ds) = words cs ++ words ds := by
  rw [words, List.splitOnP_append_cons _ _ h, List.filter_append, words, words]

/-- Blanks around a text are part of no word. -/
theorem words_between {lead trail : List Char} (hlead : ∀ c ∈ lead, isBlank c = true)
    (htrail : ∀ c ∈ trail, isBlank c = true) (cs : List Char) : words (lead ++ cs ++ trail) = words cs := by
  have hend : words (cs ++ trail) = words cs := by
    cases trail with
    | nil => rw [List.append_nil]
    | cons c trail =>
      obtain ⟨hc, htrail⟩ := List.forall_mem_cons.1 htrail
      rw [words_append_blank hc, words_eq_nil_iff.2 htrail, List.append_nil]
  rw [List.append_assoc]
  induction lead with
  | nil => exact hend
  | cons c lead ih =>
    obtain ⟨hc, hlead⟩ := List.forall_mem_cons.1 hlead
    rw [List.cons_append, words_blank_cons hc, ih hlead]

theorem words_trim (cs : List Char) : words (trim cs) = words cs := by
  obtain ⟨lead, trail, hcs, hlead, htrail⟩ := exists_trim cs
  have hsame := words_between hlead htrail (trim cs)
  rwa [← hcs, eq_comm] at hsame

theorem length_trim_le (cs : List Char) : (trim cs).length ≤ cs.length := by
  obtain ⟨lead, trail, hcs, -, -⟩ := exists_trim cs
  have hlength := congrArg List.length hcs
  simp only [List.length_append] at hlength
  omega

/-- What trimming leaves does not start with blanks that it could do without, nor end with them. -/
theorem words_ne_nil_of_trim_eq {cs before after : List Char} {c : Char} (h : trim cs = before ++ c :: after)
    (hc : isBlank c = true) : words before ≠ [] ∧ words after ≠ [] := by
  have hshorter (rest : List Char) (hrest : rest.length < (trim cs).length) (hsame : trim (trim cs) = trim rest) :
      False := by
    have hle := length_trim_le rest
    rw [← hsame, trim_trim] at hle
    omega
  constructor
  · intro hbefore
    have hlead : ∀ d ∈ before ++ [c], isBlank d = true :=
      List.forall_mem_append.2 ⟨words_eq_nil_iff.1 hbefore, by simpa using hc⟩
    have hsame : trim ((before ++ [c]) ++ after ++ []) = trim after :=
      trim_append hlead (fun d hd => absurd hd List.not_mem_nil) after
    refine hshorter after (by rw [h]; simp; omega) ?_
    rw [h, ← hsame]
    simp
  · intro hafter
    have htrail : ∀ d ∈ c :: after, isBlank d = true := List.forall_mem_cons.2 ⟨hc, words_eq_nil_iff.1 hafter⟩
    have hsame : trim ([] ++ before ++ c :: after) = trim before :=
      trim_append (fun d hd => absurd hd List.not_mem_nil) htrail before
    refine hshorter before (by rw [h]; simp) ?_
    rw [h, ← hsame, List.nil_append]

theorem unbroken_trim_iff (cs : List Char) : Unbroken (trim cs) ↔ (words cs).length ≤ 1 := by
  rw [← words_trim cs]
  constructor
  · intro h
    by_cases hnil : trim cs = []
    · rw [hnil, words_nil]
      exact Nat.zero_le 1
    · rw [words_eq_singleton hnil h]
      exact Nat.le_refl 1
  · intro h c hc
    by_contra hblank
    rw [Bool.not_eq_false] at hblank
    obtain ⟨before, after, hsplit⟩ := List.append_of_mem hc
    obtain ⟨hbefore, hafter⟩ := words_ne_nil_of_trim_eq hsplit hblank
    rw [hsplit, words_append_blank hblank, List.length_append] at h
    have hfirst := List.length_pos_iff.2 hbefore
    have hlast := List.length_pos_iff.2 hafter
    omega

theorem words_map {f : Char → Char} (h : ∀ c, isBlank (f c) = isBlank c) (cs : List Char) :
    words (cs.map f) = (words cs).map (List.map f) := by
  have hsplit : (cs.map f).splitOnP isBlank = (cs.splitOnP isBlank).map (List.map f) := by
    induction cs with
    | nil => rfl
    | cons c cs ih =>
      rw [List.map_cons, List.splitOnP_cons_eq_if_modifyHead, List.splitOnP_cons_eq_if_modifyHead, h, ih]
      split
      · rfl
      · cases List.splitOnP isBlank cs <;> rfl
  rw [words, hsplit, List.filter_map, words]
  congr 2
  funext word
  simp

end NameBridge.Text
