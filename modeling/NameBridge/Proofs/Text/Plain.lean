import NameBridge.Proofs.Text.Spans
import NameBridge.Text.Word

/-!
Texts of plain characters and a few marks.

Names are written with plain characters only: ASCII letters and digits, the underscore and the dollar sign.
What renaming files put around them are marks such as `.` or `(`. Knowing the marks of a text is enough to
tell where a reader stops in it (`Uses.all`, `Uses.not_mem`).
-/

namespace NameBridge.Text

/-- An ASCII letter or digit, the underscore or the dollar sign. -/
def isPlain (c : Char) : Bool := c.isAlphanum || c == '_' || c == '$'

theorem isNameChar_of_isPlain {c : Char} (h : isPlain c = true) : isNameChar c = true := by
  simp only [isPlain, isNameChar, isWordChar, Bool.or_eq_true] at h ⊢
  rcases h with (h | h) | h
  · exact .inl (.inl (.inl h))
  · exact .inl (.inl (.inr h))
  · exact .inr h

theorem isDottedNameChar_of_isPlain {c : Char} (h : isPlain c = true) : isDottedNameChar c = true := by
  rw [isDottedNameChar, isNameChar_of_isPlain h, Bool.true_or]

/-- Every plain character is above the space and below the blanks outside ASCII. -/
theorem toNat_of_isPlain {c : Char} (h : isPlain c = true) : 0x20 < c.toNat ∧ c.toNat < 0x80 := by
  change (decide (65 ≤ c.val ∧ c.val ≤ 90) || (decide (97 ≤ c.val) && decide (c.val ≤ 122)) ||
    (decide (48 ≤ c.val) && decide (c.val ≤ 57)) || c == '_' || c == '$') = true at h
  simp only [Bool.or_eq_true, Bool.and_eq_true, decide_eq_true_eq, beq_iff_eq, UInt32.le_iff_toNat_le] at h
  change ((((65 ≤ c.toNat ∧ c.toNat ≤ 90) ∨ (97 ≤ c.toNat ∧ c.toNat ≤ 122)) ∨ (48 ≤ c.toNat ∧ c.toNat ≤ 57)) ∨
    c = '_') ∨ c = '$' at h
  rcases h with (h | rfl) | rfl
  · omega
  · decide
  · decide

theorem isBlank_of_isPlain {c : Char} (h : isPlain c = true) : isBlank c = false := by
  obtain ⟨hlow, hhigh⟩ := toNat_of_isPlain h
  simp only [isBlank, Bool.or_eq_false_iff, Bool.and_eq_false_iff, decide_eq_false_iff_not, beq_eq_false_iff_ne]
  omega

/-! ## Marks -/

/-- Every character is plain or one of these marks. -/
def Uses (marks cs : List Char) : Prop := ∀ c ∈ cs, isPlain c = true ∨ c ∈ marks

instance (marks cs : List Char) : Decidable (Uses marks cs) :=
  decidable_of_iff (cs.all fun c => isPlain c || marks.contains c) (by simp [Uses])

variable {marks cs ds : List Char}

theorem Uses.nil : Uses marks [] := fun _ h => absurd h List.not_mem_nil

theorem Uses.mono {marks' : List Char} (h : Uses marks cs) (hm : marks ⊆ marks') : Uses marks' cs :=
  fun c hc => (h c hc).imp_right (@hm c)

theorem Uses.append (h : Uses marks cs) (h' : Uses marks ds) : Uses marks (cs ++ ds) := by
  intro c hc
  rcases List.mem_append.1 hc with hc | hc
  · exact h c hc
  · exact h' c hc

theorem Uses.cons {c : Char} (hc : isPlain c = true ∨ c ∈ marks) (h : Uses marks cs) : Uses marks (c :: cs) := by
  intro d hd
  rcases List.mem_cons.1 hd with rfl | hd
  · exact hc
  · exact h d hd

theorem Uses.mark {c : Char} (hc : c ∈ marks) (h : Uses marks cs) : Uses marks (c :: cs) := h.cons (.inr hc)

theorem Uses.flatMap {α : Type} {l : List α} {f : α → List Char} (h : ∀ a ∈ l, Uses marks (f a)) :
    Uses marks (l.flatMap f) := by
  intro c hc
  obtain ⟨a, ha, hc⟩ := List.mem_flatMap.1 hc
  exact h a ha c hc

/-- What holds of plain characters and of the marks holds of every character. -/
theorem Uses.all {p : Char → Bool} (h : Uses marks cs) (hplain : ∀ c, isPlain c = true → p c = true)
    (hmarks : marks.all p = true) : ∀ c ∈ cs, p c = true := by
  intro c hc
  rcases h c hc with hp | hm
  · exact hplain c hp
  · exact List.all_eq_true.1 hmarks c hm

/-- A character that is neither plain nor one of the marks is not there. -/
theorem Uses.not_mem {c : Char} (h : Uses marks cs) (hplain : isPlain c = false) (hmarks : c ∉ marks) : c ∉ cs := by
  intro hc
  rcases h c hc with hp | hm
  · rw [hp] at hplain
    cases hplain
  · exact hmarks hm

theorem Uses.not_blank (h : Uses marks cs) (hmarks : marks.all (!isBlank ·) = true) :
    ∀ c ∈ cs, isBlank c = false := by
  intro c hc
  have hne : (!isBlank c) = true := h.all (fun d hd => by rw [isBlank_of_isPlain hd]; rfl) hmarks c hc
  simpa using hne

/-! ## Either end -/

/-- The first character is plain. -/
def StartsPlain (cs : List Char) : Prop := ∃ c tail, cs = c :: tail ∧ isPlain c = true

/-- The last character is plain. -/
def EndsPlain (cs : List Char) : Prop := ∃ init c, cs = init ++ [c] ∧ isPlain c = true

theorem Uses.startsPlain (h : Uses [] cs) (hne : cs ≠ []) : StartsPlain cs := by
  obtain ⟨c, tail, rfl⟩ := List.exists_cons_of_ne_nil hne
  exact ⟨c, tail, rfl, (h c List.mem_cons_self).resolve_right List.not_mem_nil⟩

theorem Uses.endsPlain (h : Uses [] cs) (hne : cs ≠ []) : EndsPlain cs := by
  have hlast : isPlain (cs.getLast hne) = true := (h _ (List.getLast_mem hne)).resolve_right List.not_mem_nil
  exact ⟨cs.dropLast, cs.getLast hne, (List.dropLast_concat_getLast hne).symm, hlast⟩

theorem StartsPlain.ne_nil (h : StartsPlain cs) : cs ≠ [] := by
  obtain ⟨c, tail, rfl, _⟩ := h
  exact List.cons_ne_nil c tail

theorem StartsPlain.append (h : StartsPlain cs) (ds : List Char) : StartsPlain (cs ++ ds) := by
  obtain ⟨c, tail, rfl, hc⟩ := h
  exact ⟨c, tail ++ ds, rfl, hc⟩

theorem EndsPlain.append (h : EndsPlain ds) (cs : List Char) : EndsPlain (cs ++ ds) := by
  obtain ⟨init, c, rfl, hc⟩ := h
  exact ⟨cs ++ init, c, (List.append_assoc ..).symm, hc⟩

theorem trimStart_of_startsPlain (h : StartsPlain cs) : trimStart cs = cs := by
  obtain ⟨c, tail, rfl, hc⟩ := h
  rw [trimStart, List.dropWhile_cons_of_neg (by simp [isBlank_of_isPlain hc])]

theorem trimEnd_of_endsPlain (h : EndsPlain cs) : trimEnd cs = cs := by
  obtain ⟨init, c, rfl, hc⟩ := h
  exact trimEnd_concat init (isBlank_of_isPlain hc)

end NameBridge.Text
