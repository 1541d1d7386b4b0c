import NameBridge.TypeName.Source

/-!
Array suffixes.

A text that does not end in an array suffix itself is given back, with the number of its dimensions, when
suffixes are put behind it and split off again (`splitArraySuffix_withDimensions`). So only what stands before
the suffixes is normalized, and a name without slashes stays as it is.
-/

namespace NameBridge.TypeName

/-- The text ends neither in `[]` nor in three dots. -/
def Unsuffixed (cs : List Char) : Prop := ¬['[', ']'] <:+ cs ∧ ¬['.', '.', '.'] <:+ cs

instance (cs : List Char) : Decidable (Unsuffixed cs) := inferInstanceAs (Decidable (_ ∧ _))

theorem mem_withDimensions {base : String} {d : Nat} {c : Char} (h : c ∈ (withDimensions base d).toList) :
    c ∈ base.toList ∨ c = '[' ∨ c = ']' := by
  induction d with
  | zero => exact .inl h
  | succ d ih =>
    rw [withDimensions_succ, String.toList_append, List.mem_append] at h
    rcases h with h | h
    · exact ih h
    · exact .inr (by simpa using h)

theorem splitBrackets_eq_self {cs : List Char} (h : ¬['[', ']'] <:+ cs) : splitBrackets cs.reverse = (cs.reverse, 0) := by
  unfold splitBrackets
  split
  · rename_i rest hrev
    refine absurd ⟨rest.reverse, ?_⟩ h
    rw [← List.reverse_reverse cs, hrev]
    simp
  · rfl

theorem reverse_withDimensions_succ (base : String) (d : Nat) :
    (withDimensions base (d + 1)).toList.reverse = ']' :: '[' :: (withDimensions base d).toList.reverse := by
  rw [withDimensions_succ, String.toList_append, List.reverse_append]
  rfl

theorem splitBrackets_withDimensions {base : String} (h : ¬['[', ']'] <:+ base.toList) (d : Nat) :
    splitBrackets (withDimensions base d).toList.reverse = (base.toList.reverse, d) := by
  induction d with
  | zero => exact splitBrackets_eq_self h
  | succ d ih => rw [reverse_withDimensions_succ, splitBrackets, ih]

/-- The suffixes put behind a text that ends in no `[]` are split off again. If there are none, three dots at its end
would be taken for one. -/
theorem splitArraySuffix_suffixed {base : String} {d : Nat} (hbrackets : ¬['[', ']'] <:+ base.toList)
    (hdots : d = 0 → ¬['.', '.', '.'] <:+ base.toList) : splitArraySuffix (withDimensions base d) = (base, d) := by
  have hdots (rest : List Char) : (withDimensions base d).toList.reverse ≠ '.' :: '.' :: '.' :: rest := by
    intro hrev
    cases d with
    | zero =>
      refine hdots rfl ⟨rest.reverse, ?_⟩
      rw [← List.reverse_reverse base.toList, ← withDimensions_zero base, hrev]
      simp
    | succ d =>
      rw [reverse_withDimensions_succ] at hrev
      cases hrev
  unfold splitArraySuffix
  split
  rename_i pair cs dimensions heq
  split at heq
  · exact absurd ‹_› (hdots _)
  · rw [splitBrackets_withDimensions hbrackets] at heq
    cases heq
    simp

/-- The suffixes put behind a text without any are split off again. -/
theorem splitArraySuffix_withDimensions {base : String} (h : Unsuffixed base.toList) (d : Nat) :
    splitArraySuffix (withDimensions base d) = (base, d) :=
  splitArraySuffix_suffixed h.1 fun _ => h.2

/-- A text that opens no bracket has no type arguments. -/
theorem eraseTypeArguments_eq_self {name : String} (h : '<' ∉ name.toList) : eraseTypeArguments name = name :=
  if_neg h

/-! ## Names in the common vocabulary -/

theorem map_dot_of_not_mem {cs : List Char} (h : '/' ∉ cs) : (cs.map fun c => if c = '/' then '.' else c) = cs := by
  refine (List.map_congr_left fun c hc => ?_).trans (List.map_id cs)
  refine if_neg fun hslash => h ?_
  rwa [hslash] at hc

/-- A text that has no dots once it is dotted had no slashes. -/
theorem map_dot_eq_self {cs : List Char} (h : '.' ∉ cs.map fun c => if c = '/' then '.' else c) :
    (cs.map fun c => if c = '/' then '.' else c) = cs :=
  map_dot_of_not_mem fun hmem => h (List.mem_map.2 ⟨'/', hmem, rfl⟩)

theorem normalizeBase_of_no_slash {base : String} (hslash : '/' ∉ base.toList) (hint : base ≠ "int") :
    normalizeBase base = base := by
  have hdotted : dotted base = base := by
    unfold dotted
    rw [← String.toList_inj, String.toList_map, map_dot_of_not_mem hslash]
  unfold normalizeBase
  rw [if_neg hint, hdotted]

/-- Only the base of a type is normalized. -/
theorem normalize_withDimensions {base : String} (h : Unsuffixed base.toList) (d : Nat) :
    normalize (withDimensions base d) = withDimensions (normalizeBase base) d := by
  unfold normalize
  rw [splitArraySuffix_withDimensions h]

end NameBridge.TypeName
