import Mathlib.Data.List.Infix
import NameBridge.Proofs.TypeName.SourceForms

/-!
Normal forms are source forms too, and normalizing them again changes nothing, with one exception.

The suffixes of a normal form are split off as they were put on, and its base has no slashes to be replaced. But a name
without suffixes that ends in three dots once it is dotted is then taken for one with a dimension
(`normalize_normalize_iff`). Three dots come out of dots and slashes only if a slash stands beside a dot or beside
another slash, so in all other texts the dimensions are settled by the first pass (`normalize_stable`).
-/

namespace NameBridge.TypeName

/-- No slash stands next to a dot or to another slash. -/
def SlashesApart (cs : List Char) : Prop := ∀ pair ∈ [['/', '/'], ['/', '.'], ['.', '/']], ¬pair <:+: cs

instance (cs : List Char) : Decidable (SlashesApart cs) := inferInstanceAs (Decidable (∀ _ ∈ _, _))

/-- The name has no suffix and ends in three dots once it is dotted. -/
def GainsDimension (text : String) : Prop :=
  (splitArraySuffix text).2 = 0 ∧ ['.', '.', '.'] <:+ (normalBase text).toList

instance (text : String) : Decidable (GainsDimension text) := inferInstanceAs (Decidable (_ ∧ _))

variable {text : String}

/-! ## The base of a normal form -/

theorem dotted_eq_self {name : String} (h : '.' ∉ (dotted name).toList) : dotted name = name := by
  rw [toList_dotted] at h
  rw [← String.toList_inj, toList_dotted, map_dot_eq_self h]

theorem slash_not_mem_normalBase (text : String) : '/' ∉ (normalBase text).toList := by
  unfold normalBase normalizeBase
  split
  · decide
  · exact not_mem_dotted _

/-- The word `int` is replaced, and dotting a name does not bring it back. -/
theorem normalBase_ne_int (text : String) : normalBase text ≠ "int" := by
  unfold normalBase normalizeBase
  split
  · decide
  · intro h
    have hself : dotted (splitArraySuffix text).1 = (splitArraySuffix text).1 := dotted_eq_self (h ▸ by decide)
    exact absurd (hself.symm.trans h) ‹_›

theorem normalizeBase_normalBase (text : String) : normalizeBase (normalBase text) = normalBase text :=
  normalizeBase_of_no_slash (slash_not_mem_normalBase text) (normalBase_ne_int text)

/-- There are slashes neither in the base nor in the suffixes. -/
theorem slash_not_mem_normalize (text : String) : '/' ∉ (normalize text).toList := by
  rw [normalize_eq]
  intro hmem
  rcases mem_withDimensions hmem with h | h | h
  · exact slash_not_mem_normalBase text h
  · exact absurd h (by decide)
  · exact absurd h (by decide)

/-! ## The dimensions of a normal form -/

/-- A pair of brackets at the end is one dimension more. -/
theorem splitArraySuffix_append_brackets (front : String) :
    splitArraySuffix (front ++ "[]") =
      (String.ofList (splitBrackets front.toList.reverse).1.reverse, (splitBrackets front.toList.reverse).2 + 1) := by
  unfold splitArraySuffix
  rw [String.toList_append, List.reverse_append]
  rfl

/-- Three dots at the end are split off like a pair of brackets. -/
theorem splitArraySuffix_append_dots (front : String) :
    splitArraySuffix (front ++ "...") = splitArraySuffix (front ++ "[]") := by
  rw [splitArraySuffix_append_brackets]
  unfold splitArraySuffix
  rw [String.toList_append, List.reverse_append]
  rfl

theorem dimensions_pos_of_dots (h : ['.', '.', '.'] <:+ text.toList) : 0 < (splitArraySuffix text).2 := by
  obtain ⟨front, hfront⟩ := h
  have htext : text = String.ofList front ++ "..." := by
    rw [← String.toList_inj, ← hfront, String.toList_append, String.toList_ofList]
    rfl
  rw [htext, splitArraySuffix_append_dots, splitArraySuffix_append_brackets]
  exact Nat.succ_pos _

theorem base_of_dimensions_eq_zero (h : (splitArraySuffix text).2 = 0) : (splitArraySuffix text).1 = text := by
  obtain ⟨-, htext | ⟨d, hd, -⟩⟩ := splitArraySuffix_spec text
  · rw [h, withDimensions_zero] at htext
    exact htext.symm
  · omega

/-- The suffixes of a normal form are split off as they were put on. -/
theorem splitArraySuffix_normalize (h : ¬GainsDimension text) :
    splitArraySuffix (normalize text) = (normalBase text, (splitArraySuffix text).2) :=
  splitArraySuffix_suffixed (splitArraySuffix_spec text).1.normalizeBase fun hzero hdots => h ⟨hzero, hdots⟩

/-- Normalizing again changes nothing exactly if the name gains no dimension when it is dotted. -/
theorem normalize_normalize_iff : normalize (normalize text) = normalize text ↔ ¬GainsDimension text := by
  constructor
  · rintro hsame ⟨hzero, hdots⟩
    -- the normal form is the dotted name itself, and its dots count as a dimension that the name does not have
    have hdimensions := (normalize_eq_iff.1 hsame).2
    have hnormal : normalize text = normalBase text := by rw [normalize_eq, hzero, withDimensions_zero]
    have hpos := dimensions_pos_of_dots hdots
    rw [hnormal, hzero] at hdimensions
    omega
  · intro h
    rw [normalize_eq (normalize text), normalBase, splitArraySuffix_normalize h, normalizeBase_normalBase, ← normalize_eq]

example : GainsDimension "Foo//." ∧ normalize "Foo//." = "Foo..." ∧ normalize "Foo..." = "Foo[]" := by decide +kernel

/-! ## Slashes apart -/

/-- Two neighbours that are dots once the text is dotted were dots before. -/
theorem SlashesApart.both_dots {cs : List Char} {a b : Char} (h : SlashesApart cs) (hab : [a, b] <:+: cs)
    (ha : (if a = '/' then '.' else a) = '.') (hb : (if b = '/' then '.' else b) = '.') : a = '.' ∧ b = '.' := by
  rcases ite_eq_iff.1 ha with ⟨rfl, -⟩ | ⟨-, rfl⟩ <;> rcases ite_eq_iff.1 hb with ⟨rfl, -⟩ | ⟨-, rfl⟩
  · exact absurd hab (h ['/', '/'] (by decide))
  · exact absurd hab (h ['/', '.'] (by decide))
  · exact absurd hab (h ['.', '/'] (by decide))
  · exact ⟨rfl, rfl⟩

/-- A text that ends in three dots once it is dotted ended in them before. -/
theorem SlashesApart.dots_suffix {cs : List Char} (h : SlashesApart cs)
    (hdots : ['.', '.', '.'] <:+ cs.map fun c => if c = '/' then '.' else c) : ['.', '.', '.'] <:+ cs := by
  obtain ⟨last, hlast, heq⟩ := List.suffix_map_iff.1 hdots
  obtain ⟨a, tail, rfl, ha, heq⟩ := List.map_eq_cons_iff.1 heq.symm
  obtain ⟨b, tail, rfl, hb, heq⟩ := List.map_eq_cons_iff.1 heq
  obtain ⟨c, tail, rfl, hc, heq⟩ := List.map_eq_cons_iff.1 heq
  rw [List.map_eq_nil_iff] at heq
  subst heq
  have hab : [a, b] <:+: cs := List.IsInfix.trans ⟨[], [c], rfl⟩ hlast.isInfix
  have hbc : [b, c] <:+: cs := List.IsInfix.trans ⟨[a], [], rfl⟩ hlast.isInfix
  obtain ⟨rfl, rfl⟩ := h.both_dots hab ha hb
  obtain ⟨-, rfl⟩ := h.both_dots hbc hb hc
  exact hlast

theorem SlashesApart.not_gainsDimension (h : SlashesApart text.toList) : ¬GainsDimension text := by
  rintro ⟨hzero, hdots⟩
  have hbase : (splitArraySuffix text).1 = text := base_of_dimensions_eq_zero hzero
  unfold normalBase normalizeBase at hdots
  rw [hbase] at hdots
  split at hdots
  · exact absurd hdots (by decide)
  · rw [toList_dotted] at hdots
    have hpos := dimensions_pos_of_dots (h.dots_suffix hdots)
    omega

/-- If no slash stands next to a dot or to another slash, then normalizing again changes nothing, there are no slashes
left, and the normal form has the dimensions of the source form. Three dots at the end count as one of them: they are
normalized like a pair of brackets. -/
theorem normalize_stable (h : SlashesApart text.toList) :
    normalize (normalize text) = normalize text ∧
    '/' ∉ (normalize text).toList ∧
    (splitArraySuffix (normalize text)).2 = (splitArraySuffix text).2 ∧
    ∀ front, text = front ++ "..." →
      normalize text = normalize (front ++ "[]") ∧ ['[', ']'] <:+ (normalize text).toList := by
  refine ⟨normalize_normalize_iff.2 h.not_gainsDimension, slash_not_mem_normalize text, ?_, ?_⟩
  · rw [splitArraySuffix_normalize h.not_gainsDimension]
  · rintro front rfl
    have hsplit := splitArraySuffix_append_dots front
    constructor
    · rw [normalize_eq_iff, normalBase, normalBase, hsplit]
      exact ⟨rfl, rfl⟩
    · rw [normalize_eq, hsplit, splitArraySuffix_append_brackets, withDimensions_succ, String.toList_append]
      exact List.suffix_append _ _

/-- Three dots in front of brackets stay, and those at the end have become a pair of brackets. -/
theorem normalize_of_mixed_suffixes :
    SlashesApart "net/Block...[]...".toList ∧
    normalize "net/Block...[]..." = "net.Block...[][]" ∧
    normalize "net.Block...[][]" = "net.Block...[][]" ∧
    (splitArraySuffix "net.Block...[][]").2 = (splitArraySuffix "net/Block...[]...").2 ∧
    normalize "net/Block...[]..." = normalize "net/Block...[][]" := by
  have hapart : SlashesApart "net/Block...[]...".toList := by decide +kernel
  have hnormal : normalize "net/Block...[]..." = "net.Block...[][]" := by decide +kernel
  obtain ⟨hagain, -, hdimensions, hdots⟩ := normalize_stable hapart
  rw [hnormal] at hagain hdimensions
  exact ⟨hapart, hnormal, hagain, hdimensions, (hdots "net/Block...[]" (by decide)).1⟩

end NameBridge.TypeName
