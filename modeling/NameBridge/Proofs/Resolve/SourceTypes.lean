import NameBridge.Proofs.Resolve.TypeArguments
import NameBridge.Proofs.TypeName.SourceForms

/-!
Argument types and their normal form.

An argument type is looked up as it is written, and brought into the common vocabulary only if no class corresponds
to it. Class names are dotted, so a type with slashes in it is never found and keeps its name
(`translateType_of_slash`). All other differences between source forms of one normal form are in the suffixes, or
between the two words for `int`, and no class depends on them. So two such source forms are translated alike, unless
one of them has slashes, the other has none, and the class has another name on the canonical side
(`translateType_of_normalize_eq`).
-/

namespace NameBridge

open Text NameBridge.TypeName

/-- There are no blanks in the text and no type arguments. -/
structure IsSourceText (text : String) : Prop where
  not_blank : ∀ c ∈ text.toList, isBlank c = false
  no_bracket : '<' ∉ text.toList

theorem isSourceText_iff {text : String} :
    IsSourceText text ↔ (text.toList.all fun c => !isBlank c) = true ∧ '<' ∉ text.toList := by
  simp only [List.all_eq_true, Bool.not_eq_true']
  exact ⟨fun h => ⟨h.not_blank, h.no_bracket⟩, fun h => ⟨h.1, h.2⟩⟩

instance (text : String) : Decidable (IsSourceText text) := decidable_of_iff _ isSourceText_iff.symm

theorem IsSourceText.isKey {text : String} (h : IsSourceText text) : IsKey text :=
  ⟨trimmed_eq_self h.not_blank, h.no_bracket⟩

theorem IsSourceText.base {text : String} (h : IsSourceText text) : IsSourceText (splitArraySuffix text).1 :=
  ⟨fun c hc => h.not_blank c (mem_of_mem_base hc), fun hmem => h.no_bracket (mem_of_mem_base hmem)⟩

/-- The class names are dotted, and none of them is a word for the primitive `int`. -/
def Table.HasDottedClasses (t : Table) : Prop :=
  ∀ c ∈ t.classes, '/' ∉ c.declared.toList ∧ c.declared ≠ "int" ∧ c.declared ≠ "integer"

namespace Resolver

variable {community canonical : Table} {text a b : String}

/-- The base is translated if a class corresponds to it, and normalized otherwise. -/
theorem translateType_of_isSourceText (r : Resolver) (h : IsSourceText text) :
    r.translateType text =
      withDimensions ((r.className? (splitArraySuffix text).1).getD (normalBase text)) (splitArraySuffix text).2 := by
  have hkey : eraseTypeArguments (trimmed text) = text := h.isKey.classKey_eq
  unfold translateType
  simp only [hkey]
  cases r.className? (splitArraySuffix text).1 with
  | none => rw [Option.getD_none, normalize_eq]
  | some name => rw [Option.getD_some]

theorem className?_eq_none (hcommunity : community.Built) (hcanonical : canonical.Built) (name : String)
    (hname : IsSourceText name) (h : ∀ c ∈ community.classes, c.declared ≠ name) :
    (between community canonical).className? name = none := by
  rw [Option.eq_none_iff_forall_ne_some]
  intro found hfound
  obtain ⟨c, -, ⟨hc, -, -⟩, hkey, -⟩ := (className?_eq_some_iff hcommunity hcanonical).1 hfound
  rw [hname.isKey.classKey_eq] at hkey
  exact h c hc hkey

/-! ## Slashes -/

/-- A type with slashes keeps its name. -/
theorem translateType_of_slash (hcommunity : community.Built) (hcanonical : canonical.Built)
    (hdotted : community.HasDottedClasses) (htext : IsSourceText text) (hslash : '/' ∈ text.toList) :
    (between community canonical).translateType text = normalize text := by
  have hnone : (between community canonical).className? (splitArraySuffix text).1 = none := by
    refine className?_eq_none hcommunity hcanonical _ htext.base fun c hc hdeclared => ?_
    exact (hdotted c hc).1 (hdeclared ▸ slash_mem_base_iff.2 hslash)
  rw [translateType_of_isSourceText _ htext, hnone, Option.getD_none, normalize_eq]

/-- Without slashes the base and the normal base lead to the same class. -/
theorem className?_base (hcommunity : community.Built) (hcanonical : canonical.Built)
    (hdotted : community.HasDottedClasses) (hslash : '/' ∉ text.toList) :
    (between community canonical).className? (splitArraySuffix text).1 =
      (between community canonical).className? (normalBase text) := by
  by_cases hint : (splitArraySuffix text).1 = "int"
  · have hinteger : normalBase text = "integer" := if_pos hint
    rw [hint, hinteger,
      className?_eq_none hcommunity hcanonical "int" (by decide) fun c hc => (hdotted c hc).2.1,
      className?_eq_none hcommunity hcanonical "integer" (by decide) fun c hc => (hdotted c hc).2.2]
  · have hbase : '/' ∉ (splitArraySuffix text).1.toList := fun hmem => hslash (slash_mem_base_iff.1 hmem)
    rw [normalBase, normalizeBase_of_no_slash hbase hint]

/-- A type without slashes is translated by its normal form alone. -/
theorem translateType_of_no_slash (hcommunity : community.Built) (hcanonical : canonical.Built)
    (hdotted : community.HasDottedClasses) (htext : IsSourceText text) (hslash : '/' ∉ text.toList) :
    (between community canonical).translateType text =
      withDimensions (((between community canonical).className? (normalBase text)).getD (normalBase text))
        (splitArraySuffix text).2 := by
  rw [translateType_of_isSourceText _ htext, className?_base hcommunity hcanonical hdotted hslash]

/-- A type without slashes keeps its name if no class corresponds to it, or one with the same name. -/
theorem translateType_eq_normalize_iff (hcommunity : community.Built) (hcanonical : canonical.Built)
    (hdotted : community.HasDottedClasses) (htext : IsSourceText text) (hslash : '/' ∉ text.toList) :
    (between community canonical).translateType text = normalize text ↔
      ∀ name, (between community canonical).className? (normalBase text) = some name → name = normalBase text := by
  rw [translateType_of_no_slash hcommunity hcanonical hdotted htext hslash, normalize_eq, withDimensions_left_inj]
  cases (between community canonical).className? (normalBase text) with
  | none => simp
  | some name => simp

/-! ## Source forms of one normal form -/

/-- Two source forms of one normal form are translated alike exactly if both have slashes or neither has, or if the
class, if there is one, has the same name on both sides. -/
theorem translateType_of_normalize_eq (hcommunity : community.Built) (hcanonical : canonical.Built)
    (hdotted : community.HasDottedClasses) (ha : IsSourceText a) (hb : IsSourceText b)
    (h : normalize a = normalize b) :
    (between community canonical).translateType a = (between community canonical).translateType b ↔
      ('/' ∈ a.toList ↔ '/' ∈ b.toList) ∨
        ∀ name, (between community canonical).className? (normalBase a) = some name → name = normalBase a := by
  obtain ⟨hbase, hdimensions⟩ := normalize_eq_iff.1 h
  by_cases hslasha : '/' ∈ a.toList <;> by_cases hslashb : '/' ∈ b.toList
  · rw [translateType_of_slash hcommunity hcanonical hdotted ha hslasha,
      translateType_of_slash hcommunity hcanonical hdotted hb hslashb]
    simp only [h, hslasha, hslashb, true_or]
  · rw [translateType_of_slash hcommunity hcanonical hdotted ha hslasha, h, eq_comm,
      translateType_eq_normalize_iff hcommunity hcanonical hdotted hb hslashb, hbase]
    simp only [hslasha, hslashb, iff_false, not_true_eq_false, false_or]
  · rw [translateType_of_slash hcommunity hcanonical hdotted hb hslashb, ← h,
      translateType_eq_normalize_iff hcommunity hcanonical hdotted ha hslasha]
    simp only [hslasha, hslashb, iff_true, false_or]
  · rw [translateType_of_no_slash hcommunity hcanonical hdotted ha hslasha,
      translateType_of_no_slash hcommunity hcanonical hdotted hb hslashb, hbase, hdimensions]
    simp only [hslasha, hslashb, true_or]

/-- A class that is called `net.Block` on the community side and `org.Stone` on the canonical side. -/
abbrev blockAndStone : Resolver := between (oneClassTable "net.Block") (oneClassTable "org.Stone")

theorem hasDottedClasses_oneClassTable {declared : String} (hslash : '/' ∉ declared.toList) (hint : declared ≠ "int")
    (hinteger : declared ≠ "integer") : (oneClassTable declared).HasDottedClasses := by
  intro c hc
  rw [mem_oneClassTable.1 hc, ClassEntry.declared_ofMembers]
  exact ⟨hslash, hint, hinteger⟩

/-- Three dots and brackets, and the two words for the primitive, are translated alike. -/
theorem translateType_of_varargs :
    blockAndStone.translateType "net.Block[]..." = blockAndStone.translateType "net.Block[][]" ∧
    blockAndStone.translateType "int..." = blockAndStone.translateType "integer[]" := by
  have hdotted : (oneClassTable "net.Block").HasDottedClasses :=
    hasDottedClasses_oneClassTable (by decide) (by decide) (by decide)
  have hdots : normalize "net.Block[]..." = "net.Block[][]" := by decide +kernel
  have hbrackets : normalize "net.Block[][]" = "net.Block[][]" := by decide +kernel
  have hint : normalize "int..." = "integer[]" := by decide +kernel
  have hinteger : normalize "integer[]" = "integer[]" := by decide +kernel
  constructor
  · exact (translateType_of_normalize_eq (built_oneClassTable _) (built_oneClassTable _) hdotted (by decide)
      (by decide) (hdots.trans hbrackets.symm)).2 (.inl (by decide))
  · exact (translateType_of_normalize_eq (built_oneClassTable _) (built_oneClassTable _) hdotted (by decide)
      (by decide) (hint.trans hinteger.symm)).2 (.inl (by decide))

/-- With a slash the class is not found. -/
theorem translateType_of_slashed_class :
    (oneClassTable "net.Block").HasDottedClasses ∧ (oneClassTable "org.Stone").HasDottedClasses ∧
      normalize "net/Block" = normalize "net.Block" ∧
      blockAndStone.translateType "net/Block" = "net.Block" ∧ blockAndStone.translateType "net.Block" = "org.Stone" := by
  have hdotted : (oneClassTable "net.Block").HasDottedClasses :=
    hasDottedClasses_oneClassTable (by decide) (by decide) (by decide)
  have hslashed : normalize "net/Block" = "net.Block" := by decide +kernel
  have hplain : normalize "net.Block" = "net.Block" := by decide +kernel
  refine ⟨hdotted, hasDottedClasses_oneClassTable (by decide) (by decide) (by decide), hslashed.trans hplain.symm, ?_, ?_⟩
  · rw [translateType_of_slash (built_oneClassTable _) (built_oneClassTable _) hdotted (by decide) (by decide), hslashed]
  · have hfound : blockAndStone.className? "net.Block" = some "org.Stone" :=
      className?_oneClassTable_eq_some_iff.2 (by decide)
    have hsplit : splitArraySuffix "net.Block" = ("net.Block", 0) := splitArraySuffix_withDimensions (by decide) 0
    rw [translateType_of_isSourceText _ (by decide), hsplit, hfound, Option.getD_some, withDimensions_zero]

end Resolver

end NameBridge
