import NameBridge.Proofs.Resolve.TypeArguments
import NameBridge.Proofs.TypeName.SourceForms
import NameBridge.Resolve.Describe

/-!
Methods as texts.

The types of a method are looked up as they stand (`Built.obfuscatedType_eq`), so a class that the table has is shown by
its obfuscated name. An array of it is another text, and no class is called like an array: it keeps its name, and the
method is not shown as it would be with the elements renamed (`formatMethod_of_arrays`).
-/

namespace NameBridge

open NameBridge.TypeName

/-- A type as a base and its number of array dimensions. -/
structure ArrayType where
  base : String
  dimensions : Nat
  deriving DecidableEq, Repr

namespace ArrayType

/-- The name of the type in the common vocabulary. -/
def text (type : ArrayType) : String := withDimensions type.base type.dimensions

/-- The type of arrays of this type. -/
def array (type : ArrayType) : ArrayType := { type with dimensions := type.dimensions + 1 }

theorem text_array (type : ArrayType) : type.array.text = type.text ++ "[]" := withDimensions_succ _ _

theorem text_of_dimensions_eq_zero {type : ArrayType} (h : type.dimensions = 0) : type.text = type.base := by
  rw [text, h, withDimensions_zero]

/-- An array is called like no element. -/
theorem not_unbracketed_text {type : ArrayType} (h : type.dimensions ≠ 0) : ¬Unbracketed type.text.toList := by
  obtain ⟨d, hd⟩ := Nat.exists_eq_succ_of_ne_zero h
  rw [text, hd, withDimensions_succ, String.toList_append]
  exact not_not_intro (List.suffix_append ..)

end ArrayType

/-- A method as `void tick(a, long)`, with these texts for its types. -/
def methodText (result name : String) (parameters : List String) : String :=
  result ++ " " ++ name ++ "(" ++ String.intercalate ", " parameters ++ ")"

/-- The types of the method are these. -/
structure MethodEntry.HasTypes (m : MethodEntry) (result : ArrayType) (parameters : List ArrayType) : Prop where
  returnType_eq : m.returnType = result.text
  parameters_eq : m.parameters = parameters.map (·.text)

namespace Table

open Resolver (oneClassTable built_oneClassTable mem_oneClassTable)

/-- The obfuscated name of the class declared with the name, or the name itself if there is none. -/
def renamed (t : Table) (name : String) : String :=
  ((t.classes.toList.find? (·.declared = name)).map (·.obfuscated)).getD name

/-- The type with its base renamed. -/
def withBaseRenamed (t : Table) (type : ArrayType) : String := withDimensions (t.renamed type.base) type.dimensions

/-- The type renamed if it is no array. -/
def withElementRenamed (t : Table) (type : ArrayType) : String :=
  if type.dimensions = 0 then t.renamed type.base else type.text

variable {t : Table}

/-- Every type is shown by the name of the class that is declared with the whole of its text. -/
theorem Built.obfuscatedType_eq (h : t.Built) (type : String) : t.obfuscatedType type = t.renamed type := by
  rw [obfuscatedType, withDeclared?_eq, h.lookup?_eq_find?]
  rfl

theorem renamed_of_not_declared {name : String} (h : ∀ c ∈ t.classes, c.declared ≠ name) : t.renamed name = name := by
  have hnone : t.classes.toList.find? (·.declared = name) = none := by
    rw [List.find?_eq_none]
    intro c hc
    simpa using h c (Array.mem_toList_iff.1 hc)
  rw [renamed, hnone, Option.map_none, Option.getD_none]

theorem Built.formatMethod_eq (h : t.Built) {m : MethodEntry} {result : ArrayType} {parameters : List ArrayType}
    (hm : m.HasTypes result parameters) :
    t.formatMethod m =
      methodText (t.renamed result.text) m.declared (parameters.map fun type => t.renamed type.text) := by
  have hparameters : m.parameters.map t.obfuscatedType = parameters.map fun type => t.renamed type.text := by
    rw [hm.parameters_eq, List.map_map]
    exact List.map_congr_left fun type _ => h.obfuscatedType_eq type.text
  rw [formatMethod, hparameters, hm.returnType_eq, h.obfuscatedType_eq]
  rfl

/-- A method is shown with any texts that its types are renamed to one by one. -/
theorem Built.formatMethod_congr (h : t.Built) {m : MethodEntry} {result : ArrayType} {parameters : List ArrayType}
    (hm : m.HasTypes result parameters) {shown : ArrayType → String}
    (hshown : ∀ type ∈ result :: parameters, t.renamed type.text = shown type) :
    t.formatMethod m = methodText (shown result) m.declared (parameters.map shown) := by
  obtain ⟨hresult, hparameters⟩ := List.forall_mem_cons.1 hshown
  rw [h.formatMethod_eq hm, hresult, List.map_congr_left hparameters]

/-! ## Arrays -/

/-- Without dimensions there is only the base to rename, and where nothing is renamed there is no difference. -/
theorem renamed_text_eq {type : ArrayType}
    (h : type.dimensions = 0 ∨ t.renamed type.base = type.base ∧ ∀ c ∈ t.classes, c.declared ≠ type.text) :
    t.renamed type.text = t.withBaseRenamed type := by
  rcases h with hzero | ⟨hbase, htext⟩
  · rw [type.text_of_dimensions_eq_zero hzero, withBaseRenamed, hzero, withDimensions_zero]
  · rw [renamed_of_not_declared htext, withBaseRenamed, hbase, ArrayType.text]

theorem renamed_text_of_unbracketed (hnames : ∀ c ∈ t.classes, Unbracketed c.declared.toList) (type : ArrayType) :
    t.renamed type.text = t.withElementRenamed type := by
  unfold withElementRenamed
  split
  · rename_i hzero
    rw [type.text_of_dimensions_eq_zero hzero]
  · rename_i harray
    apply renamed_of_not_declared
    intro c hc hdeclared
    exact ArrayType.not_unbracketed_text harray (hdeclared ▸ hnames c hc)

theorem withElementRenamed_eq_iff (type : ArrayType) :
    t.withElementRenamed type = t.withBaseRenamed type ↔ type.dimensions = 0 ∨ t.renamed type.base = type.base := by
  unfold withElementRenamed withBaseRenamed
  split
  · rename_i hzero
    simp only [hzero, withDimensions_zero, true_or]
  · rename_i harray
    rw [ArrayType.text, withDimensions_left_inj, eq_comm]
    simp only [harray, false_or]

theorem withElementRenamed_array (type : ArrayType) : t.withElementRenamed type.array = type.text ++ "[]" := by
  have harray : type.array.dimensions ≠ 0 := Nat.succ_ne_zero _
  rw [withElementRenamed, if_neg harray, type.text_array]

theorem withElementRenamed_array_iff (type : ArrayType) :
    t.withElementRenamed type.array = t.withElementRenamed type ++ "[]" ↔
      type.dimensions ≠ 0 ∨ t.renamed type.base = type.base := by
  rw [withElementRenamed_array, String.append_left_inj, withElementRenamed]
  split
  · rename_i hzero
    rw [type.text_of_dimensions_eq_zero hzero, eq_comm]
    simp only [hzero, ne_eq, not_true_eq_false, false_or]
  · rename_i harray
    simp only [harray, ne_eq, not_false_eq_true, true_or]

/-- A method is shown with the base of each type renamed as long as the arrays in it have bases that are not renamed.
Where no class is called like an array, arrays are not renamed at all: the base of an array is shown renamed only if
that makes no difference, and so is one more dimension on a type that is no array. -/
theorem formatMethod_of_arrays (h : t.Built) :
    (∀ m result parameters, m.HasTypes result parameters →
      (∀ type ∈ result :: parameters,
        type.dimensions = 0 ∨ t.renamed type.base = type.base ∧ ∀ c ∈ t.classes, c.declared ≠ type.text) →
      t.formatMethod m = methodText (t.withBaseRenamed result) m.declared (parameters.map t.withBaseRenamed)) ∧
    ((∀ c ∈ t.classes, Unbracketed c.declared.toList) →
      (∀ m result parameters, m.HasTypes result parameters →
        t.formatMethod m =
          methodText (t.withElementRenamed result) m.declared (parameters.map t.withElementRenamed)) ∧
      ∀ type,
        (t.withElementRenamed type = t.withBaseRenamed type ↔
          type.dimensions = 0 ∨ t.renamed type.base = type.base) ∧
        (t.withElementRenamed type.array = t.withElementRenamed type ++ "[]" ↔
          type.dimensions ≠ 0 ∨ t.renamed type.base = type.base)) := by
  constructor
  · intro m result parameters hm htypes
    exact h.formatMethod_congr hm fun type htype => renamed_text_eq (htypes type htype)
  · intro hnames
    refine ⟨fun m result parameters hm => ?_, fun type => ?_⟩
    · exact h.formatMethod_congr hm fun type _ => renamed_text_of_unbracketed hnames type
    · exact ⟨withElementRenamed_eq_iff type, withElementRenamed_array_iff type⟩

theorem renamed_oneClassTable (declared name : String) :
    (oneClassTable declared).renamed name = if declared = name then "a" else name := by
  have hclasses : (oneClassTable declared).classes.toList = [.ofMembers declared "a" []] := by
    rw [oneClassTable, Resolver.classes_oneClass]
  unfold renamed
  rw [hclasses, List.find?_singleton, ClassEntry.declared_ofMembers]
  by_cases hname : declared = name
  · simp [hname]
  · simp [hname]

/-- A class and an array of primitives, and no more of an array of the class than its name. -/
theorem formatMethod_of_class_and_arrays :
    (oneClassTable "net.Block").formatMethod ⟨"integer[]", "put", "f", ["net.Block", "long"]⟩ =
      "integer[] put(a, long)" ∧
    (oneClassTable "net.Block").formatMethod ⟨"net.Block", "put", "f", ["net.Block[][]"]⟩ =
      "a put(net.Block[][])" := by
  obtain ⟨hkept, harrays⟩ := formatMethod_of_arrays (built_oneClassTable "net.Block")
  have hnames : ∀ c ∈ (oneClassTable "net.Block").classes, Unbracketed c.declared.toList := by
    intro c hc
    rw [mem_oneClassTable.1 hc, ClassEntry.declared_ofMembers]
    decide
  constructor
  · rw [hkept _ ⟨"integer", 1⟩ [⟨"net.Block", 0⟩, ⟨"long", 0⟩] ⟨by decide, by decide⟩]
    · simp only [List.map_cons, List.map_nil, withBaseRenamed, renamed_oneClassTable]
      decide +kernel
    · intro type htype
      simp only [List.mem_cons, List.not_mem_nil, or_false] at htype
      rcases htype with rfl | rfl | rfl
      · refine .inr ⟨by rw [renamed_oneClassTable]; decide, fun c hc => ?_⟩
        rw [mem_oneClassTable.1 hc, ClassEntry.declared_ofMembers]
        decide
      · exact .inl rfl
      · exact .inl rfl
  · rw [(harrays hnames).1 _ ⟨"net.Block", 0⟩ [⟨"net.Block", 2⟩] ⟨by decide, by decide⟩]
    simp only [List.map_cons, List.map_nil, withElementRenamed, renamed_oneClassTable]
    decide +kernel

/-- A parameter of a class is shown renamed, and an array of it is not. -/
theorem formatMethod_of_array_of_class :
    (oneClassTable "net.Block").formatMethod ⟨"void", "put", "f", ["net.Block"]⟩ = "void put(a)" ∧
    (oneClassTable "net.Block").formatMethod ⟨"void", "put", "f", ["net.Block[]"]⟩ = "void put(net.Block[])" ∧
    methodText ((oneClassTable "net.Block").withBaseRenamed ⟨"void", 0⟩) "put"
      ([⟨"net.Block", 1⟩].map (oneClassTable "net.Block").withBaseRenamed) = "void put(a[])" := by
  have hbuilt := built_oneClassTable "net.Block"
  refine ⟨?_, ?_, ?_⟩
  · have htypes : MethodEntry.HasTypes ⟨"void", "put", "f", ["net.Block"]⟩ ⟨"void", 0⟩ [⟨"net.Block", 0⟩] :=
      ⟨by decide, by decide⟩
    rw [hbuilt.formatMethod_eq htypes]
    simp only [List.map_cons, List.map_nil, renamed_oneClassTable]
    decide +kernel
  · have htypes : MethodEntry.HasTypes ⟨"void", "put", "f", ["net.Block[]"]⟩ ⟨"void", 0⟩ [⟨"net.Block", 1⟩] :=
      ⟨by decide, by decide⟩
    rw [hbuilt.formatMethod_eq htypes]
    simp only [List.map_cons, List.map_nil, renamed_oneClassTable]
    decide +kernel
  · simp only [List.map_cons, List.map_nil, withBaseRenamed, renamed_oneClassTable]
    decide +kernel

end Table

end NameBridge
