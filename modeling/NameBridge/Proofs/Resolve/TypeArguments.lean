import NameBridge.Proofs.Resolve.Bijection
import NameBridge.Proofs.Resolve.Methods
import NameBridge.Proofs.TypeName.Erasure

/-!
Type arguments in names to resolve.

Everything is resolved by its key alone (`method?_congr` and the lemmas before it). A key is trimmed first and loses
its type arguments then, so it is the name without them unless blanks come to stand at its ends, as in `Block <T>`.
Where they do not, type arguments have no part in the answer; where they do, some class is missed, though never the
methods that the class of the owner declares itself (`resolved_without_arguments`).
-/

namespace NameBridge

open Text NameBridge.TypeName

/-- The text without type arguments, and without blanks around what is left. -/
def withoutArguments (text : String) : String := trimmed (eraseTypeArguments text)

/-- No blanks are left around the text once its type arguments are gone. -/
def Settled (text : String) : Prop := trimmed (classKey text) = classKey text

instance (text : String) : Decidable (Settled text) := inferInstanceAs (Decidable (_ = _))

theorem trimmed_classKey (text : String) : trimmed (classKey text) = withoutArguments text := trimmed_erase_trimmed text

theorem isKey_withoutArguments (text : String) : IsKey (withoutArguments text) := by
  constructor
  · unfold withoutArguments trimmed
    rw [String.toList_ofList, trim_trim]
  · intro hmem
    rw [withoutArguments, trimmed, String.toList_ofList] at hmem
    exact not_mem_eraseTypeArguments text (mem_of_mem_trim hmem)

theorem classKey_withoutArguments (text : String) : classKey (withoutArguments text) = withoutArguments text :=
  (isKey_withoutArguments text).classKey_eq

theorem Settled.classKey_eq {text : String} (h : Settled text) : classKey text = classKey (withoutArguments text) := by
  rw [classKey_withoutArguments, ← trimmed_classKey, h]

/-- A key that is made a key once more has no blanks around it. -/
theorem classKey_classKey (text : String) : classKey (classKey text) = withoutArguments text := by
  have hkey : classKey (classKey text) = eraseTypeArguments (withoutArguments text) :=
    congrArg eraseTypeArguments (trimmed_classKey text)
  rw [hkey, eraseTypeArguments_eq_self (isKey_withoutArguments text).no_bracket]

namespace Resolver

variable {r : Resolver} {name name' : String}

/-! ## Only the key counts -/

theorem canonicalClass?_congr (r : Resolver) (h : classKey name = classKey name') :
    r.canonicalClass? name = r.canonicalClass? name' := by
  unfold canonicalClass?
  rw [h]

theorem className?_congr (r : Resolver) (h : classKey name = classKey name') :
    r.className? name = r.className? name' := by
  unfold className?
  rw [canonicalClass?_congr r h]

theorem fieldName?_congr (r : Resolver) (h : classKey name = classKey name') (field : String) :
    r.fieldName? name field = r.fieldName? name' field := by
  unfold fieldName?
  rw [canonicalClass?_congr r h]

theorem translateType_congr (r : Resolver) (h : classKey name = classKey name') :
    r.translateType name = r.translateType name' := by
  unfold translateType
  unfold classKey at h
  rw [h]

theorem ownOverload?_congr (r : Resolver) (h : classKey name = classKey name') (method : String) (types : List String) :
    r.ownOverload? method types name = r.ownOverload? method types name' := by
  unfold ownOverload?
  rw [canonicalClass?_congr r h]

theorem method?_congr (r : Resolver) (h : classKey name = classKey name') {arguments arguments' : List String}
    (harguments : arguments.map r.translateType = arguments'.map r.translateType) (method : String)
    (hierarchy : Hierarchy) :
    r.method? name method arguments hierarchy = r.method? name' method arguments' hierarchy := by
  unfold method?
  rw [h, harguments]

/-! ## Without type arguments -/

theorem isComplete_of_ownOverload? {method : String} {types : List String} {found : MethodEntry}
    (h : r.ownOverload? method types name = some found) : r.isComplete = true := by
  obtain ⟨community, canonical⟩ := r
  cases community with
  | none => simp [ownOverload?, canonicalClass?] at h
  | some community =>
    cases canonical with
    | none => simp [ownOverload?, canonicalClass?] at h
    | some canonical => rfl

/-- The class of the owner is looked up by the key of its key, so its own methods are found. -/
theorem method?_of_own {owner method : String} {arguments : List String} {found : MethodEntry}
    (h : r.ownOverload? method (arguments.map r.translateType) (withoutArguments owner) = some found)
    (hierarchy : Hierarchy) : r.method? owner method arguments hierarchy = some found := by
  have hown : r.ownOverload? method (arguments.map r.translateType) (classKey owner) = some found := by
    rw [← h]
    apply ownOverload?_congr
    rw [classKey_classKey, classKey_withoutArguments]
  unfold method?
  rw [if_pos (isComplete_of_ownOverload? hown), search, dif_neg List.not_mem_nil, hown]

theorem hasBuilt_between {community canonical : Table} (hcommunity : community.Built) (hcanonical : canonical.Built) :
    (between community canonical).HasBuilt := by
  constructor
  · rintro t ⟨⟩
    exact hcommunity
  · rintro t ⟨⟩
    exact hcanonical

/-- A table with one class that has no members. -/
def oneClassTable (declared : String) : Table := (Table.Builder.ofSteps [.insertClass declared "a" []]).build

theorem built_oneClassTable (declared : String) : (oneClassTable declared).Built := ⟨_, rfl⟩

theorem mem_oneClassTable {declared : String} {c : ClassEntry} :
    c ∈ (oneClassTable declared).classes ↔ c = .ofMembers declared "a" [] := by
  rw [oneClassTable, classes_oneClass, Array.mem_singleton]

/-- In these two tables only the key of the one class leads anywhere. -/
theorem className?_oneClassTable_eq_some_iff {declared found : String} :
    (between (oneClassTable declared) (oneClassTable found)).className? name = some found ↔
      declared = classKey name := by
  rw [className?_eq_some_iff (built_oneClassTable _) (built_oneClassTable _)]
  constructor
  · rintro ⟨c, k, ⟨hc, -, -⟩, hkey, -⟩
    rw [mem_oneClassTable.1 hc, ClassEntry.declared_ofMembers] at hkey
    exact hkey
  · intro hkey
    refine ⟨_, _, ⟨mem_oneClassTable.2 rfl, mem_oneClassTable.2 rfl, ?_⟩, ?_, ClassEntry.declared_ofMembers ..⟩
    · rw [ClassEntry.obfuscated_ofMembers, ClassEntry.obfuscated_ofMembers]
    · rw [ClassEntry.declared_ofMembers, hkey]

/-- A text and the same without its type arguments have the same answers from all tables only if no blanks are left
around it. -/
theorem settled_of_className?_eq {text : String}
    (h : ∀ r : Resolver, r.HasBuilt → r.className? text = r.className? (withoutArguments text)) : Settled text := by
  have hbuilt : (between (oneClassTable (withoutArguments text)) (oneClassTable "org.Found")).HasBuilt :=
    hasBuilt_between (built_oneClassTable _) (built_oneClassTable _)
  have hfound : (between (oneClassTable (withoutArguments text)) (oneClassTable "org.Found")).className?
      (withoutArguments text) = some "org.Found" :=
    className?_oneClassTable_eq_some_iff.2 (classKey_withoutArguments text).symm
  rw [← h _ hbuilt, className?_oneClassTable_eq_some_iff] at hfound
  rw [Settled, trimmed_classKey, hfound]

/-- Type arguments have no part in what a text is resolved to, be it a class, the owner of a field or a method, or an
argument type, exactly if no blanks are left around it. The methods that the class of the owner declares itself are
found whatever the text. -/
theorem resolved_without_arguments (text : String) :
    (Settled text ↔ ∀ r : Resolver, r.HasBuilt →
      r.className? text = r.className? (withoutArguments text) ∧
      (∀ field, r.fieldName? text field = r.fieldName? (withoutArguments text) field) ∧
      r.translateType text = r.translateType (withoutArguments text) ∧
      ∀ method arguments hierarchy, (∀ a ∈ arguments, Settled a) →
        r.method? text method arguments hierarchy =
          r.method? (withoutArguments text) method (arguments.map withoutArguments) hierarchy) ∧
    ∀ (r : Resolver) (method : String) (arguments : List String) (found : MethodEntry) (hierarchy : Hierarchy),
      r.ownOverload? method (arguments.map r.translateType) (withoutArguments text) = some found →
        r.method? text method arguments hierarchy = some found := by
  refine ⟨⟨fun htext r _ => ?_, fun h => settled_of_className?_eq fun r hr => (h r hr).1⟩,
    fun r method arguments found hierarchy h => method?_of_own h hierarchy⟩
  have hkey := htext.classKey_eq
  refine ⟨className?_congr r hkey, fieldName?_congr r hkey, translateType_congr r hkey, ?_⟩
  intro method arguments hierarchy harguments
  apply method?_congr r hkey
  rw [List.map_map]
  exact List.map_congr_left fun a ha => translateType_congr r (harguments a ha).classKey_eq

/-- A type that no class corresponds to keeps its key, in the common vocabulary. -/
theorem translateType_of_none {type : String} (h : r.className? (splitArraySuffix (classKey type)).1 = none) :
    r.translateType type = normalize (classKey type) := by
  unfold classKey at h
  unfold translateType classKey
  simp only [h]

/-! ## Two classes, one above the other -/

theorem className?_twoClasses (name key : String) (hkey : classKey name = key) :
    twoClasses.className? name = if key = "net.B" then some "org.B" else none := by
  rw [className?, hasBuilt_twoClasses.canonicalClass?_eq, counterpart?_twoClasses name key hkey]
  split
  · rw [Option.map_some, ClassEntry.declared_ofMembers]
  · rfl

theorem declaredMatch?_twoClasses (name key : String) (hkey : classKey name = key) :
    twoClasses.declaredMatch? "f" ["integer"] name =
      if key = "net.B" then some ⟨"void", "tick", "f", ["integer"]⟩ else none := by
  rw [declaredMatch?, counterpart?_twoClasses name key hkey]
  split
  · simp [ClassEntry.ofMembers, ClassEntry.addMember, ClassEntry.ofNames]
  · rfl

theorem translateType_int_twoClasses : ["int"].map twoClasses.translateType = ["integer"] := by
  have hnone : twoClasses.className? (splitArraySuffix (classKey "int")).1 = none :=
    className?_twoClasses _ "int" (by decide)
  rw [List.map_singleton, translateType_of_none hnone]
  decide

theorem method?_twoClasses (owner key : String) (hkey : classKey owner = key) (hierarchy : Hierarchy) :
    twoClasses.method? owner "f" ["int"] hierarchy =
      (hierarchy.preorder [] [key]).findSome? (twoClasses.declaredMatch? "f" ["integer"]) := by
  rw [hasBuilt_twoClasses.method?_eq_findSome?, translateType_int_twoClasses, hkey]

/-- The method of the class above is found. -/
theorem method?_twoClasses_of_edge :
    twoClasses.method? "net.A" "f" ["int"] oneEdge = some ⟨"void", "tick", "f", ["integer"]⟩ := by
  have habove : oneEdge.above "net.A" = ["net.B"] := by decide
  have hlast : oneEdge.above "net.B" = [] := by decide
  have hpreorder : oneEdge.preorder [] ["net.A"] = ["net.A", "net.B"] := by
    simp [Hierarchy.preorder, habove, hlast]
  rw [method?_twoClasses "net.A" "net.A" (by decide), hpreorder, List.findSome?_cons,
    declaredMatch?_twoClasses "net.A" "net.A" (by decide), List.findSome?_cons,
    declaredMatch?_twoClasses "net.B" "net.B" (by decide)]
  rfl

/-- With blanks only inside the brackets, or in front, a class is found, and so are the methods of its supertypes. Its
own methods are found even if a blank is left at the end. -/
theorem resolved_of_inner_blanks :
    twoClasses.className? " net.B< T >" = some "org.B" ∧
    twoClasses.method? "net.A< T >" "f" ["int"] oneEdge = some ⟨"void", "tick", "f", ["integer"]⟩ ∧
    twoClasses.method? "net.B <T>" "f" ["int"] oneEdge = some ⟨"void", "tick", "f", ["integer"]⟩ := by
  refine ⟨?_, ?_, (resolved_without_arguments "net.B <T>").2 _ _ _ _ _ ?_⟩
  · obtain ⟨hclass, -⟩ :=
      (resolved_without_arguments " net.B< T >").1.1 (by decide +kernel) twoClasses hasBuilt_twoClasses
    have hname : withoutArguments " net.B< T >" = "net.B" := by decide +kernel
    rw [hclass, hname, className?_twoClasses "net.B" "net.B" (by decide)]
    rfl
  · obtain ⟨-, -, -, hmethod⟩ :=
      (resolved_without_arguments "net.A< T >").1.1 (by decide +kernel) twoClasses hasBuilt_twoClasses
    have hname : withoutArguments "net.A< T >" = "net.A" := by decide +kernel
    have hint : ["int"].map withoutArguments = ["int"] := by decide
    rw [hmethod "f" ["int"] oneEdge (by decide), hname, hint]
    exact method?_twoClasses_of_edge
  · have hname : withoutArguments "net.B <T>" = "net.B" := by decide +kernel
    rw [translateType_int_twoClasses, hname, hasBuilt_twoClasses.ownOverload?_eq,
      declaredMatch?_twoClasses "net.B" "net.B" (by decide)]
    rfl

/-- With a blank in front of the brackets a class is missed, and with it the methods of its supertypes, and a type that
no class corresponds to keeps the blank. -/
theorem missed_of_blank_before_arguments :
    (withoutArguments "net.B <T>" = "net.B" ∧
      twoClasses.className? "net.B <T>" = none ∧ twoClasses.className? "net.B" = some "org.B") ∧
    (withoutArguments "net.A <T>" = "net.A" ∧ twoClasses.method? "net.A <T>" "f" ["int"] oneEdge = none ∧
      twoClasses.method? "net.A" "f" ["int"] oneEdge = some ⟨"void", "tick", "f", ["integer"]⟩) ∧
    withoutArguments "net.C <T>" = "net.C" ∧ twoClasses.translateType "net.C <T>" = "net.C " ∧
      twoClasses.translateType "net.C" = "net.C" := by
  refine ⟨⟨by decide +kernel, ?_, ?_⟩, ⟨by decide +kernel, ?_, method?_twoClasses_of_edge⟩, by decide +kernel, ?_, ?_⟩
  · exact className?_twoClasses "net.B <T>" "net.B " (by decide +kernel)
  · exact className?_twoClasses "net.B" "net.B" (by decide)
  · -- the owner's key has a blank at the end, and no supertypes
    have habove : oneEdge.above "net.A " = [] := by decide
    have hpreorder : oneEdge.preorder [] ["net.A "] = ["net.A "] := by
      simp [Hierarchy.preorder, habove]
    rw [method?_twoClasses "net.A <T>" "net.A " (by decide +kernel), hpreorder, List.findSome?_singleton]
    exact declaredMatch?_twoClasses "net.A " "net.A" (by decide)
  · have hnone : twoClasses.className? (splitArraySuffix (classKey "net.C <T>")).1 = none :=
      className?_twoClasses _ "net.C" (by decide +kernel)
    rw [translateType_of_none hnone]
    decide +kernel
  · have hnone : twoClasses.className? (splitArraySuffix (classKey "net.C")).1 = none :=
      className?_twoClasses _ "net.C" (by decide +kernel)
    rw [translateType_of_none hnone]
    decide +kernel

end Resolver

end NameBridge
