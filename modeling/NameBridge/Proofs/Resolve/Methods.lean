import NameBridge.Proofs.Resolve.Preorder
import NameBridge.Proofs.Table.Members

/-!
Method lookup is a recursive search.

`Resolver.search` works on a list of classes still to visit. It goes through them in depth-first preorder
(`Hierarchy.preorder`) and gives the first overload that a class declares itself, where that overload is
the one found by reading both tables and the methods of the class from the start. So where the hierarchy
has no cycles the plain recursion along the supertypes finds the same method, and whatever the hierarchy
nothing is found only if nothing that can be reached has a match.
-/

namespace NameBridge

/-- A lookup finds what going through the classes finds. -/
theorem Table.Built.lookup?_eq_find? {t : Table} (h : t.Built) (side : Side) (name : String) :
    t.lookup? side name = t.classes.toList.find? (·.name side = name) := by
  cases hf : t.classes.toList.find? (·.name side = name) with
  | some c =>
    have hname : c.name side = name := by simpa using List.find?_some hf
    exact (h.lookup?_eq_some_iff side name c).2 ⟨Array.mem_toList_iff.1 (List.mem_of_find?_eq_some hf), hname⟩
  | none =>
    refine Option.eq_none_iff_forall_ne_some.2 fun c hc => ?_
    obtain ⟨hmem, hname⟩ := (h.lookup?_eq_some_iff side name c).1 hc
    exact List.find?_eq_none.1 hf c (Array.mem_toList_iff.2 hmem) (by simpa using hname)

/-- The overload found by the index is the first in the list of methods. -/
theorem ClassEntry.Made.overload?_eq {c : ClassEntry} (h : c.Made) (name : String) (types : List String) :
    c.overload? name types = c.methods.toList.find? fun m => m.obfuscated = name ∧ m.parameters = types := by
  rw [overload?, methodsWithObfuscated_eq, h.methodsNamed, List.find?_filter]
  congr 1
  funext m
  by_cases hm : m.name .obfuscated = name <;> by_cases ht : m.parameters = types <;>
    simp_all [MethodEntry.name, MethodEntry.hasParameters]

namespace Resolver

variable {r : Resolver}

/-- The canonical class of a community class, found by going through both tables. -/
def counterpart? (r : Resolver) (name : String) : Option ClassEntry := do
  let c ← (← r.community).classes.toList.find? (·.declared = classKey name)
  (← r.canonical).classes.toList.find? (·.obfuscated = c.obfuscated)

/-- The first method in declaration order that the canonical class of a community class declares with this
obfuscated name and exactly these parameter types. -/
def declaredMatch? (r : Resolver) (method : String) (types : List String) (name : String) : Option MethodEntry := do
  (← r.counterpart? name).methods.toList.find? fun m => m.obfuscated = method ∧ m.parameters = types

/-- Both tables, where they are there, are built tables. -/
def HasBuilt (r : Resolver) : Prop :=
  (∀ t, r.community = some t → t.Built) ∧ ∀ t, r.canonical = some t → t.Built

theorem HasBuilt.canonicalClass?_eq (h : r.HasBuilt) (name : String) :
    r.canonicalClass? name = r.counterpart? name := by
  unfold canonicalClass? counterpart?
  cases hcom : r.community with
  | none => rfl
  | some community =>
    cases hcan : r.canonical with
    | none =>
      simp
    | some canonical =>
      simp only [Option.bind_eq_bind, Option.bind_some, Table.withDeclared?_eq, Table.withObfuscated?_eq,
        (h.1 community hcom).lookup?_eq_find?, (h.2 canonical hcan).lookup?_eq_find?]
      rfl

theorem HasBuilt.made (h : r.HasBuilt) {name : String} {c : ClassEntry} (hc : r.counterpart? name = some c) :
    c.Made := by
  simp only [counterpart?, Option.bind_eq_bind, Option.bind_eq_some_iff] at hc
  obtain ⟨_, _, _, _, canonical, hcan, hc⟩ := hc
  exact (h.2 canonical hcan).made (Array.mem_toList_iff.1 (List.mem_of_find?_eq_some hc))

theorem HasBuilt.ownOverload?_eq (h : r.HasBuilt) (method : String) (types : List String) :
    r.ownOverload? method types = r.declaredMatch? method types := by
  funext name
  rw [ownOverload?, declaredMatch?, h.canonicalClass?_eq]
  cases hc : r.counterpart? name with
  | none => rfl
  | some c => exact (h.made hc).overload?_eq method types

/-- The search gives the first match of the classes in depth-first preorder. -/
theorem search_eq (r : Resolver) (h : Hierarchy) (method : String) (types seen pending : List String) :
    r.search h method types seen pending = (h.preorder seen pending).findSome? (r.ownOverload? method types) := by
  fun_induction search r h method types seen pending with
  | case1 => rw [Hierarchy.preorder_nil, List.findSome?_nil]
  | case2 seen name pending hn ih => rw [ih, Hierarchy.preorder_seen hn]
  | case3 seen name pending hn found hown => rw [Hierarchy.preorder_new hn, List.cons_append, List.findSome?_cons, hown]
  | case4 seen name pending hn hown ih =>
    rw [ih, Hierarchy.preorder_new_append hn, List.findSome?_cons, hown]
    rfl

theorem declaredMatch?_eq_none (hr : ¬r.isComplete) (method : String) (types : List String) (name : String) :
    r.declaredMatch? method types name = none := by
  cases hcom : r.community <;> cases hcan : r.canonical <;>
    simp_all [declaredMatch?, counterpart?, isComplete]

theorem HasBuilt.method?_eq_findSome? (h : r.HasBuilt) (owner method : String) (arguments : List String)
    (hierarchy : Hierarchy) :
    r.method? owner method arguments hierarchy =
      (hierarchy.preorder [] [classKey owner]).findSome? (r.declaredMatch? method (arguments.map r.translateType)) := by
  rw [method?]
  split
  · rw [search_eq, h.ownOverload?_eq]
  · rename_i hr
    exact (List.findSome?_eq_none_iff.2 fun name _ => declaredMatch?_eq_none hr _ _ name).symm

/-- Method lookup is the plain recursive search where the hierarchy has no cycles. Whatever the hierarchy it
gives the first match in depth-first preorder, and nothing only if no class that can be reached has a match. -/
theorem method?_is_recursive_search (h : r.HasBuilt) (owner method : String) (arguments : List String)
    (hierarchy : Hierarchy) :
    let own := r.declaredMatch? method (arguments.map r.translateType)
    let found := r.method? owner method arguments hierarchy
    (∀ hac : hierarchy.Acyclic, found = hierarchy.inherited hac own (classKey owner)) ∧
    found = (hierarchy.preorder [] [classKey owner]).findSome? own ∧
    (found = none ↔ ∀ name, hierarchy.Reaches (classKey owner) name → own name = none) := by
  intro own found
  have hfound : found = (hierarchy.preorder [] [classKey owner]).findSome? own :=
    h.method?_eq_findSome? owner method arguments hierarchy
  refine ⟨fun hac => ?_, hfound, ?_⟩
  · rw [hfound, Hierarchy.findSome?_preorder hac [] _ (by simp), List.findSome?_singleton]
  · rw [hfound, List.findSome?_eq_none_iff]
    simp only [Hierarchy.mem_preorder_iff]

/-- A community table with two classes, and a canonical one that has the second with a method. -/
def twoClasses : Resolver where
  community := some (Table.Builder.ofSteps [.insertClass "net.A" "a" [], .insertClass "net.B" "b" []]).build
  canonical := some (Table.Builder.ofSteps
    [.insertClass "org.B" "b" [.method ⟨"void", "tick", "f", ["integer"]⟩]]).build

theorem hasBuilt_twoClasses : twoClasses.HasBuilt :=
  ⟨fun _ ht => ⟨_, (Option.some.inj ht).symm⟩, fun _ ht => ⟨_, (Option.some.inj ht).symm⟩⟩

theorem classes_oneClass (declared obfuscated : String) (members : List NewMember) :
    (Table.Builder.ofSteps [.insertClass declared obfuscated members]).build.classes =
      #[.ofMembers declared obfuscated members] := by
  simp [Table.Builder.ofSteps, Table.Builder.step, Table.Builder.insertClass, Table.Builder.evictFound,
    Table.Builder.empty, Table.Builder.build, Table.Builder.classes]

theorem counterpart?_twoClasses (name key : String) (hkey : classKey name = key) :
    twoClasses.counterpart? name =
      if key = "net.B" then some (.ofMembers "org.B" "b" [.method ⟨"void", "tick", "f", ["integer"]⟩]) else none := by
  have hcommunity : (Table.Builder.ofSteps [.insertClass "net.A" "a" [], .insertClass "net.B" "b" []]).build.classes =
      #[.ofNames "net.A" "a", .ofNames "net.B" "b"] := by
    simp [Table.Builder.ofSteps, Table.Builder.step, Table.Builder.insertClass, Table.Builder.evictFound,
      Table.Builder.empty, Table.Builder.build, Table.Builder.classes, ClassEntry.ofMembers]
  by_cases hA : "net.A" = key
  · simp [twoClasses, counterpart?, hkey, hcommunity, classes_oneClass, ← hA]
  · by_cases hB : "net.B" = key
    · simp [twoClasses, counterpart?, hkey, hcommunity, classes_oneClass, ← hB]
    · simp [twoClasses, counterpart?, hkey, hcommunity, hA, hB, Ne.symm hB]

/-- The second class is above the first. -/
def oneEdge : Hierarchy := .ofList [("net.A", ["net.B<T>"])]

theorem edge_oneEdge {name super : String} (h : oneEdge.Edge name super) : name = "net.A" ∧ super = "net.B" := by
  by_cases hname : name = "net.A"
  · subst hname
    have habove : oneEdge.above "net.A" = ["net.B"] := by decide
    exact ⟨rfl, by simpa [Hierarchy.Edge, habove] using h⟩
  · have habove : oneEdge.above name = [] := by
      simp [oneEdge, Hierarchy.ofList, Hierarchy.insert, Hierarchy.empty, Hierarchy.above, Hierarchy.supertypes,
        List.lookup_cons, beq_false_of_ne hname]
    simp [Hierarchy.Edge, habove] at h

theorem acyclic_oneEdge : oneEdge.Acyclic := by
  intro name h
  obtain ⟨_, hfirst, _⟩ := Relation.TransGen.head'_iff.1 h
  obtain ⟨_, _, hlast⟩ := Relation.TransGen.tail'_iff.1 h
  have heq : "net.A" = "net.B" := (edge_oneEdge hfirst).1.symm.trans (edge_oneEdge hlast).2
  exact absurd heq (by decide)

/-- Two classes of which each is above the other. -/
def twoCycle : Hierarchy := .ofList [("net.A", ["net.A", "net.B<T>"]), ("net.B", ["net.A"])]

/-- The method of a supertype is found by the recursion along one edge, and on a cycle too. -/
theorem method?_of_edge_and_cycle :
    twoClasses.method? " net.A" "f" ["int"] oneEdge =
      oneEdge.inherited acyclic_oneEdge (twoClasses.declaredMatch? "f" ["integer"]) "net.A" ∧
    twoClasses.method? " net.A" "f" ["int"] twoCycle = some ⟨"void", "tick", "f", ["integer"]⟩ := by
  have hkey : classKey " net.A" = "net.A" := by decide
  have htypes : ["int"].map twoClasses.translateType = ["integer"] := by
    have hnone : twoClasses.className? "int" = none := by
      rw [className?, hasBuilt_twoClasses.canonicalClass?_eq, counterpart?_twoClasses _ "int" (by decide)]
      rfl
    have hsplit : TypeName.splitArraySuffix (TypeName.eraseTypeArguments (Text.trimmed "int")) = ("int", 0) := by
      decide
    simp only [List.map_cons, List.map_nil, translateType, hsplit, hnone]
    decide
  constructor
  · have h := (method?_is_recursive_search hasBuilt_twoClasses " net.A" "f" ["int"] oneEdge).1 acyclic_oneEdge
    rwa [htypes, hkey] at h
  · have h := (method?_is_recursive_search hasBuilt_twoClasses " net.A" "f" ["int"] twoCycle).2.1
    have hpreorder : twoCycle.preorder [] ["net.A"] = ["net.A", "net.B"] := by
      have hA : twoCycle.above "net.A" = ["net.A", "net.B"] := by decide
      have hB : twoCycle.above "net.B" = ["net.A"] := by decide
      simp [Hierarchy.preorder, hA, hB]
    rw [h, htypes, hkey, hpreorder]
    have hA : twoClasses.counterpart? "net.A" = none := counterpart?_twoClasses _ "net.A" (by decide)
    have hB := counterpart?_twoClasses "net.B" "net.B" (by decide)
    simp [declaredMatch?, hA, hB, ClassEntry.ofMembers, ClassEntry.addMember, ClassEntry.ofNames]

end Resolver

end NameBridge
