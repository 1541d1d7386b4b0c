import NameBridge.Proofs.Table.Members

/-!
Positions of methods.

An index of a class holds positions in its list of methods. Those of one name are what is left of the counted list when
the methods without the name are passed over (`positionsOf_eq`), so they increase, stay within the list and leave no
method of the name out. Either index therefore shows the list itself, thinned out to one name
(`methods_by_either_name`).
-/

namespace NameBridge

section

variable {side : Side} {name : String} {methods : List MethodEntry}

theorem positionsOf_eq (side : Side) (name : String) (first : Nat) (methods : List MethodEntry) :
    positionsOf side name first methods = ((methods.zipIdx first).filter (·.1.name side = name)).map (·.2) := by
  induction methods generalizing first with
  | nil => rfl
  | cons m methods ih =>
    rw [positionsOf, List.zipIdx_cons, ih]
    split
    · rename_i hm
      rw [List.filter_cons_of_pos (by simpa using hm), List.map_cons]
    · rename_i hm
      rw [List.filter_cons_of_neg (by simpa using hm)]

theorem pairwise_positionsOf (first : Nat) : (positionsOf side name first methods).Pairwise (· < ·) := by
  have hsublist : (positionsOf side name first methods).Sublist (List.range' first methods.length) := by
    rw [positionsOf_eq, ← List.zipIdx_map_snd first methods]
    exact List.filter_sublist.map _
  exact (List.pairwise_lt_range' 1).sublist hsublist

theorem mem_positionsOf_iff {i : Nat} :
    i ∈ positionsOf side name 0 methods ↔ ∃ m, methods[i]? = some m ∧ m.name side = name := by
  rw [positionsOf_eq, List.mem_map]
  constructor
  · rintro ⟨⟨m, j⟩, hmem, rfl⟩
    obtain ⟨hplace, hname⟩ := List.mem_filter.1 hmem
    exact ⟨m, List.mem_zipIdx_iff_getElem?.1 hplace, of_decide_eq_true hname⟩
  · rintro ⟨m, hm, hname⟩
    exact ⟨(m, i), List.mem_filter.2 ⟨List.mem_zipIdx_iff_getElem?.2 hm, decide_eq_true hname⟩, rfl⟩

end

namespace ClassEntry

/-- A class with these methods, inserted one after the other. -/
def ofMethods (declared obfuscated : String) (records : List MethodEntry) : ClassEntry :=
  records.foldl insertMethod (ofNames declared obfuscated)

theorem made_ofMethods (declared obfuscated : String) (records : List MethodEntry) :
    (ofMethods declared obfuscated records).Made :=
  ⟨declared, obfuscated, records.map .method, by rw [ofMembers, List.foldl_map]; rfl⟩

theorem methods_ofMethods (declared obfuscated : String) (records : List MethodEntry) :
    (ofMethods declared obfuscated records).methods.toList = records := by
  induction records using List.reverseRecOn with
  | nil => rfl
  | append_singleton records m ih =>
    rw [ofMethods, List.foldl_append, List.foldl_cons, List.foldl_nil, methods_insertMethod, Array.toList_push]
    exact congrArg (· ++ [m]) ih

/-- Every position of an index leads to a method. -/
theorem Made.map_methodIndex {c : ClassEntry} (h : c.Made) (side : Side) (name : String) :
    ((c.methodIndex side).getD name []).map (c.methods[·]?) = (c.methodsNamed side name).map some := by
  have hmap := map_positionsOf side name [] c.methods.toList
  rw [h.methodsIndexed side name, h.methodsNamed side name, ← hmap]
  simp

/-- Whatever methods are inserted, the list of methods is what was inserted, and asking by a name on either side gives
the methods of the list that have it, in its order and as often as they are there. For each name an index holds the
positions of exactly these methods, in increasing order, each of them within the list; so each method is found at its
position from both its names. -/
theorem methods_by_either_name (declared obfuscated : String) (records : List MethodEntry) :
    let c := ofMethods declared obfuscated records
    c.methods.toList = records ∧
    (∀ name, c.methodsWithObfuscated name = records.filter (·.obfuscated = name) ∧
      c.methodsWithDeclared name = records.filter (·.declared = name)) ∧
    (∀ side name, let positions := (c.methodIndex side).getD name []
      positions.Pairwise (· < ·) ∧
      (∀ i, i ∈ positions ↔ ∃ m, records[i]? = some m ∧ m.name side = name) ∧
      (∀ i ∈ positions, i < c.methods.size) ∧
      positions.map (c.methods[·]?) = (records.filter (·.name side = name)).map some) ∧
    ∀ i m, c.methods[i]? = some m →
      i ∈ c.methodsByObfuscated.getD m.obfuscated [] ∧ i ∈ c.methodsByDeclared.getD m.declared [] := by
  intro c
  have hmade : c.Made := made_ofMethods declared obfuscated records
  have hmethods : c.methods.toList = records := methods_ofMethods declared obfuscated records
  have hmem (side : Side) (name : String) (i : Nat) :
      i ∈ (c.methodIndex side).getD name [] ↔ ∃ m, records[i]? = some m ∧ m.name side = name := by
    rw [hmade.methodsIndexed side name, mem_positionsOf_iff, hmethods]
  have hnamed (side : Side) (name : String) : c.methodsNamed side name = records.filter (·.name side = name) := by
    rw [hmade.methodsNamed side name, hmethods]
  refine ⟨hmethods, fun name => ⟨hnamed .obfuscated name, hnamed .declared name⟩, fun side name => ?_, fun i m hm => ?_⟩
  · refine ⟨?_, hmem side name, fun i hi => ?_, ?_⟩
    · rw [hmade.methodsIndexed side name]
      exact pairwise_positionsOf 0
    · obtain ⟨m, hm, -⟩ := (hmem side name i).1 hi
      rw [← hmethods, Array.getElem?_toList] at hm
      exact (Array.getElem?_eq_some_iff.1 hm).1
    · rw [hmade.map_methodIndex, hnamed]
  · rw [← Array.getElem?_toList, hmethods] at hm
    exact ⟨(hmem .obfuscated m.obfuscated i).2 ⟨m, hm, rfl⟩, (hmem .declared m.declared i).2 ⟨m, hm, rfl⟩⟩

/-- Overloads and a repetition, with crossed names: a name of one side is a name of the other side elsewhere. -/
theorem methods_of_crossed_names :
    let records : List MethodEntry :=
      [⟨"void", "tick", "f", []⟩, ⟨"void", "f", "tick", []⟩, ⟨"void", "tick", "g", ["long"]⟩, ⟨"void", "tick", "f", []⟩]
    let c := ofMethods "net.Block" "a" records
    c.methodsByDeclared.getD "tick" [] = [0, 2, 3] ∧ c.methodsByObfuscated.getD "f" [] = [0, 3] ∧
    c.methodsWithDeclared "tick" = records.filter (·.declared = "tick") :=
  ⟨by cbv, by cbv, ((methods_by_either_name _ _ _).2.1 "tick").2⟩

end ClassEntry

end NameBridge
