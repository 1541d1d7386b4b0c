import Mathlib.Data.List.Induction
import NameBridge.Proofs.Table.Coherence

/-!
The methods of a class by either name.

Two indices lead from a name to positions in the list of methods. In a class made by giving it members
each holds exactly the positions of the methods with that name, in increasing order, so that a lookup is
a filter of the list (`Made.methodsNamed`). Every class of a built table is made in this way. The names that methods
and fields have in it are those its members were given with (`exists_hasName`).
-/

namespace NameBridge

def MethodEntry.name (m : MethodEntry) : Side → String
  | .obfuscated => m.obfuscated
  | .declared => m.declared

/-- The positions, counted from `first`, of the methods with a name on one side. -/
def positionsOf (side : Side) (name : String) (first : Nat) : List MethodEntry → List Nat
  | [] => []
  | m :: methods =>
    if m.name side = name then first :: positionsOf side name (first + 1) methods
    else positionsOf side name (first + 1) methods

theorem positionsOf_concat (side : Side) (name : String) (first : Nat) (methods : List MethodEntry) (m : MethodEntry) :
    positionsOf side name first (methods ++ [m]) =
      positionsOf side name first methods ++ if m.name side = name then [first + methods.length] else [] := by
  induction methods generalizing first with
  | nil => simp [positionsOf]
  | cons x methods ih =>
    have hlen : first + 1 + methods.length = first + (x :: methods).length := by
      rw [List.length_cons]; omega
    simp only [List.cons_append, positionsOf, ih, hlen]
    split <;> rfl

/-- What stands at these positions are the methods with the name. -/
theorem map_positionsOf (side : Side) (name : String) (before methods : List MethodEntry) :
    (positionsOf side name before.length methods).map ((before ++ methods)[·]?) =
      (methods.filter (·.name side = name)).map some := by
  induction methods generalizing before with
  | nil => rfl
  | cons m methods ih =>
    have ih' := ih (before ++ [m])
    rw [List.length_append, List.length_singleton, List.append_assoc, List.singleton_append] at ih'
    rw [positionsOf]
    split
    · rename_i hm
      rw [List.map_cons, ih', List.filter_cons_of_pos (by simpa using hm), List.map_cons]
      simp
    · rename_i hm
      rw [ih', List.filter_cons_of_neg (by simpa using hm)]

namespace ClassEntry

def methodIndex (c : ClassEntry) : Side → NameIndex
  | .obfuscated => c.methodsByObfuscated
  | .declared => c.methodsByDeclared

/-- The methods with a name on one side. -/
def methodsNamed (c : ClassEntry) (side : Side) (name : String) : List MethodEntry :=
  c.methodsAt (c.methodIndex side) name

theorem methodsWithObfuscated_eq (c : ClassEntry) (name : String) :
    c.methodsWithObfuscated name = c.methodsNamed .obfuscated name := rfl

theorem methodIndex_insertMethod (c : ClassEntry) (m : MethodEntry) (side : Side) :
    (c.insertMethod m).methodIndex side = (c.methodIndex side).add (m.name side) c.methods.size := by
  cases side <;> rfl

theorem methodIndex_insertField (c : ClassEntry) (obfuscated declared : String) (side : Side) :
    (c.insertField obfuscated declared).methodIndex side = c.methodIndex side := by
  cases side <;> rfl

/-- Either index lists exactly the positions of the methods with a name. -/
def MethodsIndexed (c : ClassEntry) : Prop :=
  ∀ side name, (c.methodIndex side).getD name [] = positionsOf side name 0 c.methods.toList

theorem methodsIndexed_ofNames (declared obfuscated : String) : (ofNames declared obfuscated).MethodsIndexed := by
  intro side name
  cases side <;> simp [methodIndex, ofNames, positionsOf]

theorem MethodsIndexed.addMember {c : ClassEntry} (h : c.MethodsIndexed) (m : NewMember) :
    (c.addMember m).MethodsIndexed := by
  intro side name
  cases m with
  | field obfuscated declared =>
    rw [ClassEntry.addMember, methodIndex_insertField]
    exact h side name
  | method record =>
    rw [ClassEntry.addMember, methodIndex_insertMethod, NameIndex.getD_add, methods_insertMethod, Array.toList_push,
      positionsOf_concat, h side name, h side, Nat.zero_add, Array.length_toList]
    split
    · rename_i hn
      rw [hn, if_pos rfl]
    · rename_i hn
      rw [if_neg (Ne.symm hn), List.append_nil]

theorem Made.methodsIndexed {c : ClassEntry} (h : c.Made) : c.MethodsIndexed :=
  h.induction methodsIndexed_ofNames fun _ m hc => hc.addMember m

/-- The methods found by a name are those of the list that have it, in the same order. -/
theorem Made.methodsNamed {c : ClassEntry} (h : c.Made) (side : Side) (name : String) :
    c.methodsNamed side name = c.methods.toList.filter (·.name side = name) := by
  have hmap := map_positionsOf side name [] c.methods.toList
  simp only [List.length_nil, List.nil_append, Array.getElem?_toList] at hmap
  rw [ClassEntry.methodsNamed, methodsAt, h.methodsIndexed side name]
  calc (positionsOf side name 0 c.methods.toList).filterMap (c.methods[·]?)
      = ((positionsOf side name 0 c.methods.toList).map (c.methods[·]?)).filterMap id := by
        rw [List.filterMap_map, Function.id_comp]
    _ = c.methods.toList.filter (·.name side = name) := by
        rw [hmap, List.filterMap_map, Function.id_comp, List.filterMap_some]

end ClassEntry

/-! ## Names of members -/

def NewMember.HasName (name : String) : NewMember → Prop
  | .field obfuscated declared => name = obfuscated ∨ name = declared
  | .method record => ∃ side, record.name side = name

/-- A method or a field of the class has the name, on one side or the other. -/
inductive ClassEntry.HasMemberName (k : ClassEntry) (name : String) : Prop
  | method {record : MethodEntry} (mem : record ∈ k.methods) (side : Side) (named : record.name side = name)
  | obfuscatedField {declared : String} (found : k.deobfuscateField? name = some declared)
  | declaredField {obfuscated : String} (found : k.obfuscateField? name = some obfuscated)

namespace ClassEntry

variable {k : ClassEntry} {name : String}

theorem hasMemberName_addMember {m : NewMember} (h : (k.addMember m).HasMemberName name) :
    k.HasMemberName name ∨ m.HasName name := by
  cases m with
  | method record =>
    cases h with
    | method mem side named =>
      rcases Array.mem_push.1 mem with mem | rfl
      · exact .inl (.method mem side named)
      · exact .inr ⟨side, named⟩
    | obfuscatedField found => exact .inl (.obfuscatedField found)
    | declaredField found => exact .inl (.declaredField found)
  | field obfuscated declared =>
    cases h with
    | method mem side named => exact .inl (.method mem side named)
    | obfuscatedField found =>
      by_cases hname : name = obfuscated
      · exact .inr (.inl hname)
      · rw [addMember, insertField, deobfuscateField?, Pairing.declared?_insert, if_neg hname] at found
        split at found
        · cases found
        · exact .inl (.obfuscatedField found)
    | declaredField found =>
      by_cases hname : name = declared
      · exact .inr (.inr hname)
      · rw [addMember, insertField, obfuscateField?, Pairing.obfuscated?_insert, if_neg hname] at found
        split at found
        · cases found
        · exact .inl (.declaredField found)

/-- A class has only the names that its members were given with. -/
theorem exists_hasName {declared obfuscated : String} {members : List NewMember}
    (h : (ofMembers declared obfuscated members).HasMemberName name) : ∃ m ∈ members, m.HasName name := by
  induction members using List.reverseRecOn with
  | nil =>
    cases h with
    | method mem => simp [ofMembers, ofNames] at mem
    | obfuscatedField found => simp [ofMembers, ofNames, deobfuscateField?] at found
    | declaredField found => simp [ofMembers, ofNames, obfuscateField?] at found
  | append_singleton members m ih =>
    rw [ofMembers_concat] at h
    rcases hasMemberName_addMember h with h | h
    · obtain ⟨m', hm', hname⟩ := ih h
      exact ⟨m', List.mem_append_left _ hm', hname⟩
    · exact ⟨m, List.mem_append_right _ List.mem_cons_self, h⟩

end ClassEntry

/-! ## Classes of built tables -/

namespace Table

namespace Builder

/-- Every class in a slot is made by giving it members. -/
def HoldsMade (b : Builder) : Prop := ∀ c, some c ∈ b.slots → c.Made

theorem HoldsMade.evict {b : Builder} (h : b.HoldsMade) (slot : Nat) : (b.evict slot).HoldsMade := by
  by_cases hold : ∃ old, b.slots[slot]? = some (some old)
  · obtain ⟨old, hold⟩ := hold
    intro c hc
    rw [slots_evict hold] at hc
    rcases Array.mem_or_eq_of_mem_setIfInBounds hc with hc | hc
    · exact h c hc
    · cases hc
  · rw [evict_eq_self fun old ho => hold ⟨old, ho⟩]
    exact h

theorem HoldsMade.evictFound {b : Builder} (h : b.HoldsMade) (found : Option Nat) : (b.evictFound found).HoldsMade := by
  cases found with
  | none => exact h
  | some slot => exact h.evict slot

theorem HoldsMade.step {b : Builder} (h : b.HoldsMade) (s : Step) : (b.step s).HoldsMade := by
  cases s with
  | insertClass declared obfuscated members =>
    intro c hc
    rw [Builder.step, slots_insertClass, Array.mem_push] at hc
    rcases hc with hc | hc
    · exact (h.evictFound _).evictFound _ c hc
    · cases hc
      exact ⟨declared, obfuscated, members, rfl⟩
  | addMember declared member =>
    intro c hc
    rw [Builder.step, modifyDeclared] at hc
    split at hc
    · rename_i slot _
      obtain ⟨i, hi⟩ := Array.mem_iff_getElem?.1 hc
      rw [Array.getElem?_modify] at hi
      split at hi
      · simp only [Option.map_eq_some_iff] at hi
        obtain ⟨_, ho, d, rfl, rfl⟩ := hi
        exact (h d (Array.mem_of_getElem? ho)).addMember member
      · exact h c (Array.mem_of_getElem? hi)
    · exact h c hc
  | changeStats change => exact h

theorem Made.holdsMade {b : Builder} (h : b.Made) : b.HoldsMade :=
  h.induction (fun c hc => by simp [empty] at hc) fun _ s hb => hb.step s

end Builder

/-- Every class of a built table is made by giving it members. -/
theorem Built.made {t : Table} (h : t.Built) {c : ClassEntry} (hc : c ∈ t.classes) : c.Made := by
  obtain ⟨steps, rfl⟩ := h
  simp only [Builder.build, Builder.classes, List.mem_toArray, List.mem_filterMap, id_eq, exists_eq_right,
    Array.mem_toList_iff] at hc
  exact Builder.Made.holdsMade ⟨steps, rfl⟩ c hc

end Table

end NameBridge
