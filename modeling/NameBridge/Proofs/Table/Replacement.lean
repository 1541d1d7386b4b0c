import Mathlib.Data.List.Induction
import NameBridge.Proofs.Table.Coherence

/-!
A builder as the list of its classes.

Seen through `Builder.classes` the slots and both indices disappear. Adding a class drops the classes that share
a name with it and puts it at the end (`classes_insertClass`); a change goes to the one class with the declared
name (`classes_modifyDeclared`). So the classes that stay are those that no later one shares a name with
(`unreplaced`).
-/

namespace NameBridge

/-- The two classes have the same name on one side. -/
def ClassEntry.SharesName (c d : ClassEntry) : Prop := c.obfuscated = d.obfuscated ∨ c.declared = d.declared

instance (c d : ClassEntry) : Decidable (c.SharesName d) := inferInstanceAs (Decidable (_ ∨ _))

/-- The classes that no later one shares a name with. -/
def unreplaced : List ClassEntry → List ClassEntry
  | [] => []
  | c :: later => if ∃ d ∈ later, c.SharesName d then unreplaced later else c :: unreplaced later

theorem unreplaced_concat (cs : List ClassEntry) (c : ClassEntry) :
    unreplaced (cs ++ [c]) = (unreplaced cs).filter (fun d => ¬d.SharesName c) ++ [c] := by
  induction cs with
  | nil => simp [unreplaced]
  | cons d cs ih =>
    have hlater : (∃ x ∈ cs ++ [c], d.SharesName x) ↔ (∃ x ∈ cs, d.SharesName x) ∨ d.SharesName c := by
      simp only [List.mem_append, List.mem_singleton, or_and_right, exists_or, exists_eq_left]
    rw [List.cons_append, unreplaced, unreplaced, ih]
    by_cases hcs : ∃ x ∈ cs, d.SharesName x
    · rw [if_pos (hlater.2 (.inl hcs)), if_pos hcs]
    · rw [if_neg hcs]
      by_cases hc : d.SharesName c
      · rw [if_pos (hlater.2 (.inr hc)), List.filter_cons_of_neg (by simpa using hc)]
      · rw [if_neg (by simp [hcs, hc]), List.filter_cons_of_pos (by simpa using hc), List.cons_append]

theorem mem_of_mem_unreplaced {cs : List ClassEntry} {c : ClassEntry} (h : c ∈ unreplaced cs) : c ∈ cs := by
  induction cs with
  | nil => exact h
  | cons d cs ih =>
    rw [unreplaced] at h
    split at h
    · exact List.mem_cons_of_mem _ (ih h)
    · rcases List.mem_cons.1 h with rfl | h
      · exact List.mem_cons_self
      · exact List.mem_cons_of_mem _ (ih h)

namespace Table.Builder

variable {b : Builder} {side : Side} {name : String} {found : Option Nat}

theorem mem_classes {c : ClassEntry} : c ∈ b.classes ↔ ∃ slot : Nat, b.slots[slot]? = some (some c) := by
  simp only [classes, List.mem_filterMap, id_eq, exists_eq_right, Array.mem_toList_iff, Array.mem_iff_getElem?]

/-- A class has the name on this side exactly if it is in the slot that was found. -/
def OnlyAt (b : Builder) (side : Side) (name : String) (found : Option Nat) : Prop :=
  ∀ (slot : Nat) (c : ClassEntry), b.slots[slot]? = some (some c) → (c.name side = name ↔ found = some slot)

theorem Coherent.onlyAt (h : b.Coherent) (side : Side) (name : String) : b.OnlyAt side name (b.index side)[name]? := by
  intro slot c hc
  constructor
  · rintro rfl
    exact h.index_name hc side
  · intro hslot
    obtain ⟨d, hd, hname⟩ := (h side name slot).1 hslot
    rw [hc] at hd
    cases hd
    exact hname

/-! ## Adding a class -/

/-- Evicting a slot makes a hole of what is there. -/
theorem getElem?_evict (b : Builder) (slot i : Nat) :
    (b.evict slot).slots[i]? = if slot = i then b.slots[i]?.map fun _ => none else b.slots[i]? := by
  by_cases hold : ∃ old, b.slots[slot]? = some (some old)
  · obtain ⟨old, hold⟩ := hold
    rw [slots_evict hold, Array.getElem?_setIfInBounds]
    by_cases hi : slot = i
    · subst hi
      obtain ⟨hlt, -⟩ := Array.getElem?_eq_some_iff.1 hold
      simp [hlt]
    · simp [hi]
  · rw [evict_eq_self fun old ho => hold ⟨old, ho⟩]
    by_cases hi : slot = i
    · subst hi
      rcases hslot : b.slots[slot]? with _ | _ | old
      · simp
      · simp
      · exact absurd ⟨old, hslot⟩ hold
    · simp [hi]

/-- Evicting the slot found for a name makes a hole of the class that has the name, and of no other. -/
theorem OnlyAt.slots_evictFound (h : b.OnlyAt side name found) :
    (b.evictFound found).slots = b.slots.map (Option.filter fun c => c.name side ≠ name) := by
  refine Array.ext_getElem? fun i => ?_
  have hslot : (b.evictFound found).slots[i]? = if found = some i then b.slots[i]?.map fun _ => none else b.slots[i]? := by
    cases found with
    | none => rfl
    | some slot => simp [evictFound, getElem?_evict]
  rw [hslot, Array.getElem?_map]
  rcases hi : b.slots[i]? with _ | _ | c
  · simp
  · simp
  · by_cases hname : c.name side = name
    · have hfound : found = some i := (h i c hi).1 hname
      simp [Option.filter, hname, hfound]
    · have hfound : found ≠ some i := fun hf => hname ((h i c hi).2 hf)
      simp [Option.filter, hname, hfound]

/-- A new class gets a slot at the end, and those that share a name with it leave a hole. -/
theorem Coherent.slots_insertClass (h : b.Coherent) (c : ClassEntry) :
    (b.insertClass c).slots = (b.slots.map (Option.filter fun d => ¬d.SharesName c)).push (some c) := by
  have hobfuscated : b.OnlyAt .obfuscated c.obfuscated b.byObfuscated[c.obfuscated]? := h.onlyAt .obfuscated _
  have hfirst := hobfuscated.slots_evictFound
  -- the second slot was found before the first eviction, which only made a hole
  have hdeclared : (b.evictFound b.byObfuscated[c.obfuscated]?).OnlyAt .declared c.declared b.byDeclared[c.declared]? := by
    intro slot d hd
    refine h.onlyAt .declared c.declared slot d ?_
    rw [hfirst, Array.getElem?_map] at hd
    rcases hslot : b.slots[slot]? with _ | _ | e
    · simp [hslot] at hd
    · simp [hslot] at hd
    · simp only [hslot, Option.map_some, Option.some.injEq, Option.filter_eq_some_iff] at hd
      rw [hd.1]
  have hshares : (Option.filter fun d => d.name .declared ≠ c.declared) ∘
      (Option.filter fun d => d.name .obfuscated ≠ c.obfuscated) =
        Option.filter fun d : ClassEntry => ¬d.SharesName c := by
    funext slot
    rw [Function.comp_apply, Option.filter_filter]
    congr 1
    funext d
    by_cases hobf : d.obfuscated = c.obfuscated <;> by_cases hdecl : d.declared = c.declared <;>
      simp [ClassEntry.SharesName, ClassEntry.name, hobf, hdecl]
  rw [Builder.slots_insertClass, hdeclared.slots_evictFound, hfirst, Array.map_map, hshares]

/-- A new class stands at the end, and those that share a name with it are gone. -/
theorem classes_insertClass (h : b.Coherent) (c : ClassEntry) :
    (b.insertClass c).classes = b.classes.filter (fun d => ¬d.SharesName c) ++ [c] := by
  have hslots := h.slots_insertClass c
  unfold classes
  rw [hslots, Array.toList_push, List.filterMap_append, Array.toList_map, List.filterMap_map, List.filter_filterMap]
  rfl

/-- The classes added one after the other to an empty builder, without those that were replaced. -/
theorem classes_foldl_insertClass (cs : List ClassEntry) :
    (cs.foldl insertClass empty).Coherent ∧ (cs.foldl insertClass empty).classes = unreplaced cs := by
  induction cs using List.reverseRecOn with
  | nil => exact ⟨coherent_empty, rfl⟩
  | append_singleton cs c ih =>
    obtain ⟨hcoherent, hclasses⟩ := ih
    rw [List.foldl_append, List.foldl_cons, List.foldl_nil]
    refine ⟨hcoherent.insertClass c, ?_⟩
    rw [classes_insertClass hcoherent, hclasses, unreplaced_concat]

/-! ## Changing a class -/

theorem getElem?_modifyDeclared (b : Builder) (name : String) (change : ClassEntry → ClassEntry) (i : Nat) :
    (b.modifyDeclared name change).slots[i]? =
      if b.byDeclared[name]? = some i then b.slots[i]?.map (·.map change) else b.slots[i]? := by
  unfold modifyDeclared
  split
  · rename_i slot hslot
    simp [hslot, Array.getElem?_modify]
  · rename_i hslot
    simp [hslot]

theorem Coherent.slots_modifyDeclared (h : b.Coherent) (name : String) (change : ClassEntry → ClassEntry) :
    (b.modifyDeclared name change).slots =
      b.slots.map (Option.map fun c => if c.declared = name then change c else c) := by
  refine Array.ext_getElem? fun i => ?_
  rw [getElem?_modifyDeclared, Array.getElem?_map]
  rcases hi : b.slots[i]? with _ | _ | c
  · simp
  · simp
  · by_cases hname : c.declared = name
    · have hfound : b.byDeclared[name]? = some i := (h.onlyAt .declared name i c hi).1 hname
      simp [hname, hfound]
    · have hfound : ¬b.byDeclared[name]? = some i := fun hf => hname ((h.onlyAt .declared name i c hi).2 hf)
      simp [hname, hfound]

/-- The class with the declared name is changed, and no other. -/
theorem classes_modifyDeclared (h : b.Coherent) (name : String) (change : ClassEntry → ClassEntry) :
    (b.modifyDeclared name change).classes = b.classes.map fun c => if c.declared = name then change c else c := by
  unfold classes
  rw [h.slots_modifyDeclared, Array.toList_map, List.filterMap_map, List.map_filterMap]
  rfl

@[simp] theorem classes_modifyStats (b : Builder) (change : Stats → Stats) :
    (b.modifyStats change).classes = b.classes :=
  rfl

theorem evict_modifyStats (b : Builder) (change : Stats → Stats) (slot : Nat) :
    (b.modifyStats change).evict slot = (b.evict slot).modifyStats change := by
  rcases hslot : b.slots[slot]? with _ | _ | old <;> simp [evict, modifyStats, hslot]

theorem evictFound_modifyStats (b : Builder) (change : Stats → Stats) (found : Option Nat) :
    (b.modifyStats change).evictFound found = (b.evictFound found).modifyStats change := by
  cases found with
  | none => rfl
  | some slot => exact evict_modifyStats b change slot

/-- The counters have no part in adding a class. -/
theorem insertClass_modifyStats (b : Builder) (change : Stats → Stats) (c : ClassEntry) :
    (b.modifyStats change).insertClass c = (b.insertClass c).modifyStats change := by
  have hfreed := evictFound_modifyStats (b.evictFound b.byObfuscated[c.obfuscated]?) change b.byDeclared[c.declared]?
  rw [← evictFound_modifyStats] at hfreed
  unfold insertClass
  exact congrArg (fun freed : Builder =>
    { freed with
      slots := freed.slots.push (some c)
      byObfuscated := freed.byObfuscated.insert c.obfuscated freed.slots.size
      byDeclared := freed.byDeclared.insert c.declared freed.slots.size }) hfreed

theorem stats_evictFound (b : Builder) (found : Option Nat) : (b.evictFound found).stats = b.stats := by
  cases found with
  | none => rfl
  | some slot =>
    show (b.evict slot).stats = b.stats
    unfold evict
    split <;> rfl

theorem stats_insertClass (b : Builder) (c : ClassEntry) : (b.insertClass c).stats = b.stats :=
  (stats_evictFound _ _).trans (stats_evictFound _ _)

theorem stats_modifyDeclared (b : Builder) (name : String) (change : ClassEntry → ClassEntry) :
    (b.modifyDeclared name change).stats = b.stats := by
  unfold modifyDeclared
  split <;> rfl

/-- A declared name is found exactly if one of the classes has it. -/
theorem isSome_withDeclared? (h : b.Coherent) (name : String) :
    (b.withDeclared? name).isSome ↔ ∃ c ∈ b.classes, c.declared = name := by
  rw [Option.isSome_iff_exists]
  simp only [withDeclared?, Option.bind_eq_some_iff, Option.join_eq_some_iff, mem_classes]
  constructor
  · rintro ⟨c, slot, hslot, hc⟩
    exact ⟨c, ⟨slot, hc⟩, (h.onlyAt .declared name slot c hc).2 hslot⟩
  · rintro ⟨c, ⟨slot, hc⟩, hname⟩
    exact ⟨c, slot, (h.onlyAt .declared name slot c hc).1 hname, hc⟩

theorem classes_build (b : Builder) : b.build.classes.toList = b.classes := List.toList_toArray

end Table.Builder

end NameBridge
