import NameBridge.Proofs.Table.Replacement

/-!
What becomes of every class that is inserted.

Read off the steps alone: an inserted class is replaced if a later step inserts a class that shares a name with it;
otherwise it stays, with its own members and those that later steps add under its declared name (`outcomes`). The
slots of a builder hold exactly this, one slot for each insertion (`slots_ofSteps`), so a hole stays a hole and
the table lists the classes that stay, in order.
-/

namespace NameBridge.Table.Builder

namespace Step

/-- The step inserts a class with one of these two names. -/
def Replaces (declared obfuscated : String) : Step → Prop
  | .insertClass d o _ => obfuscated = o ∨ declared = d
  | _ => False

instance (declared obfuscated : String) : DecidablePred (Replaces declared obfuscated)
  | .insertClass .. => inferInstanceAs (Decidable (_ ∨ _))
  | .addMember .. => inferInstanceAs (Decidable False)
  | .changeStats _ => inferInstanceAs (Decidable False)

/-- The member that the step adds under a declared name. -/
def memberFor? (declared : String) : Step → Option NewMember
  | .addMember name member => if name = declared then some member else none
  | _ => none

end Step

/-- The members that the steps add under a declared name, in order. -/
def addedTo (declared : String) (steps : List Step) : List NewMember := steps.filterMap (Step.memberFor? declared)

/-- For each class inserted, in order, what it is in the end: none if a later one shares a name with it, else the
class with its members and with those added under its declared name later. -/
def outcomes : List Step → List (Option ClassEntry)
  | [] => []
  | .insertClass declared obfuscated members :: later =>
    (if ∃ s ∈ later, s.Replaces declared obfuscated then none
      else some (.ofMembers declared obfuscated (members ++ addedTo declared later))) :: outcomes later
  | .addMember .. :: later => outcomes later
  | .changeStats _ :: later => outcomes later

/-! ## One more step -/

namespace Step

/-- What the step makes of a class that is there. -/
def act : Step → ClassEntry → Option ClassEntry
  | .insertClass declared obfuscated members, c =>
    if c.SharesName (.ofMembers declared obfuscated members) then none else some c
  | .addMember name member, c => some (if c.declared = name then c.addMember member else c)
  | .changeStats _, c => some c

/-- The class that the step brings. -/
def own : Step → List (Option ClassEntry)
  | .insertClass declared obfuscated members => [some (.ofMembers declared obfuscated members)]
  | .addMember .. => []
  | .changeStats _ => []

end Step

theorem addedTo_concat (declared : String) (steps : List Step) (s : Step) :
    addedTo declared (steps ++ [s]) = addedTo declared steps ++ (s.memberFor? declared).toList := by
  rw [addedTo, List.filterMap_append]
  cases hmember : s.memberFor? declared with
  | none => rw [List.filterMap_cons_none hmember]; rfl
  | some m => rw [List.filterMap_cons_some hmember]; rfl

/-- A class that stays until a step is replaced by it or takes the member it adds. -/
theorem Step.act_ofMembers (s : Step) (declared obfuscated : String) (members : List NewMember) :
    s.act (.ofMembers declared obfuscated members) =
      if s.Replaces declared obfuscated then none
      else some (.ofMembers declared obfuscated (members ++ (s.memberFor? declared).toList)) := by
  cases s with
  | insertClass d o new =>
    simp only [act, Replaces, memberFor?, ClassEntry.SharesName, ClassEntry.obfuscated_ofMembers,
      ClassEntry.declared_ofMembers, Option.toList_none, List.append_nil]
  | addMember name member =>
    rw [if_neg (by exact id), act, memberFor?, ClassEntry.declared_ofMembers]
    by_cases hname : name = declared
    · rw [if_pos hname.symm, if_pos hname, Option.toList_some, ClassEntry.ofMembers_concat]
    · rw [if_neg (Ne.symm hname), if_neg hname, Option.toList_none, List.append_nil]
  | changeStats change =>
    rw [if_neg (by exact id)]
    simp only [act, memberFor?, Option.toList_none, List.append_nil]

theorem outcomes_concat (steps : List Step) (s : Step) :
    outcomes (steps ++ [s]) = (outcomes steps).map (·.bind s.act) ++ s.own := by
  induction steps with
  | nil => cases s <;> simp [outcomes, Step.own, addedTo]
  | cons t steps ih =>
    cases t with
    | insertClass declared obfuscated members =>
      have hreplaced : (∃ x ∈ steps ++ [s], x.Replaces declared obfuscated) ↔
          (∃ x ∈ steps, x.Replaces declared obfuscated) ∨ s.Replaces declared obfuscated := by
        simp only [List.mem_append, List.mem_singleton, or_and_right, exists_or, exists_eq_left]
      rw [List.cons_append, outcomes, outcomes, ih, List.map_cons, List.cons_append, addedTo_concat,
        ← List.append_assoc]
      congr 1
      by_cases hbefore : ∃ x ∈ steps, x.Replaces declared obfuscated
      · rw [if_pos (hreplaced.2 (.inl hbefore)), if_pos hbefore, Option.bind_none]
      · rw [if_neg hbefore, Option.bind_some, Step.act_ofMembers]
        simp only [hreplaced, hbefore, false_or]
    | addMember name member => exact ih
    | changeStats change => exact ih

/-- One step acts on every slot, and an inserted class gets the next one. -/
theorem Coherent.slots_step {b : Builder} (h : b.Coherent) (s : Step) :
    (b.step s).slots.toList = b.slots.toList.map (·.bind s.act) ++ s.own := by
  cases s with
  | insertClass declared obfuscated members =>
    have hslots := h.slots_insertClass (.ofMembers declared obfuscated members)
    have hact : (Option.filter fun c => ¬c.SharesName (.ofMembers declared obfuscated members)) =
        (·.bind (Step.insertClass declared obfuscated members).act) := by
      funext slot
      cases slot with
      | none => rfl
      | some c =>
        by_cases hc : c.SharesName (.ofMembers declared obfuscated members)
        · simp [Option.filter, Step.act, hc]
        · simp [Option.filter, Step.act, hc]
    rw [Builder.step, hslots, Array.toList_push, Array.toList_map, hact]
    rfl
  | addMember name member =>
    have hslots := h.slots_modifyDeclared name (·.addMember member)
    rw [Builder.step, hslots, Array.toList_map, Step.own, List.append_nil]
    refine List.map_congr_left fun slot _ => ?_
    cases slot <;> rfl
  | changeStats change =>
    rw [Step.own, List.append_nil]
    refine ((List.map_congr_left fun slot _ => ?_).trans (List.map_id _)).symm
    cases slot <;> rfl

theorem slots_ofSteps (steps : List Step) : (ofSteps steps).slots.toList = outcomes steps := by
  induction steps using List.reverseRecOn with
  | nil => rfl
  | append_singleton steps s ih =>
    have hcoherent : (ofSteps steps).Coherent := Made.coherent ⟨steps, rfl⟩
    have hlast : ofSteps (steps ++ [s]) = (ofSteps steps).step s := by simp [ofSteps]
    rw [hlast, hcoherent.slots_step, ih, outcomes_concat]

/-- A hole stays a hole. -/
theorem hole_ofSteps_append (steps later : List Step) {slot : Nat} (h : (ofSteps steps).slots[slot]? = some none) :
    (ofSteps (steps ++ later)).slots[slot]? = some none := by
  induction later using List.reverseRecOn with
  | nil => rwa [List.append_nil]
  | append_singleton later s ih =>
    rw [← Array.getElem?_toList, slots_ofSteps] at ih ⊢
    have hlt : slot < (outcomes (steps ++ later)).length := (List.getElem?_eq_some_iff.1 ih).1
    rw [← List.append_assoc, outcomes_concat, List.getElem?_append_left (by rwa [List.length_map]),
      List.getElem?_map, ih]
    rfl

/-- The table lists, in the order of insertion, the classes that no later one shares a name with, each with its own
members and those added under its declared name after it. The builder has one slot for each insertion, and a class
that was replaced leaves its slot empty for good. -/
theorem last_insertion_wins (steps : List Step) :
    (ofSteps steps).build.classes.toList = (outcomes steps).filterMap id ∧
    (ofSteps steps).slots.toList = outcomes steps ∧
    ∀ (later : List Step) (slot : Nat),
      (ofSteps steps).slots[slot]? = some none → (ofSteps (steps ++ later)).slots[slot]? = some none := by
  have hslots := slots_ofSteps steps
  refine ⟨?_, hslots, fun later slot => hole_ofSteps_append steps later⟩
  rw [classes_build, classes, hslots]

/-- Two classes with one declared name: the second replaces the first. -/
def renamedBlock : List Step :=
  [.insertClass "net.Block" "a" [.field "x" "hardness"], .insertClass "net.Block" "b" [],
    .addMember "net.Block" (.field "y" "age")]

/-- The class that replaced another is replaced itself, and the other does not come back. -/
theorem replaced_class_stays_away :
    (ofSteps renamedBlock).slots[0]? = some none ∧
    (ofSteps (renamedBlock ++ [.insertClass "net.Item" "b" []])).slots[0]? = some none ∧
    (ofSteps renamedBlock).build.classes.toList = [.ofMembers "net.Block" "b" [.field "y" "age"]] ∧
    (ofSteps (renamedBlock ++ [.insertClass "net.Item" "b" []])).build.classes.toList = [.ofNames "net.Item" "b"] := by
  obtain ⟨hfirst, hslots, hstays⟩ := last_insertion_wins renamedBlock
  obtain ⟨hlast, -, -⟩ := last_insertion_wins (renamedBlock ++ [.insertClass "net.Item" "b" []])
  have hhole : (ofSteps renamedBlock).slots[0]? = some none := by
    rw [← Array.getElem?_toList, hslots]
    rfl
  exact ⟨hhole, hstays _ 0 hhole, hfirst, hlast⟩

end NameBridge.Table.Builder
