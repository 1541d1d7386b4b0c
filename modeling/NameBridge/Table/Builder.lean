import NameBridge.Table.Basic

/-!
Tables under construction.

Classes are added one by one. A class that shares a name with an earlier one, on either side,
replaces it with all its members, so at any time each name belongs to one class at most. A replaced
class leaves a hole until `build` closes the gaps.
-/

namespace NameBridge.Table

/-- A table that grows. -/
structure Builder where
  /-- The classes in the order they were added, with a hole for each one replaced. -/
  slots : Array (Option ClassEntry) := #[]
  byObfuscated : Std.HashMap String Nat := ∅
  byDeclared : Std.HashMap String Nat := ∅
  stats : Stats := {}

namespace Builder

def empty : Builder := {}

/-- Forget `name` if it leads to `slot`. -/
def forget (index : Std.HashMap String Nat) (name : String) (slot : Nat) :
    Std.HashMap String Nat :=
  if index[name]? = some slot then index.erase name else index

/-- Empty a slot, and forget both names of the class that was there. -/
def evict (b : Builder) (slot : Nat) : Builder :=
  match b.slots[slot]? with
  | some (some old) =>
    { b with
      slots := b.slots.setIfInBounds slot none
      byObfuscated := forget b.byObfuscated old.obfuscated slot
      byDeclared := forget b.byDeclared old.declared slot }
  | _ => b

/-- Empty the slot that an index gave, if it gave one. -/
def evictFound (b : Builder) : Option Nat → Builder
  | some slot => b.evict slot
  | none => b

/-- Add a class at the end, in place of the classes that share a name with it. -/
def insertClass (b : Builder) (c : ClassEntry) : Builder :=
  let freed := (b.evictFound b.byObfuscated[c.obfuscated]?).evictFound b.byDeclared[c.declared]?
  { freed with
    slots := freed.slots.push (some c)
    byObfuscated := freed.byObfuscated.insert c.obfuscated freed.slots.size
    byDeclared := freed.byDeclared.insert c.declared freed.slots.size }

/-- The class that has this declared name now. -/
def withDeclared? (b : Builder) (name : String) : Option ClassEntry :=
  b.byDeclared[name]?.bind fun slot => b.slots[slot]?.join

/-- Change the members of the class that has this declared name now, if there is one. -/
def modifyDeclared (b : Builder) (name : String) (change : ClassEntry → ClassEntry) : Builder :=
  match b.byDeclared[name]? with
  | some slot => { b with slots := b.slots.modify slot (·.map change) }
  | none => b

def modifyStats (b : Builder) (change : Stats → Stats) : Builder :=
  { b with stats := change b.stats }

/-- The classes that were not replaced, in order. -/
def classes (b : Builder) : List ClassEntry := b.slots.toList.filterMap id

/-- For each slot the position its class gets once the gaps are closed, counted from `next`; none for
a hole. -/
def newPlaces (next : Nat) : List (Option ClassEntry) → List (Option Nat)
  | [] => []
  | none :: slots => none :: newPlaces next slots
  | some _ :: slots => some next :: newPlaces (next + 1) slots

/-- An index over positions, made from one over slots. -/
def relocate (index : Std.HashMap String Nat) (places : Array (Option Nat)) :
    Std.HashMap String Nat :=
  index.filterMap fun _ slot => places[slot]?.join

/-- The finished table: the gaps are closed and both indices moved along. -/
def build (b : Builder) : Table :=
  let places := (newPlaces 0 b.slots.toList).toArray
  { classes := b.classes.toArray
    byObfuscated := relocate b.byObfuscated places
    byDeclared := relocate b.byDeclared places
    -- three of the counts are taken from the classes, whatever stood there before
    stats := { b.stats with
      classes := b.classes.length
      fields := total (·.fieldCount) b.classes
      methods := total (·.methods.size) b.classes } }

end Builder

end NameBridge.Table
