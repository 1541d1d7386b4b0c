import NameBridge.Table.Method
import NameBridge.Table.Pairing

/-!
Class records of a renaming table: two names, fields and methods.

Methods are stored once, in the order they were added. Two indices lead from either name to the
positions of the methods that carry it, so a method found by one name is the very record found by
the other.
-/

namespace NameBridge

/-- For each name the positions of the records that carry it, in increasing order. -/
abbrev NameIndex := Std.HashMap String (List Nat)

/-- Note that the record at `position` carries `name`. -/
def NameIndex.add (index : NameIndex) (name : String) (position : Nat) : NameIndex :=
  index.insert name (index.getD name [] ++ [position])

theorem NameIndex.getD_add (index : NameIndex) (name other : String) (position : Nat) :
    (index.add name position).getD other [] =
      if other = name then index.getD name [] ++ [position] else index.getD other [] := by
  simp only [NameIndex.add, Std.HashMap.getD_insert, beq_iff_eq, @eq_comm _ other name]

/-- One class with its members. -/
structure ClassEntry where
  declared : String
  obfuscated : String
  fields : Pairing := .empty
  methods : Array MethodEntry := #[]
  methodsByObfuscated : NameIndex := ∅
  methodsByDeclared : NameIndex := ∅

namespace ClassEntry

/-- A class without members. -/
def ofNames (declared obfuscated : String) : ClassEntry := { declared, obfuscated }

/-! ## Fields -/

/-- Record a field, in place of every field that shares a name with it. -/
def insertField (c : ClassEntry) (obfuscated declared : String) : ClassEntry :=
  { c with fields := c.fields.insert obfuscated declared }

/-- The declared name of the field with an obfuscated name. -/
def deobfuscateField? (c : ClassEntry) (obfuscated : String) : Option String :=
  c.fields.declared? obfuscated

/-- The obfuscated name of the field with a declared name. -/
def obfuscateField? (c : ClassEntry) (declared : String) : Option String :=
  c.fields.obfuscated? declared

def fieldCount (c : ClassEntry) : Nat := c.fields.size

/-! ## Methods -/

/-- Append a method. Overloads and repetitions are kept. -/
def insertMethod (c : ClassEntry) (m : MethodEntry) : ClassEntry :=
  { c with
    methods := c.methods.push m
    methodsByObfuscated := c.methodsByObfuscated.add m.obfuscated c.methods.size
    methodsByDeclared := c.methodsByDeclared.add m.declared c.methods.size }

/-- The methods at the positions that `index` gives for `name`. -/
def methodsAt (c : ClassEntry) (index : NameIndex) (name : String) : List MethodEntry :=
  (index.getD name []).filterMap (c.methods[·]?)

/-- The methods with an obfuscated name, in the order they were added. -/
def methodsWithObfuscated (c : ClassEntry) (name : String) : List MethodEntry :=
  c.methodsAt c.methodsByObfuscated name

/-- The methods with a declared name, in the order they were added. -/
def methodsWithDeclared (c : ClassEntry) (name : String) : List MethodEntry :=
  c.methodsAt c.methodsByDeclared name

/-! ## What the operations leave alone -/

@[simp] theorem declared_ofNames (d o : String) : (ofNames d o).declared = d := rfl
@[simp] theorem obfuscated_ofNames (d o : String) : (ofNames d o).obfuscated = o := rfl
@[simp] theorem declared_insertField (c : ClassEntry) (o d : String) :
    (c.insertField o d).declared = c.declared := rfl
@[simp] theorem obfuscated_insertField (c : ClassEntry) (o d : String) :
    (c.insertField o d).obfuscated = c.obfuscated := rfl
@[simp] theorem declared_insertMethod (c : ClassEntry) (m : MethodEntry) :
    (c.insertMethod m).declared = c.declared := rfl
@[simp] theorem obfuscated_insertMethod (c : ClassEntry) (m : MethodEntry) :
    (c.insertMethod m).obfuscated = c.obfuscated := rfl
@[simp] theorem methods_insertMethod (c : ClassEntry) (m : MethodEntry) :
    (c.insertMethod m).methods = c.methods.push m := rfl

end ClassEntry

end NameBridge
