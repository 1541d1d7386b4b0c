import NameBridge.Grammar.Flat
import NameBridge.Grammar.Retrace
import NameBridge.Proofs.Basic

/-!
How tables come to be.

A table is made by a builder in a number of steps: classes are inserted with members they were given
before, members are added to the class that has a declared name, and the counters are changed.
`Table.Built` says that a table is the result of such steps. `built_of_flat_read` and
`built_of_retrace_read`: what either grammar reads is built, so whatever holds of built tables holds of
every table that comes from a file.
-/

namespace NameBridge

/-- The two sides a class or a method has a name on. -/
inductive Side where
  | obfuscated
  | declared

/-! ## Classes -/

/-- A member that a class is given. -/
inductive NewMember where
  | field (obfuscated declared : String)
  | method (record : MethodEntry)
  deriving DecidableEq, Repr

namespace ClassEntry

def addMember (c : ClassEntry) : NewMember → ClassEntry
  | .field obfuscated declared => c.insertField obfuscated declared
  | .method record => c.insertMethod record

/-- A class with these members, given one after the other. -/
def ofMembers (declared obfuscated : String) (members : List NewMember) : ClassEntry :=
  members.foldl addMember (ofNames declared obfuscated)

@[simp] theorem declared_addMember (c : ClassEntry) (m : NewMember) :
    (c.addMember m).declared = c.declared := by
  cases m <;> rfl

@[simp] theorem obfuscated_addMember (c : ClassEntry) (m : NewMember) :
    (c.addMember m).obfuscated = c.obfuscated := by
  cases m <;> rfl

def name (c : ClassEntry) : Side → String
  | .obfuscated => c.obfuscated
  | .declared => c.declared

@[simp] theorem name_addMember (c : ClassEntry) (m : NewMember) (side : Side) :
    (c.addMember m).name side = c.name side := by
  cases side <;> simp [name]

theorem name_foldl_addMember (c : ClassEntry) (members : List NewMember) (side : Side) :
    (members.foldl addMember c).name side = c.name side := by
  induction members generalizing c with
  | nil => rfl
  | cons m members ih => rw [List.foldl_cons, ih, name_addMember]

@[simp] theorem declared_ofMembers (declared obfuscated : String) (members : List NewMember) :
    (ofMembers declared obfuscated members).declared = declared :=
  name_foldl_addMember _ members .declared

@[simp] theorem obfuscated_ofMembers (declared obfuscated : String) (members : List NewMember) :
    (ofMembers declared obfuscated members).obfuscated = obfuscated :=
  name_foldl_addMember _ members .obfuscated

theorem ofMembers_concat (declared obfuscated : String) (members : List NewMember) (m : NewMember) :
    ofMembers declared obfuscated (members ++ [m]) = (ofMembers declared obfuscated members).addMember m := by
  simp [ofMembers]

/-- A class made by giving members to a class without any. -/
def Made (c : ClassEntry) : Prop := ∃ declared obfuscated members, c = ofMembers declared obfuscated members

theorem made_ofNames (declared obfuscated : String) : (ofNames declared obfuscated).Made :=
  ⟨declared, obfuscated, [], rfl⟩

theorem Made.addMember {c : ClassEntry} (h : c.Made) (m : NewMember) : (c.addMember m).Made := by
  obtain ⟨declared, obfuscated, members, rfl⟩ := h
  exact ⟨declared, obfuscated, members ++ [m], (ofMembers_concat ..).symm⟩

/-- A property of every class without members that each new member keeps is a property of every class
made. -/
theorem Made.induction {P : ClassEntry → Prop} (hnames : ∀ declared obfuscated, P (ofNames declared obfuscated))
    (hadd : ∀ c m, P c → P (c.addMember m)) {c : ClassEntry} (h : c.Made) : P c := by
  obtain ⟨declared, obfuscated, members, rfl⟩ := h
  exact List.foldlRecOn (motive := P) members ClassEntry.addMember (hnames declared obfuscated)
    fun c hc m _ => hadd c m hc

end ClassEntry

/-! ## Builders and tables -/

namespace Table

/-- What can be done to a table under construction. -/
inductive Builder.Step where
  | insertClass (declared obfuscated : String) (members : List NewMember)
  | addMember (declared : String) (member : NewMember)
  | changeStats (change : Stats → Stats)

namespace Builder

def step (b : Builder) : Step → Builder
  | .insertClass declared obfuscated members => b.insertClass (.ofMembers declared obfuscated members)
  | .addMember declared member => b.modifyDeclared declared (·.addMember member)
  | .changeStats change => b.modifyStats change

/-- The builder after these steps, from the empty one. -/
def ofSteps (steps : List Step) : Builder := steps.foldl step empty

/-- A builder that steps lead to. -/
def Made (b : Builder) : Prop := ∃ steps, b = ofSteps steps

theorem made_empty : empty.Made := ⟨[], rfl⟩

theorem Made.step {b : Builder} (h : b.Made) (s : Step) : (b.step s).Made := by
  obtain ⟨steps, rfl⟩ := h
  exact ⟨steps ++ [s], by simp [ofSteps]⟩

theorem Made.insertClass {b : Builder} (h : b.Made) {c : ClassEntry} (hc : c.Made) : (b.insertClass c).Made := by
  obtain ⟨declared, obfuscated, members, rfl⟩ := hc
  exact h.step (.insertClass declared obfuscated members)

theorem Made.modifyStats {b : Builder} (h : b.Made) (change : Stats → Stats) : (b.modifyStats change).Made :=
  h.step (.changeStats change)

theorem Made.addMember {b : Builder} (h : b.Made) (owner : String) (m : NewMember) :
    (Flat.addMember b owner (·.addMember m)).Made := by
  unfold Flat.addMember
  split
  · exact h.step (.addMember owner m)
  · exact h.modifyStats _

/-- A property of the empty builder that every step keeps is a property of every builder. -/
theorem Made.induction {P : Builder → Prop} (hempty : P empty) (hstep : ∀ b s, P b → P (b.step s))
    {b : Builder} (h : b.Made) : P b := by
  obtain ⟨steps, rfl⟩ := h
  exact List.foldlRecOn (motive := P) steps Builder.step hempty fun b hb s _ => hstep b s hb

end Builder

/-- The table is the result of steps of a builder. -/
def Built (t : Table) : Prop := ∃ steps, t = (Builder.ofSteps steps).build

theorem Builder.Made.built {b : Builder} (h : b.Made) : b.build.Built := by
  obtain ⟨steps, rfl⟩ := h
  exact ⟨steps, rfl⟩

end Table

/-! ## The flat grammar -/

namespace Flat

open Table

theorem made_addClassLine {b : Builder} (h : b.Made) (line : String) : (addClassLine b line).Made := by
  unfold addClassLine
  split
  · exact h
  · split
    · exact h.insertClass (ClassEntry.made_ofNames _ _)
    · exact h.modifyStats _

theorem made_readClasses (c : LineCursor) {b : Builder} (h : b.Made) : (readClasses c b).2.Made := by
  fun_induction readClasses c b with
  | case1 => exact h
  | case2 c b line c' _ ih => exact ih (made_addClassLine h line)

theorem made_addMemberLine {options : ReadOptions} {b b' : Builder} {number : Nat} {line : String}
    (h : b.Made) (hb : addMemberLine options b number line = .ok b') : b'.Made := by
  unfold addMemberLine at hb
  split at hb
  · cases hb; exact h
  · split at hb
    · cases hb; exact h
    · cases hb; exact h.modifyStats _
    · cases hb; exact h.addMember _ (.field _ _)
    · split at hb
      · cases hb; exact h.modifyStats _
      · split at hb
        · cases hb; exact h.addMember _ (.method _)
        · cases hb; exact h.modifyStats _
        · cases hb

theorem made_readMembers {options : ReadOptions} {c c' : LineCursor} {b b' : Builder} (h : b.Made)
    (hb : readMembers options c b = .ok (c', b')) : b'.Made := by
  fun_induction readMembers options c b with
  | case1 => cases hb; exact h
  | case2 c b line rest _ ih =>
    obtain ⟨next, hline, hb⟩ := bind_eq_ok_iff.1 hb
    exact ih next (made_addMemberLine h hline) hb

/-- Every table in the flat grammar is built. -/
theorem built_of_flat_read {classes : LineCursor} {members : Option LineCursor} {options : ReadOptions}
    {t : Table} (h : read classes members options = .ok t) : t.Built := by
  have hmade := made_readClasses classes Builder.made_empty
  obtain ⟨_, -, h⟩ := bind_eq_ok_iff.1 h
  cases members with
  | none =>
    cases h
    exact hmade.built
  | some members =>
    obtain ⟨⟨m, b⟩, hb, h⟩ := bind_eq_ok_iff.1 h
    obtain ⟨_, -, h⟩ := bind_eq_ok_iff.1 h
    cases h
    exact (made_readMembers hmade hb).built

end Flat

/-! ## The retrace grammar -/

namespace Retrace

open Table

theorem made_add {block : Block} (h : block.entry.Made) (m : Member) : (block.add m).entry.Made := by
  cases m with
  | constructor => exact h
  | method record => exact h.addMember (.method record)
  | field obfuscated declared => exact h.addMember (.field obfuscated declared)
  | unknown => exact h

theorem made_readMembers (c : LineCursor) {block : Block} (h : block.entry.Made) :
    (readMembers c block).2.entry.Made := by
  fun_induction readMembers c block with
  | case1 => exact h
  | case2 c block line c' _ _ ih => exact ih h
  | case3 c block line c' _ _ body _ ih => exact ih (made_add h _)
  | case4 => exact h

theorem made_readBlocks (c : LineCursor) {b : Builder} (h : b.Made) : (readBlocks c b).2.Made := by
  fun_induction readBlocks c b with
  | case1 => exact h
  | case2 c b line c' _ _ ih => exact ih h
  | case3 c b line c' _ _ _ ih => exact ih (h.modifyStats _)
  | case4 c b line c' _ _ declared obfuscated _ found ih =>
    have hentry : found.2.entry.Made := made_readMembers c' (ClassEntry.made_ofNames _ _)
    exact ih ((h.modifyStats fun _ => found.2.stats).insertClass hentry)

/-- Every table in the retrace grammar is built. -/
theorem built_of_retrace_read {lines : LineCursor} {options : ReadOptions} {t : Table}
    (h : read lines options = .ok t) : t.Built := by
  have hmade := made_readBlocks lines Builder.made_empty
  obtain ⟨_, -, h⟩ := bind_eq_ok_iff.1 h
  cases h
  exact hmade.built

end Retrace

end NameBridge
