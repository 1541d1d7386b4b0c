import NameBridge.Proofs.Grammar.Passes
import NameBridge.Proofs.Table.History

/-!
The two indices of a table agree with its classes.

A builder is coherent if on either side its index leads from a name exactly to the slot of the class
that has it. Every step keeps this: a class that is replaced takes both its names with it, and only
where they still lead to its slot. Closing the gaps moves classes and indices alike, so a built table
is coherent in the same sense (`Built.index_iff`), and from this follows what is asked of its lookups.
-/

namespace NameBridge

namespace Table

def index (t : Table) : Side → Std.HashMap String Nat
  | .obfuscated => t.byObfuscated
  | .declared => t.byDeclared

/-- The class with a name on one side. -/
def lookup? (t : Table) (side : Side) (name : String) : Option ClassEntry :=
  (t.index side)[name]?.bind (t.classes[·]?)

theorem withObfuscated?_eq (t : Table) (name : String) : t.withObfuscated? name = t.lookup? .obfuscated name := rfl

theorem withDeclared?_eq (t : Table) (name : String) : t.withDeclared? name = t.lookup? .declared name := rfl

namespace Builder

def index (b : Builder) : Side → Std.HashMap String Nat
  | .obfuscated => b.byObfuscated
  | .declared => b.byDeclared

/-- On either side the index leads from a name exactly to the slot of the class that has it. -/
def Coherent (b : Builder) : Prop :=
  ∀ side name slot, (b.index side)[name]? = some slot ↔
    ∃ c : ClassEntry, b.slots[slot]? = some (some c) ∧ c.name side = name

theorem coherent_empty : empty.Coherent := by
  intro side name slot
  cases side <;> simp [empty, index]

theorem Coherent.index_name {b : Builder} (h : b.Coherent) {slot : Nat} {c : ClassEntry}
    (hc : b.slots[slot]? = some (some c)) (side : Side) : (b.index side)[c.name side]? = some slot :=
  (h side _ slot).2 ⟨c, hc, rfl⟩

/-! ## Eviction -/

theorem getElem?_forget (names : Std.HashMap String Nat) (old name : String) (slot : Nat) :
    (forget names old slot)[name]? = if old = name ∧ names[old]? = some slot then none else names[name]? := by
  unfold forget
  split
  · rename_i h
    simp [Std.HashMap.getElem?_erase, h]
  · rename_i h
    simp [h]

theorem slots_evict {b : Builder} {slot : Nat} {old : ClassEntry} (h : b.slots[slot]? = some (some old)) :
    (b.evict slot).slots = b.slots.setIfInBounds slot none := by
  simp [evict, h]

theorem index_evict {b : Builder} {slot : Nat} {old : ClassEntry} (h : b.slots[slot]? = some (some old))
    (side : Side) : (b.evict slot).index side = forget (b.index side) (old.name side) slot := by
  cases side <;> simp [evict, h, index, ClassEntry.name]

theorem evict_eq_self {b : Builder} {slot : Nat} (h : ∀ old, b.slots[slot]? ≠ some (some old)) :
    b.evict slot = b := by
  unfold evict
  split
  · exact absurd ‹_› (h _)
  · rfl

theorem Coherent.evict {b : Builder} (h : b.Coherent) (slot : Nat) : (b.evict slot).Coherent := by
  by_cases hold : ∃ old, b.slots[slot]? = some (some old)
  · obtain ⟨old, hold⟩ := hold
    intro side name s
    rw [index_evict hold, slots_evict hold, getElem?_forget, Array.getElem?_setIfInBounds]
    have hname := h.index_name hold side
    split
    · rename_i hn
      simp only [reduceCtorEq, false_iff, not_exists, not_and]
      rintro c hc rfl
      split at hc
      · split at hc <;> simp at hc
      · -- another class with the same name would share the slot
        have := h.index_name hc side
        rw [← hn.1, hname] at this
        simp_all
    · rename_i hn
      rw [h side name s]
      constructor
      · rintro ⟨c, hc, rfl⟩
        refine ⟨c, ?_, rfl⟩
        rw [if_neg ?_]
        · exact hc
        · rintro rfl
          rw [hold] at hc
          cases hc
          exact hn ⟨rfl, hname⟩
      · rintro ⟨c, hc, rfl⟩
        split at hc
        · split at hc <;> simp at hc
        · exact ⟨c, hc, rfl⟩
  · rw [evict_eq_self fun old ho => hold ⟨old, ho⟩]
    exact h

/-- Evicting the slot that a name leads to frees the name. -/
theorem Coherent.index_evict_self {b : Builder} (h : b.Coherent) {side : Side} {name : String} {slot : Nat}
    (hn : (b.index side)[name]? = some slot) : ((b.evict slot).index side)[name]? = none := by
  obtain ⟨old, hold, rfl⟩ := (h side name slot).1 hn
  simp [index_evict hold, getElem?_forget, hn]

/-- Eviction only ever frees names. -/
theorem index_evict_eq_or (b : Builder) (slot : Nat) (side : Side) (name : String) :
    ((b.evict slot).index side)[name]? = none ∨ ((b.evict slot).index side)[name]? = (b.index side)[name]? := by
  by_cases hold : ∃ old, b.slots[slot]? = some (some old)
  · obtain ⟨old, hold⟩ := hold
    rw [index_evict hold, getElem?_forget]
    split
    · exact .inl rfl
    · exact .inr rfl
  · rw [evict_eq_self fun old ho => hold ⟨old, ho⟩]
    exact .inr rfl

theorem Coherent.evictFound {b : Builder} (h : b.Coherent) (found : Option Nat) : (b.evictFound found).Coherent := by
  cases found with
  | none => exact h
  | some slot => exact h.evict slot

/-- A name that leads nowhere, or to the slot found, leads nowhere once that slot is evicted. -/
theorem Coherent.index_evictFound {b : Builder} (h : b.Coherent) {side : Side} {name : String} {found : Option Nat}
    (hn : (b.index side)[name]? = none ∨ (b.index side)[name]? = found) :
    ((b.evictFound found).index side)[name]? = none := by
  cases found with
  | none => simpa [Builder.evictFound] using hn
  | some slot =>
    rcases hn with hn | hn
    · rcases index_evict_eq_or b slot side name with h' | h'
      · exact h'
      · exact h'.trans hn
    · exact h.index_evict_self hn

theorem index_evictFound_eq_or (b : Builder) (found : Option Nat) (side : Side) (name : String) :
    ((b.evictFound found).index side)[name]? = none ∨
      ((b.evictFound found).index side)[name]? = (b.index side)[name]? := by
  cases found with
  | none => exact .inr rfl
  | some slot => exact index_evict_eq_or b slot side name

/-! ## Steps -/

theorem slots_insertClass (b : Builder) (c : ClassEntry) :
    (b.insertClass c).slots =
      ((b.evictFound b.byObfuscated[c.obfuscated]?).evictFound b.byDeclared[c.declared]?).slots.push (some c) := rfl

theorem index_insertClass (b : Builder) (c : ClassEntry) (side : Side) :
    (b.insertClass c).index side =
      (((b.evictFound b.byObfuscated[c.obfuscated]?).evictFound b.byDeclared[c.declared]?).index side).insert
        (c.name side)
        ((b.evictFound b.byObfuscated[c.obfuscated]?).evictFound b.byDeclared[c.declared]?).slots.size := by
  cases side <;> rfl

/-- A class with two free names can be added at the end. -/
theorem Coherent.push {b b' : Builder} (h : b.Coherent) {c : ClassEntry}
    (hfree : ∀ side, (b.index side)[c.name side]? = none) (hslots : b'.slots = b.slots.push (some c))
    (hindex : ∀ side, b'.index side = (b.index side).insert (c.name side) b.slots.size) : b'.Coherent := by
  intro side name slot
  rw [hindex, hslots, Std.HashMap.getElem?_insert, Array.getElem?_push]
  by_cases hn : c.name side = name
  · subst hn
    simp only [beq_self_eq_true, if_true, Option.some.injEq]
    constructor
    · rintro rfl
      exact ⟨c, by simp, rfl⟩
    · rintro ⟨d, hd, hdn⟩
      split at hd
      · exact ‹slot = _›.symm
      · have hd' := h.index_name hd side
        rw [hdn, hfree] at hd'
        cases hd'
  · simp only [beq_iff_eq, hn, if_false]
    rw [h side name slot]
    constructor
    · rintro ⟨d, hd, rfl⟩
      refine ⟨d, ?_, rfl⟩
      have hlt := (Array.getElem?_eq_some_iff.1 hd).1
      rw [if_neg (Nat.ne_of_lt hlt), hd]
    · rintro ⟨d, hd, rfl⟩
      split at hd
      · simp only [Option.some.injEq] at hd
        exact absurd (by rw [hd]) hn
      · exact ⟨d, hd, rfl⟩

theorem Coherent.insertClass {b : Builder} (h : b.Coherent) (c : ClassEntry) : (b.insertClass c).Coherent := by
  have h₁ := h.evictFound b.byObfuscated[c.obfuscated]?
  refine (h₁.evictFound b.byDeclared[c.declared]?).push ?_ (slots_insertClass b c) (index_insertClass b c)
  rintro (_ | _)
  · have hfree : ((b.evictFound b.byObfuscated[c.obfuscated]?).index .obfuscated)[c.obfuscated]? = none :=
      h.index_evictFound (.inr rfl)
    exact (index_evictFound_eq_or _ _ .obfuscated _).elim id fun heq => heq.trans hfree
  · -- the slot was looked up before the first eviction, which may have freed the name already
    exact h₁.index_evictFound (index_evictFound_eq_or b _ .declared c.declared)

theorem Coherent.modifyDeclared {b : Builder} (h : b.Coherent) (name : String) {change : ClassEntry → ClassEntry}
    (hchange : ∀ c side, (change c).name side = c.name side) : (b.modifyDeclared name change).Coherent := by
  unfold Builder.modifyDeclared
  split
  · rename_i slot _
    intro side n s
    have hindex : ∀ slots, Builder.index { b with slots := slots } side = b.index side := by
      intro slots; cases side <;> rfl
    rw [hindex, h side n s, Array.getElem?_modify]
    split
    · simp only [Option.map_eq_some_iff]
      constructor
      · rintro ⟨c, hc, rfl⟩
        exact ⟨change c, ⟨some c, hc, c, rfl, rfl⟩, hchange c side⟩
      · rintro ⟨_, ⟨_, ho, c, rfl, rfl⟩, rfl⟩
        exact ⟨c, ho, (hchange c side).symm⟩
    · rfl
  · exact h

theorem Coherent.step {b : Builder} (h : b.Coherent) (s : Step) : (b.step s).Coherent := by
  cases s with
  | insertClass declared obfuscated members => exact h.insertClass _
  | addMember declared member => exact h.modifyDeclared _ fun c side => c.name_addMember member side
  | changeStats change =>
    rintro (_ | _)
    · exact h .obfuscated
    · exact h .declared

/-- Whatever the steps, the builder is coherent. -/
theorem Made.coherent {b : Builder} (h : b.Made) : b.Coherent :=
  h.induction coherent_empty fun _ s hb => hb.step s

/-! ## Closing the gaps -/

/-- A class keeps its place among the classes: the slot it had leads to its new position. -/
theorem getElem?_newPlaces {slots : List (Option ClassEntry)} {slot : Nat} {c : ClassEntry} (next : Nat)
    (h : slots[slot]? = some (some c)) :
    ∃ i, (newPlaces next slots)[slot]? = some (some (next + i)) ∧ (slots.filterMap id)[i]? = some c := by
  induction slots generalizing next slot with
  | nil => cases h
  | cons o slots ih =>
    cases slot with
    | zero =>
      simp only [List.getElem?_cons_zero, Option.some.injEq] at h
      subst h
      exact ⟨0, by simp [newPlaces], by simp⟩
    | succ slot =>
      rw [List.getElem?_cons_succ] at h
      cases o with
      | none => simpa [newPlaces] using ih next h
      | some d =>
        obtain ⟨i, hi, hc⟩ := ih (next + 1) h
        refine ⟨i + 1, ?_, by simpa using hc⟩
        rw [newPlaces, List.getElem?_cons_succ, hi]
        congr 2
        omega

theorem exists_slot_of_class {slots : List (Option ClassEntry)} {i : Nat} {c : ClassEntry} (next : Nat)
    (h : (slots.filterMap id)[i]? = some c) :
    ∃ slot : Nat, slots[slot]? = some (some c) ∧ (newPlaces next slots)[slot]? = some (some (next + i)) := by
  induction slots generalizing next i with
  | nil => simp at h
  | cons o slots ih =>
    cases o with
    | none =>
      obtain ⟨slot, hc, hi⟩ := ih next (by simpa using h)
      exact ⟨slot + 1, hc, hi⟩
    | some d =>
      cases i with
      | zero => exact ⟨0, by simpa using h, rfl⟩
      | succ i =>
        obtain ⟨slot, hc, hi⟩ := ih (next + 1) (by simpa using h)
        refine ⟨slot + 1, hc, ?_⟩
        rw [newPlaces, List.getElem?_cons_succ, hi]
        congr 2
        omega

theorem index_build (b : Builder) (side : Side) :
    b.build.index side = relocate (b.index side) (newPlaces 0 b.slots.toList).toArray := by
  cases side <;> rfl

/-- After the gaps are closed, the index leads from a name exactly to the position of the class that
has it. -/
theorem Coherent.build_index_iff {b : Builder} (h : b.Coherent) (side : Side) (name : String) (i : Nat) :
    (b.build.index side)[name]? = some i ↔ ∃ c : ClassEntry, b.build.classes[i]? = some c ∧ c.name side = name := by
  have hclasses : b.build.classes[i]? = (b.slots.toList.filterMap id)[i]? := by simp [build, classes]
  rw [hclasses, index_build, relocate, Std.HashMap.getElem?_filterMap']
  simp only [Option.bind_eq_some_iff, List.getElem?_toArray, Option.join_eq_some_iff]
  constructor
  · rintro ⟨slot, hslot, hplace⟩
    obtain ⟨c, hc, rfl⟩ := (h side name slot).1 hslot
    rw [← Array.getElem?_toList] at hc
    obtain ⟨j, hj, hcj⟩ := getElem?_newPlaces 0 hc
    rw [hplace, Nat.zero_add] at hj
    cases hj
    exact ⟨c, hcj, rfl⟩
  · rintro ⟨c, hc, rfl⟩
    obtain ⟨slot, hslot, hplace⟩ := exists_slot_of_class 0 hc
    rw [Array.getElem?_toList] at hslot
    exact ⟨slot, h.index_name hslot side, by simpa using hplace⟩

end Builder

/-! ## Built tables -/

/-- The index leads from a name exactly to the position of the class that has it. -/
theorem Built.index_iff {t : Table} (h : t.Built) (side : Side) (name : String) (i : Nat) :
    (t.index side)[name]? = some i ↔ ∃ c : ClassEntry, t.classes[i]? = some c ∧ c.name side = name := by
  obtain ⟨steps, rfl⟩ := h
  exact (Builder.Made.coherent ⟨steps, rfl⟩).build_index_iff side name i

/-- A lookup gives exactly the class that has the name. -/
theorem Built.lookup?_eq_some_iff {t : Table} (h : t.Built) (side : Side) (name : String) (c : ClassEntry) :
    t.lookup? side name = some c ↔ c ∈ t.classes ∧ c.name side = name := by
  rw [lookup?, Option.bind_eq_some_iff]
  constructor
  · rintro ⟨i, hi, hc⟩
    obtain ⟨d, hd, rfl⟩ := (h.index_iff side name i).1 hi
    rw [hc] at hd
    cases hd
    exact ⟨Array.mem_of_getElem? hc, rfl⟩
  · rintro ⟨hc, rfl⟩
    obtain ⟨i, hi⟩ := Array.mem_iff_getElem?.1 hc
    exact ⟨i, (h.index_iff side _ i).2 ⟨c, hi, rfl⟩, hi⟩

/-- There is a class for every name the index knows. -/
theorem Built.contains_index {t : Table} (h : t.Built) (side : Side) (name : String) :
    (t.index side).contains name = (t.lookup? side name).isSome := by
  rw [Std.HashMap.contains_eq_isSome_getElem?, lookup?]
  cases hi : (t.index side)[name]? with
  | none => rfl
  | some i =>
    obtain ⟨c, hc, -⟩ := (h.index_iff side name i).1 hi
    simp [hc]

theorem Built.nodup_names {t : Table} (h : t.Built) (side : Side) : (t.classes.toList.map (·.name side)).Nodup := by
  rw [List.Nodup, List.pairwise_map, List.pairwise_iff_getElem]
  intro i j hi hj hij heq
  have hposi := (h.index_iff side _ i).2 ⟨_, Array.getElem?_eq_getElem hi, heq⟩
  have hposj := (h.index_iff side _ j).2 ⟨t.classes[j], Array.getElem?_eq_getElem hj, rfl⟩
  rw [Array.getElem_toList] at hposi
  rw [hposi] at hposj
  cases hposj
  exact Nat.lt_irrefl _ hij

/-- What a table promises about its names, lookups and counts. -/
structure Coherent (t : Table) : Prop where
  declared_nodup : (t.classes.toList.map (·.declared)).Nodup
  obfuscated_nodup : (t.classes.toList.map (·.obfuscated)).Nodup
  /-- Both names of a class lead to its own position, so both lookups give that very class. -/
  found : ∀ i c, t.classes[i]? = some c →
    t.byObfuscated[c.obfuscated]? = some i ∧ t.withObfuscated? c.obfuscated = some c ∧
      t.byDeclared[c.declared]? = some i ∧ t.withDeclared? c.declared = some c
  of_withObfuscated : ∀ name c, t.withObfuscated? name = some c → c ∈ t.classes ∧ c.obfuscated = name
  of_withDeclared : ∀ name c, t.withDeclared? name = some c → c ∈ t.classes ∧ c.declared = name
  hasObfuscated_eq : ∀ name, t.hasObfuscated name = (t.withObfuscated? name).isSome
  hasDeclared_eq : ∀ name, t.hasDeclared name = (t.withDeclared? name).isSome
  classes_count : t.stats.classes = t.size
  fields_count : t.stats.fields = total (·.fieldCount) t.classes.toList
  methods_count : t.stats.methods = total (·.methods.size) t.classes.toList

theorem Built.coherent {t : Table} (h : t.Built) : t.Coherent where
  declared_nodup := h.nodup_names .declared
  obfuscated_nodup := h.nodup_names .obfuscated
  found i c hc := by
    have hmem := Array.mem_of_getElem? hc
    exact ⟨(h.index_iff .obfuscated _ i).2 ⟨c, hc, rfl⟩, (h.lookup?_eq_some_iff .obfuscated _ c).2 ⟨hmem, rfl⟩,
      (h.index_iff .declared _ i).2 ⟨c, hc, rfl⟩, (h.lookup?_eq_some_iff .declared _ c).2 ⟨hmem, rfl⟩⟩
  of_withObfuscated name c hc := (h.lookup?_eq_some_iff .obfuscated name c).1 hc
  of_withDeclared name c hc := (h.lookup?_eq_some_iff .declared name c).1 hc
  hasObfuscated_eq := h.contains_index .obfuscated
  hasDeclared_eq := h.contains_index .declared
  classes_count := by obtain ⟨steps, rfl⟩ := h; rfl
  fields_count := by obtain ⟨steps, rfl⟩ := h; rfl
  methods_count := by obtain ⟨steps, rfl⟩ := h; rfl

/-- Every table is coherent, whatever steps made it and whichever file it was read from. -/
theorem coherent_of_steps_or_file :
    (∀ steps, (Builder.ofSteps steps).build.Coherent) ∧
    (∀ classes members options t, Flat.read classes members options = .ok t → t.Coherent) ∧
    (∀ lines options t, Retrace.read lines options = .ok t → t.Coherent) := by
  refine ⟨fun steps => ?_, fun classes members options t h => ?_, fun lines options t h => ?_⟩
  · exact Built.coherent ⟨steps, rfl⟩
  · exact (Flat.built_of_flat_read h).coherent
  · exact (Retrace.built_of_retrace_read h).coherent

/-- A class list whose last line shares a name with each of the lines before it. -/
theorem coherent_of_overlapping_lines :
    ∃ t, Flat.read (.ofString (unlines ["a net.A", "b net.B", "a net.B"])) none {} = .ok t ∧ t.Coherent := by
  have hlines : ∀ line ∈ ["a net.A", "b net.B", "a net.B"], IsLine line := by
    simp [IsLine]
  have hread : Flat.read (.ofString (unlines ["a net.A", "b net.B", "a net.B"])) none {} =
      .ok (["a net.A", "b net.B", "a net.B"].foldl Flat.addClassLine .empty).build := by
    simp only [Flat.read, Flat.readClasses_eq, LineCursor.lines_ofString_unlines hlines, LineCursor.check,
      LineCursor.takeFault, LineCursor.fault_ofString]
    rfl
  exact ⟨_, hread, coherent_of_steps_or_file.2.1 _ _ _ _ hread⟩

end Table

end NameBridge
