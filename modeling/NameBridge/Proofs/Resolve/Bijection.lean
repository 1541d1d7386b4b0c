import NameBridge.Proofs.Resolve.Spellings
import NameBridge.Proofs.Table.Replacement

/-!
Class names translate one to one.

The classes of two tables are paired by their obfuscated names, and a built table has each name once. So a class has
at most one partner on either side, and exchanging the two tables turns every pair around: translating back is the
inverse of translating (`className?_one_to_one`).
-/

namespace NameBridge

/-- There are no blanks around the name and no type arguments in it. -/
structure IsKey (name : String) : Prop where
  trimmed_eq : Text.trimmed name = name
  no_bracket : '<' ∉ name.toList

theorem isKey_iff {name : String} : IsKey name ↔ Text.trimmed name = name ∧ '<' ∉ name.toList :=
  ⟨fun h => ⟨h.trimmed_eq, h.no_bracket⟩, fun h => ⟨h.1, h.2⟩⟩

instance (name : String) : Decidable (IsKey name) := decidable_of_iff _ isKey_iff.symm

theorem IsKey.classKey_eq {name : String} (h : IsKey name) : classKey name = name :=
  classKey_eq_self h.trimmed_eq h.no_bracket

namespace Table

variable {community canonical : Table}

/-- Two classes of a built table that share a name on one side are the same. -/
theorem Built.eq_of_name_eq {t : Table} (h : t.Built) (side : Side) {c d : ClassEntry} (hc : c ∈ t.classes)
    (hd : d ∈ t.classes) (hname : c.name side = d.name side) : c = d := by
  have hfound := (h.lookup?_eq_some_iff side (d.name side) c).2 ⟨hc, hname⟩
  have hfound' := (h.lookup?_eq_some_iff side (d.name side) d).2 ⟨hd, rfl⟩
  rw [hfound] at hfound'
  exact Option.some.inj hfound'

theorem Paired.swap {c k : ClassEntry} (h : community.Paired canonical c k) : canonical.Paired community k c :=
  ⟨h.2.1, h.1, h.2.2.symm⟩

/-- A class has one partner at most. -/
theorem Paired.right_unique (hcanonical : canonical.Built) {c k k' : ClassEntry}
    (h : community.Paired canonical c k) (h' : community.Paired canonical c k') : k = k' := by
  obtain ⟨-, hk, hobfuscated⟩ := h
  obtain ⟨-, hk', hobfuscated'⟩ := h'
  exact hcanonical.eq_of_name_eq .obfuscated hk hk' (hobfuscated.symm.trans hobfuscated')

end Table

namespace Resolver

variable {community canonical : Table}

/-- A name translates to the declared name of the partner of its class. -/
theorem className?_eq_some_iff (hcommunity : community.Built) (hcanonical : canonical.Built) {x y : String} :
    (between community canonical).className? x = some y ↔
      ∃ c k, community.Paired canonical c k ∧ c.declared = classKey x ∧ k.declared = y := by
  simp only [className?, Option.map_eq_some_iff, canonicalClass?_eq_some_iff hcommunity hcanonical]
  constructor
  · rintro ⟨k, ⟨c, hck, hc⟩, hk⟩
    exact ⟨c, k, hck, hc, hk⟩
  · rintro ⟨c, k, hck, hc, hk⟩
    exact ⟨k, ⟨c, hck, hc⟩, hk⟩

/-- Two names translate to each other exactly if they are those of two classes that share an obfuscated name, so with
the tables exchanged every translation is undone. No two classes translate to the same name. -/
theorem className?_one_to_one (hcommunity : community.Built) (hcanonical : canonical.Built) :
    (∀ x y, IsKey x → IsKey y →
      ((between community canonical).className? x = some y ↔ (between canonical community).className? y = some x) ∧
      ((between community canonical).className? x = some y ↔
        ∃ c ∈ community.classes, ∃ k ∈ canonical.classes,
          c.obfuscated = k.obfuscated ∧ c.declared = x ∧ k.declared = y)) ∧
    ((∀ c ∈ community.classes, IsKey c.declared) →
      ∀ c ∈ community.classes, ∀ d ∈ community.classes, ∀ y,
        (between community canonical).className? c.declared = some y →
          (between community canonical).className? d.declared = some y → c = d) := by
  constructor
  · intro x y hx hy
    have hforth := className?_eq_some_iff hcommunity hcanonical (x := x) (y := y)
    have hback := className?_eq_some_iff hcanonical hcommunity (x := y) (y := x)
    rw [hx.classKey_eq] at hforth
    rw [hy.classKey_eq] at hback
    rw [hforth, hback]
    constructor
    · constructor
      · rintro ⟨c, k, hck, hc, hk⟩
        exact ⟨k, c, hck.swap, hk, hc⟩
      · rintro ⟨k, c, hkc, hk, hc⟩
        exact ⟨c, k, hkc.swap, hc, hk⟩
    · constructor
      · rintro ⟨c, k, ⟨hc, hk, hobfuscated⟩, hx, hy⟩
        exact ⟨c, hc, k, hk, hobfuscated, hx, hy⟩
      · rintro ⟨c, hc, k, hk, hobfuscated, hx, hy⟩
        exact ⟨c, k, ⟨hc, hk, hobfuscated⟩, hx, hy⟩
  · intro hkeys c hc d hd y hcy hdy
    -- the two partners have the same declared name, so they are one class, and that has one partner
    obtain ⟨c', k, hck, hc', hk⟩ := (className?_eq_some_iff hcommunity hcanonical).1 hcy
    obtain ⟨d', l, hdl, hd', hl⟩ := (className?_eq_some_iff hcommunity hcanonical).1 hdy
    rw [(hkeys c hc).classKey_eq] at hc'
    rw [(hkeys d hd).classKey_eq] at hd'
    have hcc : c' = c := hcommunity.eq_of_name_eq .declared hck.1 hc hc'
    have hdd : d' = d := hcommunity.eq_of_name_eq .declared hdl.1 hd hd'
    have hkl : k = l := hcanonical.eq_of_name_eq .declared hck.2.1 hdl.2.1 (hk.trans hl.symm)
    subst hcc hdd hkl
    exact Table.Paired.right_unique hcommunity hck.swap hdl.swap

/-- A class that takes a name from each of two others. -/
def replacingTable : Table :=
  (Table.Builder.ofSteps [.insertClass "net.Block" "a" [], .insertClass "net.Item" "b" [],
    .insertClass "net.Block" "b" []]).build

/-- Two classes that have nothing in common. -/
def twoClassTable : Table :=
  (Table.Builder.ofSteps [.insertClass "org.Thing" "a" [], .insertClass "org.Stone" "b" []]).build

theorem classes_replacingTable : replacingTable.classes.toList = [.ofNames "net.Block" "b"] := by
  refine (Table.Builder.classes_build _).trans ((Table.Builder.classes_foldl_insertClass
    [.ofNames "net.Block" "a", .ofNames "net.Item" "b", .ofNames "net.Block" "b"]).2.trans ?_)
  simp [unreplaced, ClassEntry.SharesName]

theorem classes_twoClassTable :
    twoClassTable.classes.toList = [.ofNames "org.Thing" "a", .ofNames "org.Stone" "b"] := by
  refine (Table.Builder.classes_build _).trans ((Table.Builder.classes_foldl_insertClass
    [.ofNames "org.Thing" "a", .ofNames "org.Stone" "b"]).2.trans ?_)
  simp [unreplaced, ClassEntry.SharesName]

/-- The class that is left translates there and back by the obfuscated name it took last, and the name that it gave up
leads nowhere. -/
theorem className?_of_replacing_class :
    (between replacingTable twoClassTable).className? "net.Block" = some "org.Stone" ∧
    (between twoClassTable replacingTable).className? "org.Stone" = some "net.Block" ∧
    (between twoClassTable replacingTable).className? "org.Thing" ≠ some "net.Block" := by
  have hbuilt : replacingTable.Built ∧ twoClassTable.Built := ⟨⟨_, rfl⟩, ⟨_, rfl⟩⟩
  have hleft : .ofNames "net.Block" "b" ∈ replacingTable.classes := by
    simp [← Array.mem_toList_iff, classes_replacingTable]
  have hthing : .ofNames "org.Thing" "a" ∈ twoClassTable.classes := by
    simp [← Array.mem_toList_iff, classes_twoClassTable]
  have hstone : .ofNames "org.Stone" "b" ∈ twoClassTable.classes := by
    simp [← Array.mem_toList_iff, classes_twoClassTable]
  have hkeys : ∀ c ∈ twoClassTable.classes, IsKey c.declared := by
    simp only [← Array.mem_toList_iff, classes_twoClassTable, List.forall_mem_cons, List.not_mem_nil, false_imp_iff,
      implies_true, and_true, ClassEntry.declared_ofNames]
    decide
  obtain ⟨hnames, -⟩ := className?_one_to_one hbuilt.1 hbuilt.2
  obtain ⟨-, hunique⟩ := className?_one_to_one hbuilt.2 hbuilt.1
  obtain ⟨hinverse, htranslates⟩ := hnames "net.Block" "org.Stone" (by decide) (by decide)
  have hblock : (between replacingTable twoClassTable).className? "net.Block" = some "org.Stone" :=
    htranslates.2 ⟨_, hleft, _, hstone, rfl, rfl, rfl⟩
  refine ⟨hblock, hinverse.1 hblock, fun hagain => ?_⟩
  have hsame := congrArg ClassEntry.declared (hunique hkeys _ hthing _ hstone "net.Block" hagain (hinverse.1 hblock))
  exact absurd hsame (by decide)

end Resolver

end NameBridge
