import NameBridge.Proofs.Resolve.Bijection
import NameBridge.Proofs.Resolve.Descriptions
import NameBridge.Proofs.Table.Fields

/-!
What the description of a field lists.

The owner is looked up by its obfuscated name in both tables, and by its declared name in the community table, which
leads on to the canonical class (`mem_describeField_iff`). In whichever way a name was found, it belongs to one field
of one of the tables that the owner and the field may stand for (`NamesField`), and the name that the resolver gives is
among them.
-/

namespace NameBridge

theorem nodup_firstOccurrences (names : List String) : (firstOccurrences names).Nodup := by
  induction names using List.reverseRecOn with
  | nil => exact List.nodup_nil
  | append_singleton names name ih =>
    rw [firstOccurrences_concat]
    split
    · exact ih
    · rename_i hnew
      rw [← List.concat_eq_append]
      exact ih.concat hnew

/-- The fields of a class are paired one to one, whatever members it was given. -/
theorem ClassEntry.Made.inverse_fields {c : ClassEntry} (h : c.Made) : c.fields.Inverse := by
  refine h.induction (P := fun c => c.fields.Inverse) (fun _ _ => Pairing.inverse_empty) fun c m hc => ?_
  cases m with
  | field obfuscated declared => exact hc.insert obfuscated declared
  | method => exact hc

/-! ## Names in a table that may be missing -/

/-- The declared name of the class with an obfuscated name. -/
def declaredClass? (t : Option Table) (o : String) : Option String := do
  return (← (← t).withObfuscated? o).declared

/-- The declared name of the field `f` of the class `o`, both given by their obfuscated names. -/
def declaredField? (t : Option Table) (o f : String) : Option String := do
  (← (← t).withObfuscated? o).deobfuscateField? f

/-- One of the tables has a class with the obfuscated name `o`, and this a field with the obfuscated name `f`. -/
def HasField (community canonical : Option Table) (o f : String) : Prop :=
  ∃ t, (community = some t ∨ canonical = some t) ∧
    ∃ c, t.withObfuscated? o = some c ∧ ∃ declared, c.deobfuscateField? f = some declared

/-- One of the tables has a field that the owner and the field may stand for, by its obfuscated names or by its
community names, and `shown` is one of its names: its obfuscated name, its canonical or its community name. -/
def NamesField (community canonical : Option Table) (owner field shown : String) : Prop :=
  ∃ o f, HasField community canonical o f ∧
    (owner = o ∨ declaredClass? community o = some owner) ∧
    (field = f ∨ declaredField? community o f = some field) ∧
    (shown = f ∨ declaredField? canonical o f = some shown ∨ declaredField? community o f = some shown)

theorem hasField_of_declaredField? {community canonical t : Option Table} {o f declared : String}
    (ht : t = community ∨ t = canonical) (h : declaredField? t o f = some declared) :
    HasField community canonical o f := by
  simp only [declaredField?, Option.bind_eq_bind, Option.bind_eq_some_iff] at h
  obtain ⟨table, rfl, c, hc, hf⟩ := h
  exact ⟨table, ht.imp Eq.symm Eq.symm, c, hc, declared, hf⟩

/-! ## Where the names come from -/

/-- The community class with a declared name. -/
def communityClass? (community : Option Table) (owner : String) : Option ClassEntry := do
  (← community).withDeclared? owner

/-- The names by which a field is shown to a reader who asks for `field` of `owner`. -/
inductive FieldShownFor (community canonical : Option Table) (owner field : String) : String → Prop
  | canonical {n : String} (found : declaredField? canonical owner field = some n) :
    FieldShownFor community canonical owner field n
  | community {n : String} (found : declaredField? community owner field = some n) :
    FieldShownFor community canonical owner field n
  | obfuscated {c : ClassEntry} {f : String} (asked : communityClass? community owner = some c)
      (declares : c.obfuscateField? field = some f) : FieldShownFor community canonical owner field f
  | partner {c : ClassEntry} {f n : String} (asked : communityClass? community owner = some c)
      (declares : c.obfuscateField? field = some f) (found : declaredField? canonical c.obfuscated f = some n) :
    FieldShownFor community canonical owner field n
  | sameField {c : ClassEntry} {n : String} (asked : communityClass? community owner = some c)
      (found : declaredField? canonical c.obfuscated field = some n) : FieldShownFor community canonical owner field n

variable {community canonical : Option Table} {owner field x : String}

/-- A description lists exactly the names by which a field is shown. -/
theorem mem_describeField_iff :
    x ∈ describeField community canonical owner field ↔ FieldShownFor community canonical owner field x := by
  have hpartner (o f : String) :
      (canonical.bind (·.withObfuscated? o)).bind (·.deobfuscateField? f) = declaredField? canonical o f :=
    Option.bind_assoc ..
  have hclass : community.bind (·.withDeclared? owner) = communityClass? community owner := rfl
  unfold describeField
  simp only [hpartner, hclass, mem_firstOccurrences, List.mem_append, Option.mem_toList]
  constructor
  · rintro ((hcanonical | hcommunity) | hdeclared)
    · exact .canonical hcanonical
    · exact .community hcommunity
    · split at hdeclared
      · rename_i c hc
        rw [List.mem_append, Option.mem_toList] at hdeclared
        rcases hdeclared with hdeclared | hsame
        · split at hdeclared
          · rename_i f hf
            rw [List.mem_cons, Option.mem_toList] at hdeclared
            rcases hdeclared with rfl | hfound
            · exact .obfuscated hc hf
            · exact .partner hc hf hfound
          · exact absurd hdeclared List.not_mem_nil
        · exact .sameField hc hsame
      · exact absurd hdeclared List.not_mem_nil
  · intro h
    cases h with
    | canonical hfound => exact .inl (.inl hfound)
    | community hfound => exact .inl (.inr hfound)
    | obfuscated hc hf => simp [hc, hf]
    | partner hc hf hfound => simp [hc, hf, hfound]
    | sameField hc hfound => simp [hc, hfound]

/-! ## Soundness -/

/-- A community class found by its declared name is also found by its obfuscated name, and so is each of its fields. -/
theorem communityClass?_found (hcommunity : ∀ t ∈ community, t.Built) {c : ClassEntry}
    (hc : communityClass? community owner = some c) :
    declaredClass? community c.obfuscated = some owner ∧
      ∀ f d, c.obfuscateField? d = some f → declaredField? community c.obfuscated f = some d := by
  cases community with
  | none => cases hc
  | some t =>
    have hbuilt : t.Built := hcommunity t rfl
    obtain ⟨hmem, hname⟩ := (hbuilt.lookup?_eq_some_iff .declared owner c).1 hc
    have hfound : t.withObfuscated? c.obfuscated = some c :=
      (hbuilt.lookup?_eq_some_iff .obfuscated c.obfuscated c).2 ⟨hmem, rfl⟩
    constructor
    · simp only [declaredClass?, Option.bind_eq_bind, Option.bind_some, hfound]
      exact congrArg some hname
    · intro f d hd
      simp only [declaredField?, Option.bind_eq_bind, Option.bind_some, hfound]
      exact ((hbuilt.made hmem).inverse_fields f d).2 hd

/-- Every name that is shown belongs to a field that the owner and the field may stand for. -/
theorem FieldShownFor.namesField (hcommunity : ∀ t ∈ community, t.Built)
    (h : FieldShownFor community canonical owner field x) : NamesField community canonical owner field x := by
  cases h with
  | canonical hfound =>
    exact ⟨owner, field, hasField_of_declaredField? (.inr rfl) hfound, .inl rfl, .inl rfl, .inr (.inl hfound)⟩
  | community hfound =>
    exact ⟨owner, field, hasField_of_declaredField? (.inl rfl) hfound, .inl rfl, .inl rfl, .inr (.inr hfound)⟩
  | obfuscated hc hf =>
    obtain ⟨howner, hfields⟩ := communityClass?_found hcommunity hc
    have hfield := hfields x field hf
    exact ⟨_, x, hasField_of_declaredField? (.inl rfl) hfield, .inr howner, .inr hfield, .inl rfl⟩
  | partner hc hf hfound =>
    obtain ⟨howner, hfields⟩ := communityClass?_found hcommunity hc
    have hfield := hfields _ field hf
    exact ⟨_, _, hasField_of_declaredField? (.inl rfl) hfield, .inr howner, .inr hfield, .inr (.inl hfound)⟩
  | sameField hc hfound =>
    obtain ⟨howner, -⟩ := communityClass?_found hcommunity hc
    exact ⟨_, field, hasField_of_declaredField? (.inr rfl) hfound, .inr howner, .inl rfl, .inr (.inl hfound)⟩

/-- The canonical name of a field is shown to a reader who asks for the field of a community class. -/
theorem shown_of_fieldName? (howner : IsKey owner)
    (h : (Resolver.mk community canonical).fieldName? owner field = some x) :
    FieldShownFor community canonical owner field x := by
  simp only [Resolver.fieldName?, Resolver.canonicalClass?, howner.classKey_eq, Option.bind_eq_bind,
    Option.bind_eq_some_iff] at h
  obtain ⟨k, ⟨t, rfl, u, rfl, c, hc, hk⟩, hx⟩ := h
  refine .sameField hc ?_
  simp only [declaredField?, Option.bind_eq_bind, Option.bind_some, hk]
  exact hx

/-- A description of a field lists each name once, and each belongs to a field of one of the tables that the owner and
the field may stand for. What the resolver gives for them is listed. -/
theorem describeField_sound (hcommunity : ∀ t ∈ community, t.Built) (owner field : String) :
    (describeField community canonical owner field).Nodup ∧
    (∀ n ∈ describeField community canonical owner field, NamesField community canonical owner field n) ∧
    (IsKey owner → ∀ k, (Resolver.mk community canonical).fieldName? owner field = some k →
      k ∈ describeField community canonical owner field) := by
  refine ⟨nodup_firstOccurrences _, fun n hn => ?_, fun howner k hk => ?_⟩
  · exact (mem_describeField_iff.1 hn).namesField hcommunity
  · exact mem_describeField_iff.2 (shown_of_fieldName? howner hk)

/-- A community class with a field. -/
def blockField : Table := (Table.Builder.ofSteps [.insertClass "net.Block" "a" [.field "f" "strength"]]).build

/-- The canonical class for it. -/
def stoneField : Table := (Table.Builder.ofSteps [.insertClass "org.Stone" "a" [.field "f" "hardness"]]).build

theorem fieldName?_blockField :
    (Resolver.between blockField stoneField).fieldName? "net.Block" "f" = some "hardness" := by
  have hpaired : blockField.Paired stoneField (.ofMembers "net.Block" "a" [.field "f" "strength"])
      (.ofMembers "org.Stone" "a" [.field "f" "hardness"]) := by
    rw [Table.Paired, blockField, stoneField, Resolver.classes_oneClass, Resolver.classes_oneClass]
    exact ⟨Array.mem_singleton.2 rfl, Array.mem_singleton.2 rfl, rfl⟩
  have hclass : (Resolver.between blockField stoneField).canonicalClass? "net.Block" =
      some (.ofMembers "org.Stone" "a" [.field "f" "hardness"]) :=
    (Resolver.canonicalClass?_eq_some_iff ⟨_, rfl⟩ ⟨_, rfl⟩).2 ⟨_, hpaired, by decide⟩
  rw [Resolver.fieldName?, hclass]
  simp [ClassEntry.ofMembers, ClassEntry.addMember, ClassEntry.insertField, ClassEntry.deobfuscateField?,
    Pairing.declared?_insert]

/-- The canonical name of a field of a community class is in its description, which has no name twice. -/
theorem describeField_of_block :
    (describeField blockField stoneField "net.Block" "f").Nodup ∧
      "hardness" ∈ describeField blockField stoneField "net.Block" "f" ∧
      NamesField blockField stoneField "net.Block" "f" "hardness" := by
  have hbuilt : ∀ t ∈ some blockField, t.Built := by
    rintro _ ⟨⟩
    exact ⟨_, rfl⟩
  obtain ⟨hnodup, hnames, hresolved⟩ := @describeField_sound blockField stoneField hbuilt "net.Block" "f"
  have hlisted := hresolved (by decide) _ fieldName?_blockField
  exact ⟨hnodup, hlisted, hnames _ hlisted⟩

end NameBridge
