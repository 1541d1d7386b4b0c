import NameBridge.Proofs.Resolve.Spellings
import NameBridge.Resolve.Describe

/-!
What descriptions list.

A class is looked up by both of its names in the community table and by its obfuscated name in the canonical one
(`mem_describeClass_iff`). So the description is empty exactly if none of these lookups finds anything
(`describeClass_eq_nil_iff`), and then the name may still be a declared one on the canonical side.
-/

namespace NameBridge

/-! ## First occurrences -/

theorem firstOccurrences_concat (names : List String) (name : String) :
    firstOccurrences (names ++ [name]) =
      if name ∈ firstOccurrences names then firstOccurrences names else firstOccurrences names ++ [name] := by
  rw [firstOccurrences, List.foldl_append]
  rfl

theorem mem_firstOccurrences {names : List String} {x : String} : x ∈ firstOccurrences names ↔ x ∈ names := by
  induction names using List.reverseRecOn with
  | nil => rfl
  | append_singleton names name ih =>
    rw [firstOccurrences_concat, List.mem_append, ← ih]
    split
    · rename_i hmem
      rw [List.mem_singleton]
      exact ⟨.inl, fun h => h.elim id fun heq => heq ▸ hmem⟩
    · rw [List.mem_append]

/-! ## Classes -/

/-- The names by which a class is shown to a reader who asks for `name`. -/
inductive ShownFor (community canonical : Table) (name : String) : String → Prop
  | canonical {k : ClassEntry} (mem : k ∈ canonical.classes) (asked : k.obfuscated = name) :
    ShownFor community canonical name k.declared
  | community {c : ClassEntry} (mem : c ∈ community.classes) (asked : c.obfuscated = name) :
    ShownFor community canonical name c.declared
  | obfuscated {c : ClassEntry} (mem : c ∈ community.classes) (asked : c.declared = name) :
    ShownFor community canonical name ("(" ++ c.obfuscated ++ ")")
  | partner {c k : ClassEntry} (paired : community.Paired canonical c k) (asked : c.declared = name) :
    ShownFor community canonical name k.declared

/-- Some class is found by the name: on the community side by either of its names, and on the canonical side by its
obfuscated name. -/
def FoundByName (community canonical : Table) (name : String) : Prop :=
  (∃ c ∈ community.classes, c.declared = name ∨ c.obfuscated = name) ∨ ∃ k ∈ canonical.classes, k.obfuscated = name

variable {community canonical : Table} {name x : String}

theorem foundByName_iff_shown : FoundByName community canonical name ↔ ∃ x, ShownFor community canonical name x := by
  constructor
  · rintro (⟨c, hc, hname | hname⟩ | ⟨k, hk, hname⟩)
    · exact ⟨_, .obfuscated hc hname⟩
    · exact ⟨_, .community hc hname⟩
    · exact ⟨_, .canonical hk hname⟩
  · rintro ⟨_, h⟩
    cases h with
    | canonical hk hname => exact .inr ⟨_, hk, hname⟩
    | community hc hname => exact .inl ⟨_, hc, .inr hname⟩
    | obfuscated hc hname => exact .inl ⟨_, hc, .inl hname⟩
    | partner hck hname => exact .inl ⟨_, hck.1, .inl hname⟩

theorem Table.Built.mem_byObfuscated_iff {t : Table} (h : t.Built) :
    x ∈ ((t.withObfuscated? name).map (·.declared)).toList ↔ ∃ c ∈ t.classes, c.obfuscated = name ∧ c.declared = x := by
  simp only [Option.mem_toList, Option.map_eq_some_iff, withObfuscated?_eq, h.lookup?_eq_some_iff, ClassEntry.name,
    and_assoc]

/-- A description lists exactly the names by which a class is shown. -/
theorem mem_describeClass_iff (hcommunity : community.Built) (hcanonical : canonical.Built) :
    x ∈ describeClass (some community) (some canonical) name ↔ ShownFor community canonical name x := by
  have hdeclared (c : ClassEntry) :
      community.withDeclared? name = some c ↔ c ∈ community.classes ∧ c.declared = name :=
    hcommunity.lookup?_eq_some_iff .declared name c
  unfold describeClass
  simp only [mem_firstOccurrences, List.mem_append, Option.bind_some, hcommunity.mem_byObfuscated_iff,
    hcanonical.mem_byObfuscated_iff]
  constructor
  · rintro ((⟨k, hk, hname, rfl⟩ | ⟨c, hc, hname, rfl⟩) | hpartner)
    · exact .canonical hk hname
    · exact .community hc hname
    · split at hpartner
      · obtain ⟨hc, hname⟩ := (hdeclared _).1 ‹_›
        rw [List.mem_append, hcanonical.mem_byObfuscated_iff, List.mem_singleton] at hpartner
        rcases hpartner with ⟨k, hk, hobfuscated, rfl⟩ | rfl
        · exact .partner ⟨hc, hk, hobfuscated.symm⟩ hname
        · exact .obfuscated hc hname
      · exact absurd hpartner List.not_mem_nil
  · intro h
    cases h with
    | canonical hk hname => exact .inl (.inl ⟨_, hk, hname, rfl⟩)
    | community hc hname => exact .inl (.inr ⟨_, hc, hname, rfl⟩)
    | obfuscated hc hname =>
      right
      rw [(hdeclared _).2 ⟨hc, hname⟩]
      exact List.mem_append_right _ (List.mem_singleton_self _)
    | partner hck hname =>
      obtain ⟨hc, hk, hobfuscated⟩ := hck
      right
      rw [(hdeclared _).2 ⟨hc, hname⟩]
      exact List.mem_append_left _ (hcanonical.mem_byObfuscated_iff.2 ⟨_, hk, hobfuscated.symm, rfl⟩)

/-- Nothing is listed exactly if no class is found. -/
theorem describeClass_eq_nil_iff (hcommunity : community.Built) (hcanonical : canonical.Built) :
    describeClass (some community) (some canonical) name = [] ↔ ¬FoundByName community canonical name := by
  rw [foundByName_iff_shown, List.eq_nil_iff_forall_not_mem, not_exists]
  simp only [mem_describeClass_iff hcommunity hcanonical]

end NameBridge
