import NameBridge.Proofs.Resolve.Methods
import NameBridge.Proofs.Text.Spans
import NameBridge.Proofs.TypeName.Suffixes

/-!
Every overload is reached through its community spelling.

A canonical parameter type is spelled with the name that its class has on the community side, or as it stands
if no class corresponds to it, and with the same array suffixes (`Spells`). Translating the spelling gives the
type back (`translateType_of_spells`). So the canonical class of the owner is asked for exactly the parameter
types of the method, and answers with its first overload that has them, whatever the hierarchy.
-/

namespace NameBridge

open Text NameBridge.TypeName

/-- The community and the canonical side of a class that both tables have. -/
def Table.Paired (community canonical : Table) (c k : ClassEntry) : Prop :=
  c ∈ community.classes ∧ k ∈ canonical.classes ∧ c.obfuscated = k.obfuscated

/-- The text stands for a type without array dimensions: there is no blank, slash or bracket in it, and no array
suffix at its end. -/
structure IsElementText (text : String) : Prop where
  not_blank : ∀ c ∈ text.toList, isBlank c = false
  no_bracket : '<' ∉ text.toList
  no_slash : '/' ∉ text.toList
  unsuffixed : Unsuffixed text.toList

theorem isElementText_iff {text : String} :
    IsElementText text ↔
      (text.toList.all fun c => !isBlank c) = true ∧ '<' ∉ text.toList ∧ '/' ∉ text.toList ∧ Unsuffixed text.toList := by
  simp only [List.all_eq_true, Bool.not_eq_true']
  constructor
  · intro h
    exact ⟨h.not_blank, h.no_bracket, h.no_slash, h.unsuffixed⟩
  · rintro ⟨hblank, hbracket, hslash, hsuffix⟩
    exact ⟨hblank, hbracket, hslash, hsuffix⟩

instance (text : String) : Decidable (IsElementText text) := decidable_of_iff _ isElementText_iff.symm

/-- The community spelling of a type without dimensions: the community name of its class, or the type as it stands
if no class that both tables have is called so on the community side. -/
def SpellsElement (community canonical : Table) (text name : String) : Prop :=
  (∃ c k, community.Paired canonical c k ∧ c.declared = text ∧ k.declared = name) ∨
    (∀ c k, community.Paired canonical c k → c.declared ≠ text) ∧
      (text = name ∧ name ≠ "int" ∨ text = "int" ∧ name = "integer")

/-- The community spelling of a canonical type: that of its element type, with as many array suffixes. -/
def Spells (community canonical : Table) (argument type : String) : Prop :=
  ∃ text name d, argument = withDimensions text d ∧ type = withDimensions name d ∧ IsElementText text ∧
    SpellsElement community canonical text name

/-- A name without blanks around it and without type arguments is its own key. -/
theorem classKey_eq_self {name : String} (htrim : trimmed name = name) (hbracket : '<' ∉ name.toList) :
    classKey name = name := by
  unfold classKey
  rw [htrim, eraseTypeArguments_eq_self hbracket]

theorem trimmed_eq_self {name : String} (h : ∀ c ∈ name.toList, isBlank c = false) : trimmed name = name := by
  unfold trimmed
  rw [trim_eq_self h, String.ofList_toList]

theorem IsElementText.classKey_eq {text : String} (h : IsElementText text) : classKey text = text :=
  classKey_eq_self (trimmed_eq_self h.not_blank) h.no_bracket

theorem IsElementText.erase_withDimensions {text : String} (h : IsElementText text) (d : Nat) :
    eraseTypeArguments (trimmed (withDimensions text d)) = withDimensions text d := by
  rw [trimmed_eq_self, eraseTypeArguments_eq_self]
  · intro hmem
    rcases mem_withDimensions hmem with hmem | hmem | hmem
    · exact h.no_bracket hmem
    · exact absurd hmem (by decide)
    · exact absurd hmem (by decide)
  · intro c hc
    rcases mem_withDimensions hc with hc | rfl | rfl
    · exact h.not_blank c hc
    · decide
    · decide

namespace Resolver

/-- The resolver that has both tables. -/
abbrev between (community canonical : Table) : Resolver := ⟨some community, some canonical⟩

variable {community canonical : Table}

/-- The canonical class of a name is the partner of the community class that has the name. -/
theorem canonicalClass?_eq_some_iff (hcommunity : community.Built) (hcanonical : canonical.Built) {name : String}
    {k : ClassEntry} :
    (between community canonical).canonicalClass? name = some k ↔
      ∃ c, community.Paired canonical c k ∧ c.declared = classKey name := by
  simp only [canonicalClass?, Option.bind_eq_bind, Option.bind_some, Option.bind_eq_some_iff]
  simp only [Table.withDeclared?_eq, Table.withObfuscated?_eq, hcommunity.lookup?_eq_some_iff,
    hcanonical.lookup?_eq_some_iff, ClassEntry.name, Table.Paired]
  constructor
  · rintro ⟨c, ⟨hc, hname⟩, hk, hobf⟩
    exact ⟨c, ⟨hc, hk, hobf.symm⟩, hname⟩
  · rintro ⟨c, ⟨hc, hk, hobf⟩, hname⟩
    exact ⟨c, ⟨hc, hname⟩, hk, hobf.symm⟩

/-- Translating the community spelling of a type gives the type. -/
theorem translateType_of_spells (hcommunity : community.Built) (hcanonical : canonical.Built)
    {argument type : String} (h : Spells community canonical argument type) :
    (between community canonical).translateType argument = type := by
  obtain ⟨text, name, d, rfl, rfl, htext, hspells⟩ := h
  have hpaired (k : ClassEntry) : (between community canonical).canonicalClass? text = some k ↔
      ∃ c, community.Paired canonical c k ∧ c.declared = text := by
    rw [canonicalClass?_eq_some_iff hcommunity hcanonical, htext.classKey_eq]
  unfold translateType
  simp only [htext.erase_withDimensions, splitArraySuffix_withDimensions htext.unsuffixed, className?]
  rcases hspells with ⟨c, k, hck, hc, rfl⟩ | ⟨hnone, hsame⟩
  · rw [(hpaired k).2 ⟨c, hck, hc⟩]
    rfl
  · have hfound : (between community canonical).canonicalClass? text = none := by
      rw [Option.eq_none_iff_forall_ne_some]
      intro k hk
      obtain ⟨c, hck, hc⟩ := (hpaired k).1 hk
      exact hnone c k hck hc
    rw [hfound]
    simp only [Option.map_none, normalize_withDimensions htext.unsuffixed]
    rcases hsame with ⟨rfl, hint⟩ | ⟨rfl, rfl⟩
    · rw [normalizeBase_of_no_slash htext.no_slash hint]
    · rfl

theorem map_translateType_of_spells (hcommunity : community.Built) (hcanonical : canonical.Built)
    {arguments types : List String} (h : List.Forall₂ (Spells community canonical) arguments types) :
    arguments.map (between community canonical).translateType = types := by
  induction h with
  | nil => rfl
  | cons hspells _ ih => rw [List.map_cons, translateType_of_spells hcommunity hcanonical hspells, ih]

/-- The community spellings of the parameter types of any method of a canonical class, given to the community class
that shares its obfuscated name, lead to the first method of the class with this obfuscated name and exactly these
parameter types. -/
theorem method?_of_spellings (hcommunity : community.Built) (hcanonical : canonical.Built) {c k : ClassEntry}
    (hck : community.Paired canonical c k) (hbracket : '<' ∉ c.declared.toList)
    (htrim : trimmed c.declared = c.declared)
    {m : MethodEntry} (hm : m ∈ k.methods) {arguments : List String}
    (harguments : List.Forall₂ (Spells community canonical) arguments m.parameters) (hierarchy : Hierarchy) :
    ∃ found,
      (between community canonical).method? c.declared m.obfuscated arguments hierarchy = some found ∧
        k.methods.toList.find? (fun m' => m'.obfuscated = m.obfuscated ∧ m'.parameters = m.parameters) = some found := by
  have hcomplete : (between community canonical).isComplete = true := rfl
  have hkey : classKey c.declared = c.declared := classKey_eq_self htrim hbracket
  have hclass : (between community canonical).canonicalClass? c.declared = some k :=
    (canonicalClass?_eq_some_iff hcommunity hcanonical).2 ⟨c, hck, hkey.symm⟩
  have hmade : k.Made := hcanonical.made hck.2.1
  obtain ⟨found, hfound⟩ : ∃ found, k.methods.toList.find?
      (fun m' => m'.obfuscated = m.obfuscated ∧ m'.parameters = m.parameters) = some found := by
    rw [← Option.isSome_iff_exists, List.find?_isSome]
    exact ⟨m, Array.mem_toList_iff.2 hm, by simp⟩
  refine ⟨found, ?_, hfound⟩
  have hown : (between community canonical).ownOverload? m.obfuscated m.parameters c.declared =
      some found := by
    unfold ownOverload?
    rw [hclass]
    exact (hmade.overload?_eq _ _).trans hfound
  unfold method?
  rw [if_pos hcomplete, map_translateType_of_spells hcommunity hcanonical harguments, hkey, search,
    dif_neg List.not_mem_nil, hown]

/-- A community table with a class that has a canonical counterpart. -/
def communityItem : Table := (Table.Builder.ofSteps [.insertClass "net.Item" "a" []]).build

/-- Two methods of the same name that take an array of the class itself and a number, and one that takes less. -/
def itemMethods : List NewMember :=
  [.method ⟨"void", "drop", "f", ["org.Thing[]"]⟩, .method ⟨"void", "stack", "f", ["org.Thing[]", "integer"]⟩,
    .method ⟨"boolean", "merge", "f", ["org.Thing[]", "integer"]⟩]

def canonicalItem : Table := (Table.Builder.ofSteps [.insertClass "org.Thing" "a" itemMethods]).build

theorem paired_item_iff {c k : ClassEntry} :
    communityItem.Paired canonicalItem c k ↔
      c = .ofNames "net.Item" "a" ∧ k = .ofMembers "org.Thing" "a" itemMethods := by
  unfold Table.Paired communityItem canonicalItem
  rw [classes_oneClass, classes_oneClass, Array.mem_singleton, Array.mem_singleton]
  constructor
  · rintro ⟨rfl, rfl, _⟩
    exact ⟨rfl, rfl⟩
  · rintro ⟨rfl, rfl⟩
    exact ⟨rfl, rfl, by simp⟩

/-- The first of two methods with the same parameter types is found, under the community name of the class. It does
not matter that the class is above itself. -/
theorem method?_of_array_and_number :
    (between communityItem canonicalItem).method? "net.Item" "f" ["net.Item[]", "int"]
      (.ofList [("net.Item", ["net.Item"])]) = some ⟨"void", "stack", "f", ["org.Thing[]", "integer"]⟩ := by
  have hbuilt : communityItem.Built ∧ canonicalItem.Built := ⟨⟨_, rfl⟩, ⟨_, rfl⟩⟩
  have hpaired : communityItem.Paired canonicalItem (.ofNames "net.Item" "a") (.ofMembers "org.Thing" "a" itemMethods) :=
    paired_item_iff.2 ⟨rfl, rfl⟩
  have hclass : Spells communityItem canonicalItem "net.Item[]" "org.Thing[]" := by
    refine ⟨"net.Item", "org.Thing", 1, by decide, by decide, by decide, .inl ?_⟩
    exact ⟨_, _, hpaired, rfl, by simp⟩
  have hint : Spells communityItem canonicalItem "int" "integer" := by
    refine ⟨"int", "integer", 0, rfl, rfl, by decide, .inr ⟨?_, .inr ⟨rfl, rfl⟩⟩⟩
    intro c k hck
    rw [(paired_item_iff.1 hck).1]
    decide
  obtain ⟨found, hmethod, hfirst⟩ := method?_of_spellings hbuilt.1 hbuilt.2 hpaired (by decide) (by decide)
    (m := ⟨"void", "stack", "f", ["org.Thing[]", "integer"]⟩)
    (by simp [itemMethods, ClassEntry.ofMembers, ClassEntry.addMember, ClassEntry.ofNames])
    (.cons hclass (.cons hint .nil)) (.ofList [("net.Item", ["net.Item"])])
  rw [ClassEntry.declared_ofNames] at hmethod
  rw [hmethod, ← hfirst]
  simp [itemMethods, ClassEntry.ofMembers, ClassEntry.addMember, ClassEntry.ofNames]

end Resolver

end NameBridge
