import NameBridge.Profile.Json
import NameBridge.Proofs.Json.Reading
import NameBridge.QueryJson

/-!
Profiles, sources, settings, read options and queries survive JSON.

Each reader takes the value from its written form (`reader_takes` in the namespace of each type); of a profile the
preset mark is lost, which is not written, and no text gives a profile that has it (`Profile.reader_unmarked`). So what
was written is read back, and what was read, in whatever spelling, is read again when it is written
(`json_round_trips`).
-/

namespace NameBridge

open Json (Value Reader Fault)

/-! ## Sources -/

theorem Format.reader_takes (f : Format) : reader.Takes f.toJson f := by
  cases f <;> exact Reader.choice_takes (by decide)

theorem MappingSource.reader_takes (s : MappingSource) : reader.Takes s.toJson s := by
  obtain ⟨format, location, members⟩ := s
  have hformat := Format.reader_takes format
  have hlocation := Reader.text_takes location
  cases members with
  | none => exact Reader.record_takes (.cons rfl (hformat.map _) (.cons rfl (hlocation.map _) (.nil _))) rfl
  | some members =>
    have hmembers := Reader.option_takes (Reader.text_takes members) nofun
    exact Reader.record_takes
      (.cons rfl (hformat.map _) (.cons rfl (hlocation.map _) (.cons rfl (hmembers.map _) (.nil _)))) rfl

/-! ## Profiles -/

namespace Profile

/-- The profile as it is kept in a file, which does not say whether it is a preset. -/
def unmarked (p : Profile) : Profile := { p with preset := false }

theorem reader_takes (p : Profile) : reader.Takes p.toJson p.unmarked :=
  Reader.record_takes (.cons rfl ((Reader.text_takes p.id).map _)
    (.cons rfl ((MappingSource.reader_takes p.community).map _)
      (.cons rfl ((MappingSource.reader_takes p.canonical).map _) (.nil _)))) rfl

end Profile

/-! ## Settings and read options -/

theorem Settings.reader_takes (s : Settings) : reader.Takes s.toJson s := by
  obtain ⟨_ | id⟩ := s
  · exact Reader.record_takes (.cons rfl (Reader.option_takes_null.map _) (.nil _)) rfl
  · exact Reader.record_takes (.cons rfl ((Reader.option_takes (Reader.text_takes id) nofun).map _) (.nil _)) rfl

theorem ReadOptions.reader_takes (o : ReadOptions) : reader.Takes o.toJson o := by
  have hpolicy : (Reader.choice MalformedPolicy.words).Takes (.text o.onMalformed.word) o.onMalformed := by
    cases o.onMalformed <;> exact Reader.choice_takes (by decide)
  exact Reader.record_takes (.cons rfl (hpolicy.map _) (.nil _)) rfl

/-! ## Queries -/

theorem SymbolKind.reader_takes (kind : SymbolKind) : reader.Takes (.text kind.word) kind := by
  refine ⟨nofun, fun l level bs rest hbs => ?_⟩
  obtain ⟨hlt, htext⟩ := (Reader.text_takes kind.word).gives l level rest hbs
  have hchosen : Reader.chosen words kind.word = .ok kind := by cases kind <;> rfl
  exact ⟨hlt, by simp [reader, htext, hchosen, bind, Except.bind, pure, Except.pure]⟩

theorem Json.Value.asTexts_ofTexts (texts : List String) : (Value.ofTexts texts).asTexts = .ok texts := by
  show (texts.map Value.text).mapM Value.asText = _
  induction texts with
  | nil => rfl
  | cons text texts ih =>
    rw [List.map_cons, List.mapM_cons, ih]
    rfl

namespace SymbolQuery

theorem reader_takes (q : SymbolQuery) : reader.Takes q.toJson q := by
  have htext := Reader.tree_takes_text maxDepth
  cases q with
  | type name =>
    exact Reader.record_takes (.cons rfl ((SymbolKind.reader_takes .type).map _)
      (.cons rfl ((htext name).map _) (.nil _))) rfl
  | field owner name =>
    exact Reader.record_takes (.cons rfl ((SymbolKind.reader_takes .field).map _)
      (.cons rfl ((htext owner).map _) (.cons rfl ((htext name).map _) (.nil _)))) rfl
  | method owner name arguments =>
    have harguments : (Reader.tree maxDepth).Takes (.ofTexts arguments) (.ofTexts arguments) := by
      refine Reader.tree_takes_list fun v hv => ?_
      obtain ⟨argument, -, rfl⟩ := List.mem_map.1 hv
      exact Reader.tree_takes_text 125 argument
    refine Reader.record_takes (.cons rfl ((SymbolKind.reader_takes .method).map _)
      (.cons rfl ((htext owner).map _) (.cons rfl ((htext name).map _) (.cons rfl (harguments.map _) (.nil _))))) ?_
    show ((Value.ofTexts arguments).asTexts >>= fun as => Except.ok (method owner name as)) = _
    rw [Value.asTexts_ofTexts]
    rfl

end SymbolQuery

/-! ## Marks -/

/-- No text gives a profile that is marked as a preset. -/
theorem Profile.reader_unmarked : reader.Always (·.preset = false) := by
  refine Reader.record_always (fun draft p h => ?_) fun cs found h => ?_
  · obtain ⟨id, -, h⟩ := bind_eq_ok_iff.1 h
    obtain ⟨community, -, h⟩ := bind_eq_ok_iff.1 h
    obtain ⟨canonical, -, h⟩ := bind_eq_ok_iff.1 h
    rw [← Except.ok.inj h]
  · obtain ⟨id, -, h⟩ := bind_eq_ok_iff.1 h
    obtain ⟨community, -, h⟩ := bind_eq_ok_iff.1 h
    obtain ⟨canonical, -, h⟩ := bind_eq_ok_iff.1 h
    obtain ⟨row, hrow, h⟩ := bind_eq_ok_iff.1 h
    have hvalue : row.value = { id := id.value, community := community.value, canonical := canonical.value } :=
      Reader.endOfList_always _ _ _ hrow
    rw [← Except.ok.inj h]
    exact congrArg Profile.preset hvalue

/-! ## Round trips -/

/-- What is written is read back as far as it is kept, in either form, and what is read, in any spelling, is read again
when it is written. -/
def RoundTrips {α : Type} (write : α → Value) (reader : Reader α) (kept : α → α) : Prop :=
  (∀ a, Json.parse reader (write a).compact = .ok (kept a) ∧ Json.parse reader (write a).pretty = .ok (kept a)) ∧
    ∀ text a, Json.parse reader text = .ok a →
      Json.parse reader (write a).compact = .ok a ∧ Json.parse reader (write a).pretty = .ok a

theorem roundTrips_of_takes {α : Type} {write : α → Value} {reader : Reader α} {kept : α → α}
    (h : ∀ a, reader.Takes (write a) (kept a)) (hkept : ∀ text a, Json.parse reader text = .ok a → kept a = a) :
    RoundTrips write reader kept := by
  refine ⟨fun a => ⟨Json.parse_compact (h a), Json.parse_pretty (h a)⟩, fun text a htext => ?_⟩
  have ha := h a
  rw [hkept text a htext] at ha
  exact ⟨Json.parse_compact ha, Json.parse_pretty ha⟩

/-- Queries, sources, settings and read options come back from JSON as they are, and profiles but for their mark. -/
theorem json_round_trips :
    RoundTrips SymbolQuery.toJson SymbolQuery.reader id ∧
      RoundTrips MappingSource.toJson MappingSource.reader id ∧
      RoundTrips Settings.toJson Settings.reader id ∧
      RoundTrips ReadOptions.toJson ReadOptions.reader id ∧
      RoundTrips Profile.toJson Profile.reader Profile.unmarked := by
  refine ⟨?_, ?_, ?_, ?_, ?_⟩
  · exact roundTrips_of_takes SymbolQuery.reader_takes fun _ _ _ => rfl
  · exact roundTrips_of_takes MappingSource.reader_takes fun _ _ _ => rfl
  · exact roundTrips_of_takes Settings.reader_takes fun _ _ _ => rfl
  · exact roundTrips_of_takes ReadOptions.reader_takes fun _ _ _ => rfl
  · refine roundTrips_of_takes Profile.reader_takes fun text p h => ?_
    rw [Profile.unmarked, ← Json.parse_always Profile.reader_unmarked h]

/-- A profile in a loose spelling: an entry that is not known, an escape, a source as a list, a format left out. -/
def looseProfile : String :=
  "\x7b\"note\": [1, null], \"id\": \"a\\u0022\", \"community\": [\"retrace\", \"c\"],
    \"canonical\": \x7b\"location\": \"k\"\x7d\x7d"

/-- What the loose spelling gives is read again from its own written form, and a preset comes back without its mark. -/
theorem looseProfile_read_again :
    Json.parse Profile.reader looseProfile = .ok ⟨"a\"", ⟨.retrace, "c", none⟩, ⟨.flat, "k", none⟩, false⟩ ∧
      Json.parse Profile.reader (Profile.toJson ⟨"a\"", ⟨.retrace, "c", none⟩, ⟨.flat, "k", none⟩, false⟩).compact =
        .ok ⟨"a\"", ⟨.retrace, "c", none⟩, ⟨.flat, "k", none⟩, false⟩ ∧
      Json.parse Profile.reader (Profile.toJson ⟨"a\"", ⟨.retrace, "c", none⟩, ⟨.flat, "k", none⟩, true⟩).pretty =
        .ok ⟨"a\"", ⟨.retrace, "c", none⟩, ⟨.flat, "k", none⟩, false⟩ := by
  have hloose : Json.parse Profile.reader looseProfile =
      .ok ⟨"a\"", ⟨.retrace, "c", none⟩, ⟨.flat, "k", none⟩, false⟩ := by decide +kernel
  obtain ⟨-, -, -, -, hwrite, hagain⟩ := json_round_trips
  exact ⟨hloose, (hagain _ _ hloose).1, (hwrite ⟨"a\"", ⟨.retrace, "c", none⟩, ⟨.flat, "k", none⟩, true⟩).2⟩

end NameBridge
