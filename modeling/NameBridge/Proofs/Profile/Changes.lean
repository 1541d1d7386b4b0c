import Mathlib.Data.List.Nodup
import NameBridge.Profile.Store
import NameBridge.Proofs.Profile.RoundTrip

/-!
The store of profiles as a map.

The ids of a store are the keys of its two parts, and only the custom part can be changed. A change that is refused
leaves the store as it is; one that is carried out adds a new id at the end or takes a custom one away. So different ids
stay different and the presets stay as they are, over any number of changes, and after these the store still answers as
a map with a read-only part (`acts_as_map_after`).
-/

namespace NameBridge

namespace ProfileStore

/-- A change that is asked of a store. -/
inductive Change where
  | add (p : Profile)
  | remove (id : String)

/-- The store after a change was asked of it. -/
def after (s : ProfileStore) : Change → ProfileStore
  | .add p =>
    match s.add p with
    | .ok s' => s'
    | .error _ => s
  | .remove id =>
    match s.remove id with
    | .ok (_, s') => s'
    | .error _ => s

/-- The store after these changes were asked of it one by one. -/
def afterAll (s : ProfileStore) (changes : List Change) : ProfileStore := changes.foldl after s

def ids (s : ProfileStore) : List String := s.profiles.map (·.id)

def presetIds (s : ProfileStore) : List String := s.presets.map (·.id)

variable {s s' : ProfileStore} {p q : Profile} {id : String} {e : ProfileError}

theorem ids_eq (s : ProfileStore) : s.ids = s.presetIds ++ s.custom.map (·.id) := List.map_append

theorem mem_ids_of_mem (h : p ∈ s.profiles) : p.id ∈ s.ids := List.mem_map_of_mem h

/-! ## Looking up -/

theorem get?_eq_none_iff : s.get? id = none ↔ id ∉ s.ids := by
  simp [get?, ids]

/-- Where ids differ, the profile with an id is the one that is found. -/
theorem get?_eq_some_iff (h : s.ids.Nodup) : s.get? id = some p ↔ p ∈ s.profiles ∧ p.id = id := by
  constructor
  · intro hget
    exact ⟨List.mem_of_find?_eq_some hget, by simpa using List.find?_some hget⟩
  · rintro ⟨hp, rfl⟩
    cases hget : s.get? p.id with
    | none => exact absurd (mem_ids_of_mem hp) (get?_eq_none_iff.1 hget)
    | some q =>
      have hq : q ∈ s.profiles := List.mem_of_find?_eq_some hget
      have hid : q.id = p.id := by simpa using List.find?_some hget
      rw [List.inj_on_of_nodup_map h hq hp hid]

/-- The first profile with its id is found, whatever comes after it. -/
theorem get?_of_profiles_eq {before after : List Profile} (hprofiles : s.profiles = before ++ p :: after)
    (hid : p.id = id) (hbefore : id ∉ before.map (·.id)) : s.get? id = some p := by
  have hnone : before.find? (·.id == id) = none := by simpa using hbefore
  rw [get?, hprofiles, List.find?_append, hnone, Option.none_or, List.find?_cons_of_pos (by simpa using hid)]

/-! ## Adding -/

theorem add_of_mem (h : p.id ∈ s.ids) : s.add p = .error (.duplicate p.id) := by
  unfold add
  split
  · rfl
  · exact absurd h (get?_eq_none_iff.1 ‹_›)

theorem add_of_not_mem (h : p.id ∉ s.ids) : s.add p = .ok { s with custom := s.custom ++ [p.unmarked] } := by
  rw [add, get?_eq_none_iff.2 h]
  rfl

theorem add_eq_ok_iff : s.add p = .ok s' ↔ p.id ∉ s.ids ∧ s' = { s with custom := s.custom ++ [p.unmarked] } := by
  by_cases h : p.id ∈ s.ids
  · simp [add_of_mem h, h]
  · simp [add_of_not_mem h, h, eq_comm]

/-! ## Removing -/

theorem remove_of_preset (h : id ∈ s.presetIds) : s.remove id = .error (.readOnly id) := by
  rw [remove, if_pos]
  simpa [presetIds] using h

theorem remove_of_not_mem (h : id ∉ s.ids) : s.remove id = .error (.unknown id) := by
  rw [ids_eq, List.mem_append, not_or] at h
  have hpresets : ¬s.presets.any (·.id == id) := by simpa [presetIds] using h.1
  have hcustom : s.custom.find? (·.id == id) = none := by simpa using h.2
  rw [remove, if_neg hpresets, hcustom]

/-- The first custom profile with an id is removed, and the others keep their order. -/
theorem remove_of_custom {before after : List Profile} (hpreset : id ∉ s.presetIds)
    (hcustom : s.custom = before ++ p :: after) (hid : p.id = id) (hbefore : id ∉ before.map (·.id)) :
    s.remove id = .ok (p, { s with custom := before ++ after }) := by
  have hpresets : ¬s.presets.any (·.id == id) := by simpa [presetIds] using hpreset
  have hnone : before.find? (·.id == id) = none := by simpa using hbefore
  have hne : ∀ q ∈ before, ¬(q.id == id) := by simpa using hbefore
  have hfind : s.custom.find? (·.id == id) = some p := by
    rw [hcustom, List.find?_append, hnone, Option.none_or, List.find?_cons_of_pos (by simpa using hid)]
  have herase : s.custom.eraseP (·.id == id) = before ++ after := by
    rw [hcustom, List.eraseP_append_right _ hne, List.eraseP_cons_of_pos (by simpa using hid)]
  rw [remove, if_neg hpresets, hfind, herase]

theorem exists_custom (h : id ∈ s.ids) (hpreset : id ∉ s.presetIds) :
    ∃ before p after, s.custom = before ++ p :: after ∧ p.id = id ∧ id ∉ before.map (·.id) := by
  rw [ids_eq, List.mem_append, or_iff_right hpreset, List.mem_map] at h
  obtain ⟨q, hq, hid⟩ := h
  have hsome : (s.custom.find? (·.id == id)).isSome := List.find?_isSome.2 ⟨q, hq, by simpa using hid⟩
  obtain ⟨p, hfind⟩ := Option.isSome_iff_exists.1 hsome
  obtain ⟨hp, before, after, hcustom, hbefore⟩ := List.find?_eq_some_iff_append.1 hfind
  exact ⟨before, p, after, hcustom, by simpa using hp, by simpa using hbefore⟩

/-- What comes of asking for a removal. -/
theorem remove_cases (s : ProfileStore) (id : String) :
    id ∈ s.presetIds ∧ s.remove id = .error (.readOnly id) ∨
      id ∉ s.ids ∧ s.remove id = .error (.unknown id) ∨
      (id ∈ s.ids ∧ id ∉ s.presetIds) ∧ ∃ before p after, s.custom = before ++ p :: after ∧ p.id = id ∧
        s.remove id = .ok (p, { s with custom := before ++ after }) := by
  by_cases hpreset : id ∈ s.presetIds
  · exact .inl ⟨hpreset, remove_of_preset hpreset⟩
  · by_cases hmem : id ∈ s.ids
    · obtain ⟨before, p, after, hcustom, hid, hbefore⟩ := exists_custom hmem hpreset
      exact .inr (.inr ⟨⟨hmem, hpreset⟩, before, p, after, hcustom, hid,
        remove_of_custom hpreset hcustom hid hbefore⟩)
    · exact .inr (.inl ⟨hmem, remove_of_not_mem hmem⟩)

theorem mem_ids_of_mem_presetIds (h : id ∈ s.presetIds) : id ∈ s.ids := by
  rw [ids_eq]
  exact List.mem_append_left _ h

/-- Taking away the profile that was added last gives the earlier store. -/
theorem remove_added (h : p.id ∉ s.ids) :
    remove { s with custom := s.custom ++ [p.unmarked] } p.id = .ok (p.unmarked, s) := by
  rw [ids_eq, List.mem_append, not_or] at h
  have hcustom : s.custom ++ [p.unmarked] = s.custom ++ p.unmarked :: [] := rfl
  have hremove := remove_of_custom (s := { s with custom := s.custom ++ [p.unmarked] }) h.1 hcustom rfl h.2
  rwa [List.append_nil] at hremove

/-! ## Changes one by one -/

/-- What a change does to a store: nothing, a new profile at the end, or a custom profile less. -/
theorem after_cases (s : ProfileStore) (c : Change) :
    s.after c = s ∨
      (∃ p, c = .add p ∧ p.id ∉ s.ids ∧ s.after c = { s with custom := s.custom ++ [p.unmarked] }) ∨
      ∃ before p after, s.custom = before ++ p :: after ∧ s.after c = { s with custom := before ++ after } := by
  cases c with
  | add p =>
    by_cases h : p.id ∈ s.ids
    · exact .inl (by rw [after, add_of_mem h])
    · exact .inr (.inl ⟨p, rfl, h, by rw [after, add_of_not_mem h]⟩)
  | remove id =>
    rcases s.remove_cases id with ⟨-, h⟩ | ⟨-, h⟩ | ⟨-, before, p, after', hcustom, -, h⟩
    · exact .inl (by rw [after, h])
    · exact .inl (by rw [after, h])
    · exact .inr (.inr ⟨before, p, after', hcustom, by rw [after, h]⟩)

theorem presets_after (s : ProfileStore) (c : Change) : (s.after c).presets = s.presets := by
  rcases s.after_cases c with h | ⟨p, -, -, h⟩ | ⟨before, p, after', -, h⟩ <;> rw [h]

theorem customPath_after (s : ProfileStore) (c : Change) : (s.after c).customPath = s.customPath := by
  rcases s.after_cases c with h | ⟨p, -, -, h⟩ | ⟨before, p, after', -, h⟩ <;> rw [h]

/-- A custom profile was there before or is the one that was added. -/
theorem mem_custom_after {c : Change} (h : p ∈ (s.after c).custom) :
    p ∈ s.custom ∨ ∃ q, c = .add q ∧ q.id ∉ s.presetIds ∧ p = q.unmarked := by
  rcases s.after_cases c with heq | ⟨q, rfl, hq, heq⟩ | ⟨before, q, after', hcustom, heq⟩
  · exact .inl (by rwa [heq] at h)
  · rw [heq, List.mem_append, List.mem_singleton] at h
    exact h.imp_right fun hp => ⟨q, rfl, mt mem_ids_of_mem_presetIds hq, hp⟩
  · rw [heq, List.mem_append] at h
    rw [hcustom, List.mem_append, List.mem_cons]
    exact .inl (h.imp_right .inr)

theorem nodup_ids_after (h : s.ids.Nodup) (c : Change) : (s.after c).ids.Nodup := by
  rcases s.after_cases c with heq | ⟨p, -, hp, heq⟩ | ⟨before, p, after', hcustom, heq⟩
  · rwa [heq]
  · have hids : (s.after c).ids = s.ids ++ [p.id] := by
      rw [heq, ids_eq, ids_eq, List.map_append, ← List.append_assoc]
      rfl
    rw [hids, List.nodup_append]
    refine ⟨h, List.nodup_singleton _, fun id hid id' hid' => ?_⟩
    rw [List.mem_singleton.1 hid']
    rintro rfl
    exact hp hid
  · have hsublist : (s.after c).ids.Sublist s.ids := by
      rw [heq, ids_eq, ids_eq, hcustom]
      exact ((List.sublist_cons_self p after').append_left before).map _ |>.append_left _
    exact h.sublist hsublist

theorem presets_afterAll (s : ProfileStore) (changes : List Change) : (s.afterAll changes).presets = s.presets := by
  induction changes generalizing s with
  | nil => rfl
  | cons c changes ih => exact (ih (s.after c)).trans (s.presets_after c)

theorem customPath_afterAll (s : ProfileStore) (changes : List Change) :
    (s.afterAll changes).customPath = s.customPath := by
  induction changes generalizing s with
  | nil => rfl
  | cons c changes ih => exact (ih (s.after c)).trans (s.customPath_after c)

theorem mem_custom_afterAll {changes : List Change} (h : p ∈ (s.afterAll changes).custom) :
    p ∈ s.custom ∨ ∃ q, Change.add q ∈ changes ∧ q.id ∉ s.presetIds ∧ p = q.unmarked := by
  induction changes generalizing s with
  | nil => exact .inl h
  | cons c changes ih =>
    rcases ih h with hp | ⟨q, hq, hnew, rfl⟩
    · refine (mem_custom_after hp).imp_right ?_
      rintro ⟨q, rfl, hnew, hp⟩
      exact ⟨q, List.mem_cons_self, hnew, hp⟩
    · rw [presetIds, presets_after] at hnew
      exact .inr ⟨q, List.mem_cons_of_mem c hq, hnew, rfl⟩

theorem nodup_ids_afterAll (h : s.ids.Nodup) (changes : List Change) : (s.afterAll changes).ids.Nodup := by
  induction changes generalizing s with
  | nil => exact h
  | cons c changes ih => exact ih (nodup_ids_after h c)

/-! ## The store as a map -/

/-- The change is refused. -/
def Refuses (s : ProfileStore) : Change → Prop
  | .add p => ∃ e, s.add p = .error e
  | .remove id => ∃ e, s.remove id = .error e

theorem after_of_refuses {c : Change} (h : s.Refuses c) : s.after c = s := by
  cases c with
  | add p =>
    obtain ⟨e, h⟩ := h
    rw [after, h]
  | remove id =>
    obtain ⟨e, h⟩ := h
    rw [after, h]

/-- The store answers as a map from ids to profiles that keeps its presets: which profile has an id, when a change is
refused and why, and what it does if it is not. -/
structure ActsAsMap (s : ProfileStore) : Prop where
  get : ∀ id p, s.get? id = some p ↔ p ∈ s.profiles ∧ p.id = id
  add_duplicate : ∀ p, s.add p = .error (.duplicate p.id) ↔ p.id ∈ s.ids
  /-- A new profile is added at the end without its mark, is found, and can be taken away again. -/
  add_new : ∀ p, p.id ∉ s.ids → ∃ s', s.add p = .ok s' ∧ s'.presets = s.presets ∧
    s'.custom = s.custom ++ [p.unmarked] ∧ s'.get? p.id = some p.unmarked ∧ s'.remove p.id = .ok (p.unmarked, s)
  remove_preset : ∀ id, s.remove id = .error (.readOnly id) ↔ id ∈ s.presetIds
  remove_unknown : ∀ id, s.remove id = .error (.unknown id) ↔ id ∉ s.ids
  /-- The custom profile with the id is taken away, and nothing else. -/
  remove_custom : ∀ id, id ∈ s.ids → id ∉ s.presetIds → ∃ before p after, s.custom = before ++ p :: after ∧
    p.id = id ∧ s.remove id = .ok (p, { s with custom := before ++ after })
  after_refused : ∀ c, s.Refuses c → s.after c = s
  selected_none : ∀ settings, settings.selectedProfile = none → s.selected settings = .ok none
  selected_some : ∀ settings id, settings.selectedProfile = some id →
    (∀ p, s.selected settings = .ok (some p) ↔ s.get? id = some p) ∧
      (s.selected settings = .error (.unknown id) ↔ s.get? id = none)

theorem actsAsMap (h : s.ids.Nodup) : s.ActsAsMap where
  get _ _ := get?_eq_some_iff h
  add_duplicate p := by
    by_cases hp : p.id ∈ s.ids
    · simp [add_of_mem hp, hp]
    · simp [add_of_not_mem hp, hp]
  add_new p hp := by
    have hnodup := nodup_ids_after h (.add p)
    rw [after, add_of_not_mem hp] at hnodup
    refine ⟨_, add_of_not_mem hp, rfl, rfl, (get?_eq_some_iff hnodup).2 ⟨?_, rfl⟩, remove_added hp⟩
    simp [profiles]
  remove_preset id := by
    rcases s.remove_cases id with ⟨hid, h⟩ | ⟨hid, h⟩ | ⟨⟨-, hid⟩, _, _, _, -, -, h⟩
    · simp [h, hid]
    · simp [h, mt mem_ids_of_mem_presetIds hid]
    · simp [h, hid]
  remove_unknown id := by
    rcases s.remove_cases id with ⟨hid, h⟩ | ⟨hid, h⟩ | ⟨⟨hid, -⟩, _, _, _, -, -, h⟩
    · simp [h, mem_ids_of_mem_presetIds hid]
    · simp [h, hid]
    · simp [h, hid]
  remove_custom id hid hpreset := by
    obtain ⟨before, p, after', hcustom, hp, hbefore⟩ := exists_custom hid hpreset
    exact ⟨before, p, after', hcustom, hp, remove_of_custom hpreset hcustom hp hbefore⟩
  after_refused _ := after_of_refuses
  selected_none settings hnone := by rw [selected, hnone]
  selected_some settings id hsome := by
    simp only [selected, hsome]
    cases s.get? id <;> simp

/-- Over any changes different ids stay different and the presets stay as they are, and after them the store answers as
a map. -/
theorem acts_as_map_after (h : s.ids.Nodup) (changes : List Change) :
    (s.afterAll changes).ids.Nodup ∧ (s.afterAll changes).presets = s.presets ∧ (s.afterAll changes).ActsAsMap :=
  ⟨nodup_ids_afterAll h changes, presets_afterAll s changes, actsAsMap (nodup_ids_afterAll h changes)⟩

def shared : Profile :=
  { id := "s", community := { location := "c" }, canonical := { format := .retrace, location := "k" } }

/-- A profile with quotes and a line feed in its texts. -/
def quoted : Profile :=
  { id := "a \"b\"", community := { location := "b\n.csrg" }, canonical := { format := .retrace, location := "b" } }

/-- A store of a preset and a custom profile. -/
def bothStore : ProfileStore := ⟨[{ shared with preset := true }], [quoted], "home/own.json"⟩

/-- A preset can be neither added again nor removed, and a custom profile that is removed is gone. -/
theorem acts_as_map_beside_preset :
    bothStore.ids = ["s", "a \"b\""] ∧
      (bothStore.afterAll [.add shared, .remove "s", .remove quoted.id]).ids = ["s"] ∧
      (bothStore.afterAll [.add shared, .remove "s", .remove quoted.id]).ActsAsMap := by
  have hids : bothStore.ids = ["s", "a \"b\""] := by decide
  have hnodup : bothStore.ids.Nodup := by decide
  exact ⟨hids, by decide, (acts_as_map_after hnodup _).2.2⟩

end ProfileStore

end NameBridge
