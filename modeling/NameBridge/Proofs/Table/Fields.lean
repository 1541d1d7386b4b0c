import Mathlib.Data.List.Induction
import Mathlib.Data.List.Nodup
import Mathlib.Data.List.ProdSigma
import Mathlib.Data.Prod.Basic
import NameBridge.Table.Class

/-!
Field records and the pairing they leave.

A record takes the place of every record before it that has one of its two names with another name on the other
side. What is left are the records that no later one does this to (`Unsuperseded`), and either map of the pairing
holds exactly these. So the two maps are each other's inverse and have the same size (`Pairing.Inverse`).
-/

namespace NameBridge

/-- The two names were recorded as a pair, and after the last time no record has one of them with another name on
the other side. -/
def Unsuperseded (records : List (String × String)) (obfuscated declared : String) : Prop :=
  ∃ before after, records = before ++ (obfuscated, declared) :: after ∧ (obfuscated, declared) ∉ after ∧
    ∀ o d, (o, d) ∈ after → ¬(o = obfuscated ∧ d ≠ declared) ∧ ¬(d = declared ∧ o ≠ obfuscated)

theorem unsuperseded_nil (o d : String) : ¬Unsuperseded [] o d := by
  rintro ⟨before, after, heq, -⟩
  cases before <;> cases heq

/-- A new record stands, and of the others those that share no name with it. -/
theorem unsuperseded_concat (records : List (String × String)) (o d o' d' : String) :
    Unsuperseded (records ++ [(o, d)]) o' d' ↔ (o' = o ∧ d' = d) ∨ (o' ≠ o ∧ d' ≠ d ∧ Unsuperseded records o' d') := by
  constructor
  · rintro ⟨before, after, heq, hlast, hafter⟩
    rcases List.eq_nil_or_concat after with rfl | ⟨after, ⟨x, y⟩, rfl⟩
    · have hnew := (List.append_inj' heq rfl).2
      simp only [List.cons.injEq, Prod.mk.injEq, and_true] at hnew
      exact .inl ⟨hnew.1.symm, hnew.2.symm⟩
    · rw [List.concat_eq_append, ← List.cons_append, ← List.append_assoc] at heq
      obtain ⟨hrecords, hnew⟩ := List.append_inj' heq rfl
      simp only [List.cons.injEq, Prod.mk.injEq, and_true] at hnew
      obtain ⟨rfl, rfl⟩ := hnew
      simp only [List.concat_eq_append, List.mem_append, List.mem_singleton, Prod.mk.injEq, not_or,
        not_and] at hlast hafter
      obtain ⟨hobfuscated, hdeclared⟩ := hafter o d (.inr ⟨rfl, rfl⟩)
      refine .inr ⟨?_, ?_, before, after, hrecords, hlast.1, fun x y hxy => ?_⟩
      · rintro rfl
        exact hlast.2 rfl (not_not.1 (hobfuscated rfl)).symm
      · rintro rfl
        exact hlast.2 (not_not.1 (hdeclared rfl)).symm rfl
      · simpa using hafter x y (.inl hxy)
  · rintro (⟨rfl, rfl⟩ | ⟨ho, hd, before, after, rfl, hlast, hafter⟩)
    · exact ⟨records, [], rfl, List.not_mem_nil, fun _ _ h => absurd h List.not_mem_nil⟩
    · refine ⟨before, after ++ [(o, d)], by simp, by simp [hlast, ho], fun x y hxy => ?_⟩
      rw [List.mem_append, List.mem_singleton, Prod.mk.injEq] at hxy
      rcases hxy with hxy | ⟨rfl, rfl⟩
      · exact hafter x y hxy
      · exact ⟨fun h => ho h.1.symm, fun h => hd h.1.symm⟩

namespace Pairing

variable {p : Pairing}

/-! ## The two maps -/

/-- Each of the two maps undoes the other. -/
def Inverse (p : Pairing) : Prop := ∀ o d, p.declared? o = some d ↔ p.obfuscated? d = some o

theorem inverse_empty : empty.Inverse := by
  intro o d
  rw [declared?_empty, obfuscated?_empty]
  simp

/-- What is kept unless it leads to `d`. -/
theorem kept_eq_some_iff {image : Option String} {d d' : String} :
    (if image = some d then none else image) = some d' ↔ d' ≠ d ∧ image = some d' := by
  split
  · rename_i heq
    simp [heq, eq_comm]
  · rename_i hne
    refine ⟨fun heq => ⟨?_, heq⟩, And.right⟩
    rintro rfl
    exact hne heq

/-- After a new pair there is that pair, and of the others those that share no name with it. -/
theorem Inverse.declared?_insert_iff (h : p.Inverse) (o d o' d' : String) :
    (p.insert o d).declared? o' = some d' ↔ (o' = o ∧ d' = d) ∨ (o' ≠ o ∧ d' ≠ d ∧ p.declared? o' = some d') := by
  rw [declared?_insert]
  by_cases ho : o' = o
  · simp [ho, eq_comm]
  · -- what `d` was paired with leads to `d`, so both guards say the same
    simp only [ho, ← h o' d, and_self, if_false, kept_eq_some_iff, ne_eq, false_and, false_or, not_false_eq_true,
      true_and]

theorem Inverse.obfuscated?_insert_iff (h : p.Inverse) (o d o' d' : String) :
    (p.insert o d).obfuscated? d' = some o' ↔ (o' = o ∧ d' = d) ∨ (o' ≠ o ∧ d' ≠ d ∧ p.obfuscated? d' = some o') := by
  rw [obfuscated?_insert]
  by_cases hd : d' = d
  · simp [hd, eq_comm]
  · simp only [hd, h o d', and_self, if_false, kept_eq_some_iff, ne_eq, and_false, false_or, not_false_eq_true, true_and]

theorem Inverse.insert (h : p.Inverse) (o d : String) : (p.insert o d).Inverse := by
  intro o' d'
  rw [h.declared?_insert_iff, h.obfuscated?_insert_iff, h o' d']

theorem nodup_toList (names : Std.HashMap String String) : names.toList.Nodup :=
  names.distinct_keys_toList.imp fun hkeys heq => by simp [heq] at hkeys

/-- Either map has an entry for each pair. -/
theorem Inverse.size_eq (h : p.Inverse) : p.toDeclared.size = p.toObfuscated.size := by
  have hperm : (p.toDeclared.toList.map Prod.swap).Perm p.toObfuscated.toList := by
    refine (List.perm_ext_iff_of_nodup ((nodup_toList _).map Prod.swap_injective) (nodup_toList _)).2 ?_
    rintro ⟨d, o⟩
    rw [List.mem_map_swap, Std.HashMap.mem_toList_iff_getElem?_eq_some, Std.HashMap.mem_toList_iff_getElem?_eq_some]
    exact h o d
  rw [← Std.HashMap.length_toList, ← Std.HashMap.length_toList, ← hperm.length_eq, List.length_map]

/-! ## Records one after the other -/

/-- The pairing after these records. -/
def ofRecords (records : List (String × String)) : Pairing :=
  records.foldl (fun p (obfuscated, declared) => p.insert obfuscated declared) empty

theorem ofRecords_concat (records : List (String × String)) (o d : String) :
    ofRecords (records ++ [(o, d)]) = (ofRecords records).insert o d := by
  rw [ofRecords, List.foldl_append]
  rfl

theorem inverse_ofRecords (records : List (String × String)) : (ofRecords records).Inverse := by
  induction records using List.reverseRecOn with
  | nil => exact inverse_empty
  | append_singleton records r ih =>
    rw [ofRecords_concat]
    exact ih.insert r.1 r.2

/-- The pairs are the records that no later one supersedes. -/
theorem declared?_ofRecords_iff (records : List (String × String)) (o d : String) :
    (ofRecords records).declared? o = some d ↔ Unsuperseded records o d := by
  induction records using List.reverseRecOn with
  | nil =>
    rw [ofRecords, List.foldl_nil, declared?_empty]
    simp [unsuperseded_nil]
  | append_singleton records r ih =>
    rw [ofRecords_concat, (inverse_ofRecords records).declared?_insert_iff, ih, unsuperseded_concat]

end Pairing

namespace ClassEntry

/-- A class with these fields, recorded one after the other as obfuscated and declared name. -/
def ofFields (declared obfuscated : String) (records : List (String × String)) : ClassEntry :=
  records.foldl (fun c (o, d) => c.insertField o d) (ofNames declared obfuscated)

theorem fields_foldl_insertField (c : ClassEntry) (records : List (String × String)) :
    (records.foldl (fun c (o, d) => c.insertField o d) c).fields =
      records.foldl (fun p (o, d) => p.insert o d) c.fields := by
  induction records generalizing c with
  | nil => rfl
  | cons r records ih => exact ih _

theorem fields_ofFields (declared obfuscated : String) (records : List (String × String)) :
    (ofFields declared obfuscated records).fields = .ofRecords records :=
  fields_foldl_insertField _ records

/-- Whatever the records, the two maps of field names are each other's inverse: either leads from a name to another
exactly if that pair is on record and no later record has one of the two names in another pair. Each has as many
entries as there are fields. -/
theorem fields_eq_unsuperseded (declared obfuscated : String) (records : List (String × String)) :
    (∀ o d,
      ((ofFields declared obfuscated records).deobfuscateField? o = some d ↔
        (ofFields declared obfuscated records).obfuscateField? d = some o) ∧
      ((ofFields declared obfuscated records).deobfuscateField? o = some d ↔ Unsuperseded records o d) ∧
      ((o, d) ∈ (ofFields declared obfuscated records).fields.toList ↔ Unsuperseded records o d)) ∧
    (ofFields declared obfuscated records).fieldCount =
      (ofFields declared obfuscated records).fields.toDeclared.size ∧
    (ofFields declared obfuscated records).fieldCount =
      (ofFields declared obfuscated records).fields.toObfuscated.size := by
  unfold deobfuscateField? obfuscateField? fieldCount
  rw [fields_ofFields]
  have hinverse := Pairing.inverse_ofRecords records
  have hrecords := Pairing.declared?_ofRecords_iff records
  refine ⟨fun o d => ⟨hinverse o d, hrecords o d, ?_⟩, rfl, hinverse.size_eq⟩
  rw [← hrecords o d]
  exact Std.HashMap.mem_toList_iff_getElem?_eq_some

-- a name that gets another partner leaves nothing behind on either side
example :
    let c := ofFields "net.Block" "a" [("x", "count"), ("y", "count"), ("y", "total")]
    c.deobfuscateField? "x" = none ∧ c.obfuscateField? "count" = none ∧ c.deobfuscateField? "y" = some "total" := by
  cbv

end ClassEntry

end NameBridge
