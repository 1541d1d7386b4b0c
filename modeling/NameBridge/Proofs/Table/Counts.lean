import NameBridge.Proofs.Table.Fields
import NameBridge.Proofs.Table.Replacement

/-!
How many records are left.

A record that has a name of an earlier one takes its place. So a pairing has at most as many pairs as it was given
records, and as many only if no two of them share a name (`Pairing.size_ofRecords`). The same holds of the classes
that are left of a list, whatever each of them counts for (`Table.total_unreplaced`).
-/

namespace NameBridge

/-- Two field records, each an obfuscated and a declared name, that share neither. -/
def Apart (r r' : String × String) : Prop := r.1 ≠ r'.1 ∧ r.2 ≠ r'.2

instance (r r' : String × String) : Decidable (Apart r r') := inferInstanceAs (Decidable (_ ∧ _))

theorem Apart.comm {r r' : String × String} : Apart r r' ↔ Apart r' r := and_congr ne_comm ne_comm

/-- Among records that share no names none is superseded. -/
theorem unsuperseded_iff_mem {records : List (String × String)} (h : records.Pairwise Apart) (o d : String) :
    Unsuperseded records o d ↔ (o, d) ∈ records := by
  constructor
  · rintro ⟨before, after, rfl, -⟩
    simp
  · intro hmem
    obtain ⟨before, after, rfl⟩ := List.append_of_mem hmem
    have hafter : ∀ r ∈ after, Apart (o, d) r := (List.pairwise_cons.1 (List.pairwise_append.1 h).2.1).1
    refine ⟨before, after, rfl, fun hagain => (hafter _ hagain).1 rfl, fun o' d' hlater => ?_⟩
    obtain ⟨hobfuscated, hdeclared⟩ := hafter _ hlater
    exact ⟨fun hsame => hobfuscated hsame.1.symm, fun hsame => hdeclared hsame.1.symm⟩

namespace Pairing

variable {p : Pairing}

theorem mem_toList_iff {r : String × String} : r ∈ p.toList ↔ p.declared? r.1 = some r.2 :=
  Std.HashMap.mem_toList_iff_getElem?_eq_some

theorem size_eq_length (p : Pairing) : p.size = p.toList.length := Std.HashMap.length_toList.symm

/-- A new record leaves the pairs that share no name with it. -/
theorem Inverse.toList_insert (h : p.Inverse) (r : String × String) :
    (p.insert r.1 r.2).toList.Perm (r :: p.toList.filter (Apart r)) := by
  have hnew : r ∉ p.toList.filter (Apart r) := by
    rw [List.mem_filter, decide_eq_true_iff]
    exact fun hmem => hmem.2.1 rfl
  refine (List.perm_ext_iff_of_nodup (nodup_toList _) (((nodup_toList _).filter _).cons hnew)).2 fun r' => ?_
  change r' ∈ (p.insert r.1 r.2).toList ↔ _
  rw [mem_toList_iff, h.declared?_insert_iff, List.mem_cons, List.mem_filter, mem_toList_iff, decide_eq_true_iff,
    Prod.ext_iff, Apart]
  simp only [ne_comm (a := r.1), ne_comm (a := r.2)]
  tauto

/-- A new record adds a pair only if it shares no name with any; in every other case it takes the place of one or
two. -/
theorem Inverse.size_insert (h : p.Inverse) (r : String × String) :
    (p.insert r.1 r.2).size ≤ p.size + 1 ∧
      ((p.insert r.1 r.2).size = p.size + 1 ↔ ∀ r' ∈ p.toList, Apart r r') := by
  have hsize : (p.insert r.1 r.2).size = (p.toList.filter (Apart r)).length + 1 := by
    rw [size_eq_length, (h.toList_insert r).length_eq, List.length_cons]
  rw [hsize, size_eq_length, Nat.add_left_inj, List.length_filter_eq_length_iff]
  exact ⟨Nat.add_le_add_right (List.length_filter_le ..) 1, by simp only [decide_eq_true_iff]⟩

/-- There are at most as many pairs as records, and as many exactly if no two records share a name. -/
theorem size_ofRecords (records : List (String × String)) :
    (ofRecords records).size ≤ records.length ∧
      ((ofRecords records).size = records.length ↔ records.Pairwise Apart) := by
  induction records using List.reverseRecOn with
  | nil => simp [ofRecords, size, empty]
  | append_singleton records r ih =>
    obtain ⟨hle, hiff⟩ := ih
    obtain ⟨hstep, hnew⟩ := (inverse_ofRecords records).size_insert r
    rw [ofRecords_concat, List.length_append, List.length_singleton, List.pairwise_append]
    refine ⟨by omega, ?_⟩
    by_cases hapart : records.Pairwise Apart
    · -- so far every record has its pair
      have hpairs : (∀ r' ∈ (ofRecords records).toList, Apart r r') ↔ ∀ r' ∈ records, Apart r' r := by
        simp only [mem_toList_iff, declared?_ofRecords_iff, unsuperseded_iff_mem hapart, Apart.comm (r := r)]
      rw [hiff.2 hapart, hpairs] at hnew
      rw [hnew]
      simp [hapart]
    · have hless : (ofRecords records).size ≠ records.length := fun heq => hapart (hiff.1 heq)
      simp only [hapart, false_and, iff_false]
      omega

end Pairing

/-! ## Totals -/

namespace Table

theorem total_cons (count : ClassEntry → Nat) (c : ClassEntry) (cs : List ClassEntry) :
    total count (c :: cs) = count c + total count cs := rfl

theorem total_add (count count' : ClassEntry → Nat) (cs : List ClassEntry) :
    total (fun c => count c + count' c) cs = total count cs + total count' cs := by
  induction cs with
  | nil => rfl
  | cons c cs ih =>
    rw [total_cons, total_cons, total_cons, ih]
    omega

theorem total_one (cs : List ClassEntry) : total (fun _ => 1) cs = cs.length := by
  induction cs with
  | nil => rfl
  | cons c cs ih =>
    rw [total_cons, ih, List.length_cons]
    omega

/-- The classes that are left count for less than all of them, unless no two share a name. -/
theorem total_unreplaced {count : ClassEntry → Nat} (hcount : ∀ c, 0 < count c) (cs : List ClassEntry) :
    total count (unreplaced cs) ≤ total count cs ∧
      (total count (unreplaced cs) = total count cs ↔ cs.Pairwise fun c d => ¬c.SharesName d) := by
  induction cs with
  | nil => simp [unreplaced]
  | cons c cs ih =>
    obtain ⟨hle, hiff⟩ := ih
    have hc := hcount c
    rw [unreplaced, total_cons, List.pairwise_cons]
    split
    · rename_i hshares
      obtain ⟨d, hd, hshares⟩ := hshares
      have hnot : ¬∀ d ∈ cs, ¬c.SharesName d := fun h => h d hd hshares
      simp only [hnot, false_and, iff_false]
      omega
    · rename_i hnone
      have hall : ∀ d ∈ cs, ¬c.SharesName d := fun d hd hshares => hnone ⟨d, hd, hshares⟩
      rw [total_cons, Nat.add_left_cancel_iff, hiff, and_iff_right hall]
      exact ⟨Nat.add_le_add_left hle _, Iff.rfl⟩

end Table

end NameBridge
