import NameBridge.Proofs.TypeName.Suffixes

/-!
Source forms and their normal form.

What is split off a source form are suffixes, and no `[]` is left at the end of the base (`splitArraySuffix_spec`). A
name with suffixes can be taken apart in one way only, so two source forms have the same normal form exactly if they
have the same normal base and as many dimensions (`normalize_eq_iff`).
-/

namespace NameBridge.TypeName

/-- The text does not end in `[]`. -/
def Unbracketed (cs : List Char) : Prop := ¬['[', ']'] <:+ cs

instance (cs : List Char) : Decidable (Unbracketed cs) := inferInstanceAs (Decidable (¬_))

/-! ## Suffixes -/

theorem withDimensions_left_inj {x y : String} {d : Nat} : withDimensions x d = withDimensions y d ↔ x = y := by
  induction d with
  | zero => rfl
  | succ d ih => rw [withDimensions_succ, withDimensions_succ, String.append_left_inj, ih]

/-- A base that does not end in `[]` is told from the suffixes behind it. -/
theorem withDimensions_inj {x y : String} {m n : Nat} (hx : Unbracketed x.toList) (hy : Unbracketed y.toList) :
    withDimensions x m = withDimensions y n ↔ x = y ∧ m = n := by
  constructor
  · intro h
    have hsplit := splitBrackets_withDimensions hx m
    rw [h, splitBrackets_withDimensions hy n, Prod.mk.injEq, List.reverse_inj, String.toList_inj] at hsplit
    exact ⟨hsplit.1.symm, hsplit.2.symm⟩
  · rintro ⟨rfl, rfl⟩
    rfl

theorem splitBrackets_spec (cs : List Char) :
    String.ofList cs.reverse = withDimensions (String.ofList (splitBrackets cs).1.reverse) (splitBrackets cs).2 ∧
      Unbracketed (splitBrackets cs).1.reverse := by
  fun_induction splitBrackets cs with
  | case1 rest base dimensions hrest ih =>
    rw [hrest] at ih
    refine ⟨?_, ih.2⟩
    rw [withDimensions_succ, ← ih.1, List.reverse_cons, List.reverse_cons, List.append_assoc, String.ofList_append]
    rfl
  | case2 rest hnone =>
    refine ⟨rfl, ?_⟩
    rintro ⟨before, hbefore⟩
    refine hnone before.reverse ?_
    rw [← List.reverse_reverse rest, ← hbefore]
    simp

/-- What is split off a source form are suffixes of one dimension each, and maybe three dots behind them. -/
theorem splitArraySuffix_spec (s : String) :
    Unbracketed (splitArraySuffix s).1.toList ∧
      (s = withDimensions (splitArraySuffix s).1 (splitArraySuffix s).2 ∨
        ∃ d, (splitArraySuffix s).2 = d + 1 ∧ s = withDimensions (splitArraySuffix s).1 d ++ "...") := by
  unfold splitArraySuffix
  split
  rename_i base d heq
  rw [String.toList_ofList]
  split at heq
  · rename_i rest hrev
    obtain ⟨hrest, hbase⟩ := splitBrackets_spec rest
    rw [Prod.mk.injEq] at heq
    obtain ⟨rfl, rfl⟩ := heq
    refine ⟨hbase, .inr ⟨_, rfl, ?_⟩⟩
    rw [← hrest, ← String.toList_inj, ← List.reverse_reverse s.toList, hrev]
    simp
  · rename_i rest _
    obtain ⟨hrest, hbase⟩ := splitBrackets_spec s.toList.reverse
    rw [heq, List.reverse_reverse, String.ofList_toList] at hrest
    rw [heq] at hbase
    exact ⟨hbase, .inl hrest⟩

/-! ## The base -/

theorem mem_toList_withDimensions_of_mem {base : String} {c : Char} (h : c ∈ base.toList) (d : Nat) :
    c ∈ (withDimensions base d).toList := by
  induction d with
  | zero => exact h
  | succ d ih => exact String.toList_append ▸ List.mem_append_left _ ih

theorem mem_of_mem_base {s : String} {c : Char} (h : c ∈ (splitArraySuffix s).1.toList) : c ∈ s.toList := by
  obtain ⟨-, hs | ⟨d, -, hs⟩⟩ := splitArraySuffix_spec s
  · rw [hs]
    exact mem_toList_withDimensions_of_mem h _
  · rw [hs, String.toList_append]
    exact List.mem_append_left _ (mem_toList_withDimensions_of_mem h _)

/-- There are no slashes in suffixes. -/
theorem slash_mem_base_iff {s : String} : '/' ∈ (splitArraySuffix s).1.toList ↔ '/' ∈ s.toList := by
  refine ⟨mem_of_mem_base, fun h => ?_⟩
  have hbase {d : Nat} (h : '/' ∈ (withDimensions (splitArraySuffix s).1 d).toList) :
      '/' ∈ (splitArraySuffix s).1.toList := by
    rcases mem_withDimensions h with h | h | h
    · exact h
    · exact absurd h (by decide)
    · exact absurd h (by decide)
  obtain ⟨-, hs | ⟨d, -, hs⟩⟩ := splitArraySuffix_spec s
  · rw [hs] at h
    exact hbase h
  · rw [hs, String.toList_append, List.mem_append] at h
    exact h.elim hbase fun hdots => absurd hdots (by decide)

/-! ## Normal forms -/

theorem toList_dotted (s : String) : (dotted s).toList = s.toList.map fun c => if c = '/' then '.' else c :=
  String.toList_map

theorem not_mem_dotted (s : String) : '/' ∉ (dotted s).toList := by
  rw [toList_dotted, List.mem_map]
  rintro ⟨c, -, hc⟩
  split at hc
  · exact absurd hc (by decide)
  · exact absurd hc ‹_›

theorem Unbracketed.dotted {s : String} (h : Unbracketed s.toList) : Unbracketed (dotted s).toList := by
  intro hsuffix
  rw [toList_dotted] at hsuffix
  obtain ⟨last, hlast, heq⟩ := List.suffix_map_iff.1 hsuffix
  rw [map_dot_eq_self (heq ▸ by decide)] at heq
  exact h (heq ▸ hlast)

theorem Unbracketed.normalizeBase {s : String} (h : Unbracketed s.toList) : Unbracketed (normalizeBase s).toList := by
  unfold TypeName.normalizeBase
  split
  · decide
  · exact h.dotted

/-- The name of a source form in the common vocabulary, without its dimensions. -/
def normalBase (s : String) : String := normalizeBase (splitArraySuffix s).1

theorem normalize_eq (s : String) : normalize s = withDimensions (normalBase s) (splitArraySuffix s).2 := rfl

/-- A normal form tells the base and the number of dimensions. -/
theorem normalize_eq_iff {a b : String} :
    normalize a = normalize b ↔ normalBase a = normalBase b ∧ (splitArraySuffix a).2 = (splitArraySuffix b).2 := by
  rw [normalize_eq, normalize_eq]
  exact withDimensions_inj (splitArraySuffix_spec a).1.normalizeBase (splitArraySuffix_spec b).1.normalizeBase

end NameBridge.TypeName
