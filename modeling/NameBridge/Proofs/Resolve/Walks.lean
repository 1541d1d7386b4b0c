import Mathlib.Algebra.Order.BigOperators.Group.Finset
import Mathlib.Algebra.Order.Ring.Nat
import NameBridge.Proofs.Resolve.Methods

/-!
How long the walk up a hierarchy takes.

The search for a method takes classes off a list of classes to visit and puts supertypes on it, one list of supertypes
for each class that it searches (`Hierarchy.length_popped_walk`). What it searches is a first part of the depth-first
preorder (`Hierarchy.searched_walk`), where no class comes twice and all can be reached, so each list is put there at
most once. Cycles, repetitions and unknown classes make no difference.
-/

namespace NameBridge

/-- What a search along a hierarchy does: the classes it takes off the list of those to visit, the ones among them that
it searches, and what it finds. -/
structure Walk (α : Type) where
  popped : List String := []
  searched : List String := []
  found : Option α := none

namespace Hierarchy

variable {h : Hierarchy}

/-! ## No class comes twice -/

theorem not_mem_seen_of_mem_preorder {seen names : List String} {x : String} (hx : x ∈ h.preorder seen names) :
    x ∉ seen := by
  fun_induction preorder h seen names with
  | case1 => cases hx
  | case2 seen name names _ ih => exact ih hx
  | case3 seen name names hn below ih₁ ih₂ =>
    rcases List.mem_cons.1 hx with rfl | hx
    · exact hn
    · rcases List.mem_append.1 hx with hx | hx
      · exact fun hs => ih₁ hx (List.mem_cons_of_mem _ hs)
      · exact fun hs => ih₂ hx (List.mem_append_right _ (List.mem_cons_of_mem _ hs))

theorem nodup_preorder (seen names : List String) : (h.preorder seen names).Nodup := by
  fun_induction preorder h seen names with
  | case1 => exact List.nodup_nil
  | case2 seen name names _ ih => exact ih
  | case3 seen name names hn below ih₁ ih₂ =>
    refine List.Nodup.append (List.nodup_cons.2 ⟨fun hx => ?_, ih₁⟩) ih₂ fun x hx hrest => ?_
    · exact not_mem_seen_of_mem_preorder hx List.mem_cons_self
    · refine not_mem_seen_of_mem_preorder hrest ?_
      rcases List.mem_cons.1 hx with rfl | hx
      · exact List.mem_append_right _ List.mem_cons_self
      · exact List.mem_append_left _ hx

/-! ## The classes that can be reached -/

/-- A class and its direct and indirect supertypes. -/
noncomputable def reachable (h : Hierarchy) (name : String) : Finset String := Insert.insert name (h.ancestors name)

theorem mem_reachable {name x : String} : x ∈ h.reachable name ↔ h.Reaches name x := by
  rw [reachable, Finset.mem_insert, mem_ancestors, Reaches, Relation.reflTransGen_iff_eq_or_transGen]

/-! ## The walk -/

variable {α : Type}

/-- The search of `Resolver.search` with a record of what it does. -/
def walk (h : Hierarchy) (own : String → Option α) (seen : List String) : List String → Walk α
  | [] => {}
  | name :: pending =>
    if _h : name ∈ seen then
      let rest := walk h own seen pending
      { rest with popped := name :: rest.popped }
    else
      match own name with
      | some found => { popped := [name], searched := [name], found := some found }
      | none =>
        let rest := walk h own (name :: seen) (h.above name ++ pending)
        { rest with popped := name :: rest.popped, searched := name :: rest.searched }
termination_by pending => (h.unseen seen, pending.length)
decreasing_by
  · exact .right _ (Nat.lt_succ_self _)
  · rcases h.unseen_cons_lt_or _h with hlt | hnil
    · exact .left _ _ hlt
    · rw [above, hnil]
      exact lex_of_le (h.unseen_cons_le seen name) (Nat.lt_succ_self _)

section

variable (h) (own : String → Option α)

/-- A walk searches the classes of the preorder from the first on, all of them unless it finds something. -/
theorem searched_walk (seen pending : List String) :
    ∃ rest, h.preorder seen pending = (h.walk own seen pending).searched ++ rest ∧
      ((h.walk own seen pending).found = none → rest = []) := by
  fun_induction walk h own seen pending with
  | case1 => exact ⟨[], preorder_nil _, fun _ => rfl⟩
  | case2 seen name pending hn rest ih =>
    rw [preorder_seen hn]
    exact ih
  | case3 seen name pending hn found hown =>
    exact ⟨_, preorder_new hn pending, fun hnone => nomatch hnone⟩
  | case4 seen name pending hn hown rest ih =>
    obtain ⟨others, hothers, hnil⟩ := ih
    exact ⟨others, by rw [preorder_new_append hn, hothers, List.cons_append], hnil⟩

/-- What is taken off the list was on it at the start or is a supertype of a class that was searched. -/
theorem length_popped_walk (seen pending : List String) :
    let walk := h.walk own seen pending
    let entries := pending.length + (walk.searched.map fun name => (h.supertypes name).length).sum
    walk.popped.length ≤ entries ∧ (walk.found = none → walk.popped.length = entries) := by
  fun_induction walk h own seen pending with
  | case1 => exact ⟨Nat.le_refl _, fun _ => rfl⟩
  | case2 seen name pending hn rest ih =>
    obtain ⟨hle, heq⟩ := ih
    simp only [rest, List.length_cons]
    exact ⟨by omega, fun hnone => by rw [heq hnone]; omega⟩
  | case3 seen name pending hn found hown =>
    simp only [List.length_cons, List.length_nil]
    exact ⟨by omega, fun hnone => nomatch hnone⟩
  | case4 seen name pending hn hown rest ih =>
    obtain ⟨hle, heq⟩ := ih
    have hpending : (h.above name ++ pending).length = (h.supertypes name).length + pending.length := by
      rw [List.length_append, above, List.length_map]
    rw [hpending] at hle heq
    simp only [rest, List.length_cons, List.map_cons, List.sum_cons]
    exact ⟨by omega, fun hnone => by rw [heq hnone]; omega⟩

theorem nodup_searched_walk (seen pending : List String) : (h.walk own seen pending).searched.Nodup := by
  obtain ⟨rest, hrest, -⟩ := searched_walk h own seen pending
  exact (hrest ▸ nodup_preorder seen pending).of_append_left

end

variable {own : String → Option α}

theorem mem_reachable_of_mem_searched {name x : String} (hx : x ∈ (h.walk own [] [name]).searched) :
    x ∈ h.reachable name := by
  obtain ⟨rest, hrest, -⟩ := searched_walk h own [] [name]
  exact mem_reachable.2 (mem_preorder_iff.1 (hrest ▸ List.mem_append_left rest hx))

theorem toFinset_searched_walk {name : String} (hnone : (h.walk own [] [name]).found = none) :
    (h.walk own [] [name]).searched.toFinset = h.reachable name := by
  obtain ⟨rest, hrest, hnil⟩ := searched_walk h own [] [name]
  rw [hnil hnone, List.append_nil] at hrest
  ext x
  rw [List.mem_toFinset, ← hrest, mem_preorder_iff, mem_reachable]

/-- From one class on no more is taken off the list than this class and, once each, the supertypes of every class that
can be reached; it is all of these if nothing is found. -/
theorem length_popped_le (h : Hierarchy) (own : String → Option α) (name : String) :
    let walk := h.walk own [] [name]
    let entries := 1 + ∑ x ∈ h.reachable name, (h.supertypes x).length
    walk.popped.length ≤ entries ∧ (walk.found = none → walk.popped.length = entries) := by
  intro walk entries
  have hsum : (walk.searched.map fun x => (h.supertypes x).length).sum =
      ∑ x ∈ walk.searched.toFinset, (h.supertypes x).length :=
    (List.sum_toFinset _ (nodup_searched_walk h own [] [name])).symm
  obtain ⟨hle, heq⟩ := length_popped_walk h own [] [name]
  rw [hsum, List.length_singleton] at hle heq
  constructor
  · have hsub : walk.searched.toFinset ⊆ h.reachable name := fun x hx =>
      mem_reachable_of_mem_searched (List.mem_toFinset.1 hx)
    exact hle.trans (Nat.add_le_add_left (Finset.sum_le_sum_of_subset hsub) 1)
  · intro hnone
    rw [heq hnone, toFinset_searched_walk hnone]

end Hierarchy

namespace Resolver

theorem found_walk (r : Resolver) (h : Hierarchy) (method : String) (types seen pending : List String) :
    (h.walk (r.ownOverload? method types) seen pending).found = r.search h method types seen pending := by
  fun_induction search r h method types seen pending with
  | case1 => rw [Hierarchy.walk]
  | case2 seen name pending hn ih => rw [Hierarchy.walk, dif_pos hn, ih]
  | case3 seen name pending hn found hown => rw [Hierarchy.walk, dif_neg hn, hown]
  | case4 seen name pending hn hown ih =>
    rw [Hierarchy.walk, dif_neg hn, hown]
    exact ih

/-- The walk of a method lookup. Nothing is visited if a table is missing. -/
def walk (r : Resolver) (owner method : String) (arguments : List String) (h : Hierarchy) : Walk MethodEntry :=
  if r.isComplete then
    h.walk (r.ownOverload? method (arguments.map r.translateType)) [] [classKey owner]
  else {}

/-- On every hierarchy a method lookup walks to an end. It searches no class twice, only classes that can be reached from
the owner, in depth-first preorder, and takes no more classes off its list than the owner and the direct supertypes of
each of these, repetitions and unknown classes counted; it goes through all of that if nothing is found. -/
theorem method?_walks_to_an_end (r : Resolver) (owner method : String) (arguments : List String) (h : Hierarchy) :
    let walk := r.walk owner method arguments h
    let entries := 1 + ∑ name ∈ h.reachable (classKey owner), (h.supertypes name).length
    walk.found = r.method? owner method arguments h ∧
    walk.searched.Nodup ∧
    (∀ name ∈ walk.searched, h.Reaches (classKey owner) name) ∧
    walk.searched <+: h.preorder [] [classKey owner] ∧
    walk.popped.length ≤ entries ∧
    (r.isComplete → walk.found = none →
      walk.popped.length = entries ∧ ∀ name, h.Reaches (classKey owner) name → name ∈ walk.searched) := by
  intro walk entries
  by_cases hr : r.isComplete
  · let own := r.ownOverload? method (arguments.map r.translateType)
    have hwalk : walk = h.walk own [] [classKey owner] := if_pos hr
    have hfound : walk.found = r.method? owner method arguments h := by
      rw [hwalk, found_walk, method?, if_pos hr]
    obtain ⟨hle, heq⟩ := h.length_popped_le own (classKey owner)
    obtain ⟨rest, hrest, -⟩ := h.searched_walk own [] [classKey owner]
    have hnodup := h.nodup_searched_walk own [] [classKey owner]
    rw [← hwalk] at hle heq hrest hnodup
    refine ⟨hfound, hnodup, fun name hname => ?_, ⟨rest, hrest.symm⟩, hle,
      fun _ hnone => ⟨heq hnone, fun name hreach => ?_⟩⟩
    · exact Hierarchy.mem_preorder_iff.1 (hrest ▸ List.mem_append_left rest hname)
    · rw [hwalk] at hnone ⊢
      rw [← List.mem_toFinset, Hierarchy.toFinset_searched_walk hnone]
      exact Hierarchy.mem_reachable.2 hreach
  · have hwalk : walk = {} := if_neg hr
    have hfound : walk.found = r.method? owner method arguments h := by
      rw [hwalk, method?, if_neg hr]
    rw [hwalk] at hfound ⊢
    exact ⟨hfound, List.nodup_nil, by simp, List.nil_prefix, Nat.zero_le _, fun hcomplete => absurd hcomplete hr⟩

/-- A class above itself, a supertype in two spellings, one that is not known, and a cycle. -/
def tangle : Hierarchy := .ofList [("net.A", ["net.A", "net.B<T>", " net.B", "net.X"]), ("net.B", ["net.A"])]

/-- Without a match each of the three classes is searched once, and each supertype is visited. -/
theorem walk_tangle :
    let walk := twoClasses.walk "net.A" "f" [] tangle
    walk.searched = ["net.A", "net.B", "net.X"] ∧ walk.found = none ∧
    walk.popped.length = 1 + ∑ name ∈ tangle.reachable "net.A", (tangle.supertypes name).length := by
  intro walk
  have hkey : classKey "net.A" = "net.A" := by decide
  have hcomplete : twoClasses.isComplete = true := rfl
  have hown : ∀ name ∈ ["net.A", "net.B", "net.X"], twoClasses.ownOverload? "f" [] name = none := by
    have hB : classKey "net.B" = "net.B" := by decide
    have hX : classKey "net.X" = "net.X" := by decide
    simp [hasBuilt_twoClasses.ownOverload?_eq, declaredMatch?, counterpart?_twoClasses _ _ hkey,
      counterpart?_twoClasses _ _ hB, counterpart?_twoClasses _ _ hX, ClassEntry.ofMembers, ClassEntry.addMember,
      ClassEntry.ofNames]
  have hwalk : walk = ⟨["net.A", "net.A", "net.B", "net.A", "net.B", "net.X"], ["net.A", "net.B", "net.X"], none⟩ := by
    have hA : tangle.above "net.A" = ["net.A", "net.B", "net.B", "net.X"] := by decide
    have hB : tangle.above "net.B" = ["net.A"] := by decide
    have hX : tangle.above "net.X" = [] := by decide
    simp only [List.forall_mem_cons] at hown
    simp [walk, Resolver.walk, hcomplete, hkey, Hierarchy.walk, hA, hB, hX, hown]
  have hlength := (method?_walks_to_an_end twoClasses "net.A" "f" [] tangle).2.2.2.2.2 hcomplete
  rw [hkey] at hlength
  have hnone : walk.found = none := by rw [hwalk]
  exact ⟨by rw [hwalk], hnone, (hlength hnone).1⟩

end Resolver

end NameBridge
