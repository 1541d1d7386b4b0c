import Mathlib.Data.Finset.Card
import Mathlib.Data.Finset.Dedup
import Mathlib.Logic.Relation
import Mathlib.Tactic.Tauto
import NameBridge.Resolve.Basic

/-!
A class and its supertypes in depth-first preorder.

The order is given by recursion: a class, then what its direct supertypes give one after the other, and
classes seen before are skipped. Whatever the hierarchy holds, each class that can be reached comes up
(`mem_preorder_iff`). Where no class is above itself there is also a plain recursion along the edges,
without any record of what was seen (`inherited`), and both find the same first match: all that can be
reached from a class seen before has been searched in vain.
-/

namespace NameBridge

namespace Hierarchy

variable (h : Hierarchy)

/-- The keys of the direct supertypes of a class, in declaration order. -/
def above (name : String) : List String := (h.supertypes name).map classKey

/-- The second class is a direct supertype of the first. -/
def Edge (name super : String) : Prop := super ∈ h.above name

/-- The second class is the first or one of its direct or indirect supertypes. -/
def Reaches : String → String → Prop := Relation.ReflTransGen h.Edge

/-- No class is a direct or indirect supertype of itself. -/
def Acyclic : Prop := ∀ name, ¬Relation.TransGen h.Edge name name

/-! ## Depth-first preorder -/

theorem unseen_append_le (more seen : List String) : h.unseen (more ++ seen) ≤ h.unseen seen := by
  induction more with
  | nil => exact Nat.le_refl _
  | cons name more ih => exact Nat.le_trans (h.unseen_cons_le (more ++ seen) name) ih

theorem lex_of_le {a b m n : Nat} (hle : a ≤ b) (hlt : m < n) :
    Prod.Lex (· < ·) (· < ·) (a, m) (b, n) := by
  rcases Nat.lt_or_eq_of_le hle with hab | rfl
  · exact .left _ _ hab
  · exact .right _ hlt

/-- These classes in depth-first preorder: each class is followed by what its supertypes give, and then
by what is left. Classes already seen are skipped. -/
def preorder (seen : List String) : List String → List String
  | [] => []
  | name :: names =>
    if _h : name ∈ seen then preorder seen names
    else
      let below := preorder (name :: seen) (h.above name)
      name :: below ++ preorder (below ++ name :: seen) names
termination_by names => (h.unseen seen, names.length)
decreasing_by
  · exact .right _ (Nat.lt_succ_self _)
  · rcases h.unseen_cons_lt_or _h with hlt | hnil
    · exact .left _ _ hlt
    · rw [above, hnil]
      exact lex_of_le (h.unseen_cons_le seen name) (Nat.zero_lt_succ _)
  · refine lex_of_le ?_ (Nat.lt_succ_self _)
    exact Nat.le_trans (h.unseen_append_le _ _) (h.unseen_cons_le seen name)

variable {h}

theorem preorder_nil (seen : List String) : h.preorder seen [] = [] := by
  rw [preorder]

theorem preorder_seen {seen : List String} {name : String} (hs : name ∈ seen) (names : List String) :
    h.preorder seen (name :: names) = h.preorder seen names := by
  rw [preorder, dif_pos hs]

theorem preorder_new {seen : List String} {name : String} (hs : name ∉ seen) (names : List String) :
    h.preorder seen (name :: names) = name :: h.preorder (name :: seen) (h.above name) ++
      h.preorder (h.preorder (name :: seen) (h.above name) ++ name :: seen) names := by
  rw [preorder, dif_neg hs]

theorem preorder_congr {seen seen' : List String} (hs : ∀ x, x ∈ seen ↔ x ∈ seen') (names : List String) :
    h.preorder seen names = h.preorder seen' names := by
  fun_induction preorder h seen names generalizing seen' with
  | case1 seen => rw [preorder_nil]
  | case2 seen name names hn ih => rw [preorder_seen ((hs name).1 hn), ih hs]
  | case3 seen name names hn below ih₁ =>
    rename_i ih₂
    have hn' : name ∉ seen' := fun h => hn ((hs name).2 h)
    have hbelow : below = h.preorder (name :: seen') (h.above name) := ih₁ (by simp [hs])
    have hrest : h.preorder (below ++ name :: seen) names = h.preorder (below ++ name :: seen') names :=
      ih₂ (by simp [hs])
    rw [preorder_new hn', ← hbelow, hrest]

theorem preorder_append (seen names names' : List String) :
    h.preorder seen (names ++ names') =
      h.preorder seen names ++ h.preorder (h.preorder seen names ++ seen) names' := by
  fun_induction preorder h seen names with
  | case1 seen => rfl
  | case2 seen name names hn ih => rw [List.cons_append, preorder_seen hn, ih]
  | case3 seen name names hn below _ ih =>
    rw [List.cons_append, preorder_new hn, ih, List.cons_append, List.append_assoc]
    -- the classes seen are the same, in another order
    congr 3
    refine preorder_congr (fun x => ?_) names'
    simp only [List.mem_append, List.mem_cons]
    tauto

/-- With a new class first, what its supertypes give comes before the rest, as if they stood in its
place. -/
theorem preorder_new_append {seen : List String} {name : String} (hs : name ∉ seen) (names : List String) :
    h.preorder seen (name :: names) = name :: h.preorder (name :: seen) (h.above name ++ names) := by
  rw [preorder_new hs, preorder_append, List.cons_append]

/-! ## Reachable classes -/

/-- What is visited can be reached from one of the classes to visit. -/
theorem reaches_of_mem_preorder {seen names : List String} {x : String} (hx : x ∈ h.preorder seen names) :
    ∃ name ∈ names, h.Reaches name x := by
  fun_induction preorder h seen names with
  | case1 => cases hx
  | case2 seen name names _ ih =>
    obtain ⟨y, hy, hr⟩ := ih hx
    exact ⟨y, List.mem_cons_of_mem _ hy, hr⟩
  | case3 seen name names _ below ih₁ ih₂ =>
    rcases List.mem_cons.1 hx with rfl | hx
    · exact ⟨x, List.mem_cons_self, .refl⟩
    · rcases List.mem_append.1 hx with hx | hx
      · obtain ⟨y, hy, hr⟩ := ih₁ hx
        exact ⟨name, List.mem_cons_self, .head hy hr⟩
      · obtain ⟨y, hy, hr⟩ := ih₂ hx
        exact ⟨y, List.mem_cons_of_mem _ hy, hr⟩

/-- A class to visit is visited, unless it has been seen. -/
theorem mem_preorder_or_mem_seen (seen : List String) {names : List String} {name : String} (hn : name ∈ names) :
    name ∈ h.preorder seen names ∨ name ∈ seen := by
  fun_induction preorder h seen names with
  | case1 => cases hn
  | case2 seen first names hfirst ih =>
    rcases List.mem_cons.1 hn with rfl | hn
    · exact .inr hfirst
    · exact ih hn
  | case3 seen first names _ below _ ih₂ =>
    rcases List.mem_cons.1 hn with rfl | hn
    · exact .inl (by simp)
    · rcases ih₂ hn with hm | hm
      · exact .inl (by simp [hm])
      · simp only [List.mem_append, List.mem_cons] at hm ⊢
        tauto

/-- The supertypes of a visited class are visited, unless they had been seen before. -/
theorem edge_closed_preorder {seen names : List String} {x y : String} (hx : x ∈ h.preorder seen names)
    (hedge : h.Edge x y) : y ∈ h.preorder seen names ∨ y ∈ seen := by
  fun_induction preorder h seen names with
  | case1 => cases hx
  | case2 seen name names _ ih => exact ih hx
  | case3 seen name names _ below ih₁ ih₂ =>
    have hcases : y ∈ below ∨ y ∈ name :: seen ∨ y ∈ h.preorder (below ++ name :: seen) names := by
      rcases List.mem_cons.1 hx with rfl | hx
      · exact (mem_preorder_or_mem_seen _ hedge).imp_right .inl
      · rcases List.mem_append.1 hx with hx | hx
        · exact (ih₁ hx).imp_right .inl
        · rcases ih₂ hx with hm | hm
          · exact .inr (.inr hm)
          · exact (List.mem_append.1 hm).imp_right .inl
    simp only [List.cons_append, List.mem_cons, List.mem_append] at hcases ⊢
    tauto

/-- From an empty start exactly the reachable classes are visited. -/
theorem mem_preorder_iff {name x : String} : x ∈ h.preorder [] [name] ↔ h.Reaches name x := by
  constructor
  · intro hx
    obtain ⟨y, hy, hr⟩ := reaches_of_mem_preorder hx
    rwa [List.mem_singleton.1 hy] at hr
  · intro hr
    induction hr with
    | refl => exact (mem_preorder_or_mem_seen [] List.mem_cons_self).resolve_right (by simp)
    | tail _ hedge ih => exact (edge_closed_preorder ih hedge).resolve_right (by simp)

/-! ## Hierarchies without cycles -/

def superKeys (h : Hierarchy) : List String := h.edges.flatMap fun (_, supertypes) => supertypes.map classKey

theorem mem_superKeys {x y : String} (hedge : h.Edge x y) : y ∈ h.superKeys := by
  unfold Edge above supertypes at hedge
  cases hl : h.edges.lookup x with
  | none => simp [hl] at hedge
  | some supertypes =>
    rw [hl, Option.getD_some] at hedge
    obtain ⟨l₁, l₂, hedges, _⟩ := List.lookup_eq_some_iff.1 hl
    exact List.mem_flatMap.2 ⟨(x, supertypes), by simp [hedges], hedge⟩

open Classical in
/-- The direct and indirect supertypes of a class. -/
noncomputable def ancestors (h : Hierarchy) (name : String) : Finset String :=
  h.superKeys.toFinset.filter (Relation.TransGen h.Edge name)

theorem mem_ancestors {name x : String} : x ∈ h.ancestors name ↔ Relation.TransGen h.Edge name x := by
  classical
  constructor
  · intro hx
    exact (Finset.mem_filter.1 hx).2
  · intro hx
    obtain ⟨y, _, hedge⟩ := Relation.TransGen.tail'_iff.1 hx
    exact Finset.mem_filter.2 ⟨List.mem_toFinset.2 (mem_superKeys hedge), hx⟩

/-- Without cycles fewer classes are above a supertype. -/
theorem Acyclic.card_ancestors_lt (hac : h.Acyclic) {name super : String} (hedge : h.Edge name super) :
    (h.ancestors super).card < (h.ancestors name).card := by
  have hsub : h.ancestors super ⊆ h.ancestors name := fun x hx => mem_ancestors.2 (.head hedge (mem_ancestors.1 hx))
  refine Finset.card_lt_card ((Finset.ssubset_iff_of_subset hsub).2 ⟨super, ?_, ?_⟩)
  · exact mem_ancestors.2 (.single hedge)
  · exact fun hx => hac super (mem_ancestors.1 hx)

variable {α : Type}

/-- The plain recursive search: what a class has itself, or else the first thing that one of its direct
supertypes gives. -/
noncomputable def inherited (hac : h.Acyclic) (own : String → Option α) (name : String) : Option α :=
  (own name).or ((h.above name).attach.findSome? fun super => inherited hac own super.1)
termination_by (h.ancestors name).card
decreasing_by exact hac.card_ancestors_lt super.2

variable {own : String → Option α}

theorem inherited_eq (hac : h.Acyclic) (own : String → Option α) (name : String) :
    h.inherited hac own name = (own name).or ((h.above name).findSome? (h.inherited hac own)) := by
  rw [inherited, List.findSome?_subtype (g := h.inherited hac own) (by simp), List.unattach_attach]

/-- A search in vain has looked everywhere. -/
theorem inherited_eq_none_of_reaches {hac : h.Acyclic} {name x : String} (hnone : h.inherited hac own name = none)
    (hr : h.Reaches name x) : h.inherited hac own x = none := by
  induction hr using Relation.ReflTransGen.head_induction_on with
  | refl => exact hnone
  | head hedge _ ih =>
    rw [inherited_eq, Option.or_eq_none_iff, List.findSome?_eq_none_iff] at hnone
    exact ih (hnone.2 _ hedge)

/-- Both searches find the same, if what has been seen and can be reached was searched in vain. -/
theorem findSome?_preorder (hac : h.Acyclic) (seen names : List String)
    (hvain : ∀ s ∈ seen, ∀ name ∈ names, h.Reaches name s → h.inherited hac own s = none) :
    (h.preorder seen names).findSome? own = names.findSome? (h.inherited hac own) := by
  fun_induction preorder h seen names with
  | case1 => rfl
  | case2 seen name names hn ih =>
    have hnone : h.inherited hac own name = none := hvain name hn name List.mem_cons_self .refl
    rw [ih fun s hs x hx => hvain s hs x (List.mem_cons_of_mem _ hx)]
    simp [hnone]
  | case3 seen name names hn below ih₁ ih₂ =>
    -- the class itself counts as seen below, but without cycles it cannot be reached from there
    have hbelow : below.findSome? own = (h.above name).findSome? (h.inherited hac own) := by
      refine ih₁ fun s hs super hsuper hr => ?_
      rcases List.mem_cons.1 hs with rfl | hs
      · exact absurd (Relation.TransGen.head' hsuper hr) (hac s)
      · exact hvain s hs name List.mem_cons_self (.head hsuper hr)
    have hfirst : (name :: below).findSome? own = h.inherited hac own name := by
      rw [inherited_eq, ← hbelow, ← List.singleton_append, List.findSome?_append, List.findSome?_singleton]
    rw [List.findSome?_append, hfirst, ← List.singleton_append (l := names), List.findSome?_append,
      List.findSome?_singleton]
    cases hname : h.inherited hac own name with
    | some found => rfl
    | none =>
      -- all that was visited below has been searched in vain along with the class
      rw [Option.none_or, Option.none_or]
      refine ih₂ fun s hs x hx hr => ?_
      rcases List.mem_append.1 hs with hs | hs
      · obtain ⟨super, hsuper, hreach⟩ := reaches_of_mem_preorder hs
        exact inherited_eq_none_of_reaches hname (.head hsuper hreach)
      · rcases List.mem_cons.1 hs with rfl | hs
        · exact hname
        · exact hvain s hs x (List.mem_cons_of_mem _ hx) hr

end Hierarchy

end NameBridge
