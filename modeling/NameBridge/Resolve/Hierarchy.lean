/-!
Type hierarchies: the direct supertypes of each class, in declaration order. They come from outside
and may hold anything, also cycles and unknown classes.
-/

namespace NameBridge

/-- A map from class names to direct supertypes; the newest edge of a class comes first. -/
structure Hierarchy where
  edges : List (String × List String) := []
  deriving DecidableEq, Repr

namespace Hierarchy

def empty : Hierarchy := {}

/-- Give a class these direct supertypes, in place of any it had. -/
def insert (h : Hierarchy) (name : String) (supertypes : List String) : Hierarchy :=
  ⟨(name, supertypes) :: h.edges.filter (·.1 ≠ name)⟩

/-- The hierarchy with these entries; a later entry replaces an earlier one of the same class. -/
def ofList (entries : List (String × List String)) : Hierarchy :=
  entries.foldl (fun h (name, supertypes) => h.insert name supertypes) empty

/-- The direct supertypes of a class; none if the class is not known. -/
def supertypes (h : Hierarchy) (name : String) : List String := (h.edges.lookup name).getD []

/-- How many known classes are not among those seen. -/
def unseen (h : Hierarchy) (seen : List String) : Nat := (h.edges.filter (·.1 ∉ seen)).length

theorem unseen_cons_le (h : Hierarchy) (seen : List String) (name : String) :
    h.unseen (name :: seen) ≤ h.unseen seen := by
  unfold unseen
  rw [← List.countP_eq_length_filter, ← List.countP_eq_length_filter]
  exact List.countP_mono_left fun e _ he => by simp_all

theorem lookup_eq_none_of_unseen_eq {name : String} {seen : List String}
    (hname : name ∉ seen) : ∀ edges : List (String × List String),
    (⟨edges⟩ : Hierarchy).unseen (name :: seen) = (⟨edges⟩ : Hierarchy).unseen seen →
      edges.lookup name = none
  | [], _ => rfl
  | (key, value) :: edges, heq => by
    have hle := unseen_cons_le ⟨edges⟩ seen name
    unfold unseen at heq hle
    by_cases hk : key = name
    · subst hk
      simp [hname] at heq
      simp at hle
      omega
    · have ih := lookup_eq_none_of_unseen_eq hname edges
      have hne : (name == key) = false := by simpa using Ne.symm hk
      rw [List.lookup_cons, hne]
      refine ih ?_
      unfold unseen
      by_cases hs : key ∈ seen <;> simpa [hk, hs] using heq

/-- Seeing a new class either leaves fewer known classes unseen, or the class has no supertypes. -/
theorem unseen_cons_lt_or (h : Hierarchy) {seen : List String} {name : String}
    (hname : name ∉ seen) : h.unseen (name :: seen) < h.unseen seen ∨ h.supertypes name = [] := by
  rcases Nat.lt_or_eq_of_le (unseen_cons_le h seen name) with hlt | heq
  · exact .inl hlt
  · exact .inr (by simp [supertypes, lookup_eq_none_of_unseen_eq hname h.edges heq])

end Hierarchy

end NameBridge
