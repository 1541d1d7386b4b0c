import Std.Data.HashMap

/-!
One-to-one pairings of names.

A `Pairing` is kept as two maps that are each other's inverse. A new pair replaces every pair that
shares a name with it, on either side.
-/

namespace NameBridge

/-- Names on an obfuscated and a declared side, paired one to one. -/
structure Pairing where
  /-- The declared name of an obfuscated one. -/
  toDeclared : Std.HashMap String String := ∅
  /-- The obfuscated name of a declared one. -/
  toObfuscated : Std.HashMap String String := ∅

namespace Pairing

def empty : Pairing := {}

/-- Let `names` lead from `key` to `name`, and no longer lead `back` to `key` from what `key` led to before. -/
def link (names back : Std.HashMap String String) (key name : String) :
    Std.HashMap String String × Std.HashMap String String :=
  (names.insert key name,
    match names[key]? with
    | some old => if old ≠ name ∧ back[old]? = some key then back.erase old else back
    | none => back)

/-- Pair `obfuscated` with `declared`, in place of every pair that holds either. -/
def insert (p : Pairing) (obfuscated declared : String) : Pairing :=
  let forth := link p.toDeclared p.toObfuscated obfuscated declared
  let back := link forth.2 forth.1 declared obfuscated
  { toDeclared := back.2, toObfuscated := back.1 }

/-- The declared name paired with an obfuscated one. -/
def declared? (p : Pairing) (obfuscated : String) : Option String := p.toDeclared[obfuscated]?

/-- The obfuscated name paired with a declared one. -/
def obfuscated? (p : Pairing) (declared : String) : Option String := p.toObfuscated[declared]?

def size (p : Pairing) : Nat := p.toDeclared.size

/-- The pairs (obfuscated, declared), in no particular order. -/
def toList (p : Pairing) : List (String × String) := p.toDeclared.toList

theorem getElem?_link_fst (names back : Std.HashMap String String) (key name other : String) :
    (link names back key name).1[other]? = if other = key then some name else names[other]? := by
  simp only [link, Std.HashMap.getElem?_insert, beq_iff_eq, @eq_comm _ other key]

theorem getElem?_link_snd (names back : Std.HashMap String String) (key name other : String) :
    (link names back key name).2[other]? =
      if other ≠ name ∧ names[key]? = some other ∧ back[other]? = some key then none else back[other]? := by
  unfold link
  dsimp only
  cases hkey : names[key]? with
  | none => simp
  | some old =>
    by_cases hother : old = other
    · subst hother
      by_cases hback : old ≠ name ∧ back[old]? = some key
      · simp [hback]
      · simp [hback]
    · have hkept : (back.erase old)[other]? = back[other]? := by
        simp [Std.HashMap.getElem?_erase, hother]
      dsimp only
      split <;> simp [hother, hkept]

@[simp] theorem declared?_empty (o : String) : empty.declared? o = none := by
  simp [empty, declared?]

@[simp] theorem obfuscated?_empty (d : String) : empty.obfuscated? d = none := by
  simp [empty, obfuscated?]

/-- After a new pair an obfuscated name leads to its declared name, and a name that was paired with that to none. -/
theorem declared?_insert (p : Pairing) (o d o' : String) :
    (p.insert o d).declared? o' =
      if o' = o then some d
      else if p.obfuscated? d = some o' ∧ p.declared? o' = some d then none else p.declared? o' := by
  simp only [declared?, obfuscated?, insert, getElem?_link_fst, getElem?_link_snd]
  grind

theorem obfuscated?_insert (p : Pairing) (o d d' : String) :
    (p.insert o d).obfuscated? d' =
      if d' = d then some o
      else if p.declared? o = some d' ∧ p.obfuscated? d' = some o then none else p.obfuscated? d' := by
  simp only [declared?, obfuscated?, insert, getElem?_link_fst, getElem?_link_snd]
  grind

end Pairing

end NameBridge
