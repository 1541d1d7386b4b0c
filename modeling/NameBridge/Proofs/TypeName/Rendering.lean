import NameBridge.Proofs.Text.Plain
import NameBridge.Proofs.TypeName.Suffixes
import NameBridge.Proofs.TypeName.TypeTexts

/-!
Types written in both forms.

`TypeTerm` is a type as such: a primitive or a class, with array dimensions. It is written as a descriptor,
with prefix brackets and slashes, and as a source form, with suffix brackets and dots. Both readers give its
name in the common vocabulary (`ofSignature_signature`, `normalize_source`).
-/

namespace NameBridge

open Text

/-! ## Names -/

/-- A name of plain characters. -/
structure SimpleName where
  chars : List Char
  ne_nil : chars ≠ []
  uses : Uses [] chars

namespace SimpleName

def ofString (s : String) (ne_nil : s.toList ≠ []) (uses : Uses [] s.toList) : SimpleName := ⟨s.toList, ne_nil, uses⟩

def text (n : SimpleName) : String := String.ofList n.chars

theorem startsPlain (n : SimpleName) : StartsPlain n.chars := n.uses.startsPlain n.ne_nil

theorem endsPlain (n : SimpleName) : EndsPlain n.chars := n.uses.endsPlain n.ne_nil

end SimpleName

/-- The name of a class: simple names, each but the last the name of a package. -/
structure ClassName where
  first : SimpleName
  rest : List SimpleName := []

namespace ClassName

/-- The parts after the first, each behind a dot or a slash; `slash` tells which. -/
def spelledRest (slash : Nat → Bool) : List SimpleName → List Char
  | [] => []
  | part :: parts => (if slash 0 then '/' else '.') :: part.chars ++ spelledRest (fun i => slash (i + 1)) parts

/-- The name with a slash for every separator that `slash` holds of, and a dot for every other. -/
def spelled (n : ClassName) (slash : Nat → Bool) : List Char := n.first.chars ++ spelledRest slash n.rest

/-- The name with dots. -/
def dotted (n : ClassName) : List Char := n.spelled fun _ => false

/-- The name with slashes. -/
def slashed (n : ClassName) : List Char := n.spelled fun _ => true

def text (n : ClassName) : String := String.ofList n.dotted

theorem uses_spelledRest (slash : Nat → Bool) (parts : List SimpleName) :
    Uses ['.', '/'] (spelledRest slash parts) := by
  induction parts generalizing slash with
  | nil => exact .nil
  | cons part parts ih =>
    refine .mark ?_ ((part.uses.mono (List.nil_subset _)).append (ih _))
    split <;> simp

theorem uses_spelled (n : ClassName) (slash : Nat → Bool) : Uses ['.', '/'] (n.spelled slash) :=
  (n.first.uses.mono (List.nil_subset _)).append (uses_spelledRest slash n.rest)

theorem uses_spelledRest_dotted (parts : List SimpleName) : Uses ['.'] (spelledRest (fun _ => false) parts) := by
  induction parts with
  | nil => exact .nil
  | cons part parts ih => exact .mark List.mem_cons_self ((part.uses.mono (List.nil_subset _)).append ih)

theorem uses_dotted (n : ClassName) : Uses ['.'] n.dotted :=
  (n.first.uses.mono (List.nil_subset _)).append (uses_spelledRest_dotted n.rest)

theorem startsPlain_spelled (n : ClassName) (slash : Nat → Bool) : StartsPlain (n.spelled slash) :=
  n.first.startsPlain.append _

theorem endsPlain_spelled (n : ClassName) (slash : Nat → Bool) : EndsPlain (n.spelled slash) := by
  have hrest (parts : List SimpleName) (slash : Nat → Bool) (cs : List Char) (hcs : EndsPlain cs) :
      EndsPlain (cs ++ spelledRest slash parts) := by
    induction parts generalizing slash cs with
    | nil => rwa [spelledRest, List.append_nil]
    | cons part parts ih =>
      have hpart : EndsPlain (cs ++ (if slash 0 then '/' else '.') :: part.chars) :=
        (part.endsPlain.append [_]).append cs
      simpa [spelledRest] using ih (fun i => slash (i + 1)) _ hpart
  exact hrest n.rest slash _ n.first.endsPlain

end ClassName

namespace TypeName

theorem map_dot_spelledRest (slash : Nat → Bool) (parts : List SimpleName) :
    ((ClassName.spelledRest slash parts).map fun c => if c = '/' then '.' else c) =
      ClassName.spelledRest (fun _ => false) parts := by
  induction parts generalizing slash with
  | nil => rfl
  | cons part parts ih =>
    have hsep : (if (if slash 0 then '/' else '.') = '/' then '.' else (if slash 0 then '/' else '.')) = '.' := by
      cases slash 0 <;> decide
    have hpart : '/' ∉ part.chars := part.uses.not_mem (by decide) List.not_mem_nil
    rw [ClassName.spelledRest, List.cons_append, List.map_cons, List.map_append, hsep, TypeName.map_dot_of_not_mem hpart, ih]
    rfl

/-- Slashes in a class name count as dots. -/
theorem map_dot_spelled (n : ClassName) (slash : Nat → Bool) :
    ((n.spelled slash).map fun c => if c = '/' then '.' else c) = n.dotted := by
  have hfirst : '/' ∉ n.first.chars := n.first.uses.not_mem (by decide) List.not_mem_nil
  rw [ClassName.spelled, List.map_append, TypeName.map_dot_of_not_mem hfirst, map_dot_spelledRest]
  rfl

theorem dotted_spelled (n : ClassName) (slash : Nat → Bool) : dotted (String.ofList (n.spelled slash)) = n.text := by
  rw [dotted_ofList, map_dot_spelled]
  rfl

end TypeName

/-! ## Types -/

namespace Primitive

theorem uses_word (p : Primitive) : Uses [] p.word := by
  intro c hc
  cases p <;> simp only [word, List.mem_cons, List.not_mem_nil, or_false] at hc <;>
    rcases hc with rfl | rfl | rfl | rfl | rfl | rfl | rfl <;> decide

theorem word_ne_nil (p : Primitive) : p.word ≠ [] := by
  cases p <;> decide

end Primitive

/-- A type that is no array. The class must not be called `int`, which source forms could not tell from the
primitive. -/
inductive ElementType where
  | primitive (p : Primitive)
  | ofClass (n : ClassName) (ne_int : n.text ≠ "int")

namespace ElementType

def descriptor : ElementType → List Char
  | primitive p => [p.letter]
  | ofClass n _ => 'L' :: n.slashed ++ [';']

def source : ElementType → List Char
  | primitive p => p.word
  | ofClass n _ => n.dotted

/-- Its name in the common vocabulary. -/
def name : ElementType → String
  | primitive p => p.name
  | ofClass n _ => n.text

end ElementType

structure TypeTerm where
  element : ElementType
  dimensions : Nat := 0

def brackets : Nat → List Char
  | 0 => []
  | n + 1 => brackets n ++ ['[', ']']

namespace TypeTerm

/-- The type as a descriptor. -/
def descriptor (t : TypeTerm) : List Char := List.replicate t.dimensions '[' ++ t.element.descriptor

/-- The type as a source form. -/
def source (t : TypeTerm) : List Char := t.element.source ++ brackets t.dimensions

/-- Its name in the common vocabulary. -/
def name (t : TypeTerm) : String := TypeName.withDimensions t.element.name t.dimensions

end TypeTerm

/-- The parameters and the result of a method as a descriptor. -/
def signature (parameters : List TypeTerm) (result : TypeTerm) : List Char :=
  '(' :: (parameters.flatMap TypeTerm.descriptor ++ ')' :: result.descriptor)

/-! ## Which characters are used -/

theorem ElementType.uses_source (e : ElementType) : Uses ['.'] e.source := by
  cases e with
  | primitive p => exact p.uses_word.mono (List.nil_subset _)
  | ofClass n _ => exact n.uses_dotted

theorem ElementType.startsPlain_source (e : ElementType) : StartsPlain e.source := by
  cases e with
  | primitive p => exact p.uses_word.startsPlain p.word_ne_nil
  | ofClass n _ => exact n.startsPlain_spelled _

theorem ElementType.endsPlain_source (e : ElementType) : EndsPlain e.source := by
  cases e with
  | primitive p => exact p.uses_word.endsPlain p.word_ne_nil
  | ofClass n _ => exact n.endsPlain_spelled _

theorem uses_brackets (n : Nat) : Uses ['[', ']'] (brackets n) := by
  induction n with
  | zero => exact .nil
  | succ n ih => exact ih.append (.mark (by simp) (.mark (by simp) .nil))

theorem TypeTerm.uses_source (t : TypeTerm) : Uses ['.', '[', ']'] t.source :=
  (t.element.uses_source.mono (by simp)).append ((uses_brackets _).mono (by simp))

theorem TypeTerm.startsPlain_source (t : TypeTerm) : StartsPlain t.source := t.element.startsPlain_source.append _

theorem TypeTerm.uses_descriptor (t : TypeTerm) : Uses ['[', '.', '/', ';'] t.descriptor := by
  refine .append (fun c hc => .inr ?_) ?_
  · rw [List.eq_of_mem_replicate hc]
    exact List.mem_cons_self
  · cases t.element with
    | primitive p => exact .cons (.inl (by cases p <;> decide)) .nil
    | ofClass n _ =>
      refine .append (.cons (.inl (by decide)) ((n.uses_spelled _).mono ?_)) (.mark (by simp) .nil)
      simp

theorem uses_signature (parameters : List TypeTerm) (result : TypeTerm) :
    Uses ['(', ')', '[', '.', '/', ';'] (signature parameters result) := by
  have htype (t : TypeTerm) : Uses ['(', ')', '[', '.', '/', ';'] t.descriptor := t.uses_descriptor.mono (by simp)
  exact .mark (by simp) ((Uses.flatMap fun t _ => htype t).append (.mark (by simp) (htype result)))

namespace TypeName

/-! ## Descriptors -/

theorem elementText_descriptor (e : ElementType) : ElementText e.descriptor e.name := by
  cases e with
  | primitive p => exact .primitive p
  | ofClass n h =>
    have hname : String.ofList (n.slashed.map fun c => if c = '/' then '.' else c) = n.text :=
      congrArg String.ofList (map_dot_spelled n _)
    have hend : ';' ∉ n.slashed := (n.uses_spelled _).not_mem (by decide) (by decide)
    rw [ElementType.name, ← hname]
    exact .ofClass (n.startsPlain_spelled _).ne_nil hend

/-- The descriptor of a type is a text for its name. -/
theorem typeText_descriptor (t : TypeTerm) : TypeText t.descriptor t.name :=
  ⟨t.dimensions, _, _, elementText_descriptor t.element, rfl, withDimensions_eq _ _⟩

/-- Reading a signature gives the names of its types. -/
theorem ofSignature_signature (parameters : List TypeTerm) (result : TypeTerm) :
    ofSignature (String.ofList (signature parameters result)) = .ok (parameters.map TypeTerm.name, result.name) := by
  have htypes : List.Forall₂ TypeText (parameters.map TypeTerm.descriptor) (parameters.map TypeTerm.name) := by
    rw [List.forall₂_map_left_iff, List.forall₂_map_right_iff, List.forall₂_same]
    exact fun t _ => typeText_descriptor t
  refine (ofSignature_eq_ok_iff _ _ _).2 ⟨_, result.descriptor, ?_, htypes, typeText_descriptor result⟩
  rw [String.toList_ofList, signature, List.flatMap_def]

/-! ## Source forms -/

theorem ofList_source (t : TypeTerm) :
    String.ofList t.source = withDimensions (String.ofList t.element.source) t.dimensions := by
  obtain ⟨e, n⟩ := t
  show String.ofList (e.source ++ brackets n) = withDimensions (String.ofList e.source) n
  induction n with
  | zero => rw [brackets, List.append_nil, withDimensions_zero]
  | succ n ih =>
    rw [brackets, ← List.append_assoc, String.ofList_append, ih, withDimensions_succ]

theorem unsuffixed_of_endsPlain {cs : List Char} (h : EndsPlain cs) : Unsuffixed cs := by
  obtain ⟨init, c, rfl, hc⟩ := h
  have hlast (suffix : List Char) {x : Char} (hsuffix : suffix ++ [x] <:+ init ++ [c]) : x = c := by
    obtain ⟨before, heq⟩ := hsuffix
    have hgetLast := congrArg List.getLast? heq
    rw [← List.append_assoc, List.getLast?_concat, List.getLast?_concat] at hgetLast
    exact Option.some.inj hgetLast
  constructor
  · intro hsuffix
    cases hlast ['['] hsuffix
    cases hc
  · intro hsuffix
    cases hlast ['.', '.'] hsuffix
    cases hc

theorem normalizeBase_source (e : ElementType) : normalizeBase (String.ofList e.source) = e.name := by
  have hslash : '/' ∉ (String.ofList e.source).toList := by
    rw [String.toList_ofList]
    exact e.uses_source.not_mem (by decide) (by decide)
  cases e with
  | primitive p =>
    cases p with
    | int => exact if_pos rfl
    | _ => exact normalizeBase_of_no_slash hslash (by decide)
  | ofClass n h => exact normalizeBase_of_no_slash hslash h

/-- The source form of a type stands for its name. -/
theorem normalize_source (t : TypeTerm) : normalize (String.ofList t.source) = t.name := by
  have hplain : Unsuffixed (String.ofList t.element.source).toList := by
    rw [String.toList_ofList]
    exact unsuffixed_of_endsPlain t.element.endsPlain_source
  rw [ofList_source, normalize_withDimensions hplain, normalizeBase_source, TypeTerm.name]

/-- Every dotted name with brackets behind it is the source of a type. -/
theorem exists_typeTerm (n : ClassName) (dimensions : Nat) :
    ∃ type : TypeTerm, type.source = n.dotted ++ brackets dimensions ∧
      type.name = withDimensions (if n.text = "int" then "integer" else n.text) dimensions := by
  by_cases hint : n.text = "int"
  · have hword : Primitive.int.word = n.dotted := by
      rw [← String.ofList_inj]
      exact hint.symm
    refine ⟨{ element := .primitive .int, dimensions }, congrArg (· ++ brackets dimensions) hword, ?_⟩
    rw [if_pos hint]
    rfl
  · refine ⟨{ element := .ofClass n hint, dimensions }, rfl, ?_⟩
    rw [if_neg hint]
    rfl

end TypeName

end NameBridge
