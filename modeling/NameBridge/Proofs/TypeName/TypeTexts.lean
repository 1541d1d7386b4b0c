import Mathlib.Data.List.Forall2
import Mathlib.Data.List.TakeWhile
import NameBridge.Proofs.Text.Spans
import NameBridge.TypeName.Descriptor

/-!
Which texts are descriptors, and what they mean.

`TypeText` and `SignatureText` say this without a reader. A reader takes a type text off the front of its input
and gives back the rest, and it succeeds on nothing else (`readType_eq_ok_iff`, `readParameters_eq_ok_iff`). The
parameters of a signature can be cut in one way only: a type text shows by itself where it ends, and none
starts with the closing parenthesis. So whole texts are accepted exactly if they are type texts or signatures.
-/

namespace NameBridge

open Text

/-- A primitive type, or `void`. -/
inductive Primitive where
  | byte | char | double | float | int | long | short | boolean | void
  deriving DecidableEq, Repr

namespace Primitive

/-- Its letter in descriptors. -/
def letter : Primitive → Char
  | byte => 'B'
  | char => 'C'
  | double => 'D'
  | float => 'F'
  | int => 'I'
  | long => 'J'
  | short => 'S'
  | boolean => 'Z'
  | void => 'V'

/-- Its word in source forms. -/
def word : Primitive → List Char
  | byte => ['b', 'y', 't', 'e']
  | char => ['c', 'h', 'a', 'r']
  | double => ['d', 'o', 'u', 'b', 'l', 'e']
  | float => ['f', 'l', 'o', 'a', 't']
  | int => ['i', 'n', 't']
  | long => ['l', 'o', 'n', 'g']
  | short => ['s', 'h', 'o', 'r', 't']
  | boolean => ['b', 'o', 'o', 'l', 'e', 'a', 'n']
  | void => ['v', 'o', 'i', 'd']

/-- Its name in the common vocabulary. -/
def name : Primitive → String
  | int => "integer"
  | p => String.ofList p.word

end Primitive

namespace TypeName

/-! ## Type texts and signatures -/

/-- A type that is no array, and its name: the letter of a primitive, or a class name between `L` and `;` that
counts with dots for slashes. -/
inductive ElementText : List Char → String → Prop
  | primitive (p : Primitive) : ElementText [p.letter] p.name
  | ofClass {name : List Char} (ne_nil : name ≠ []) (no_end : ';' ∉ name) :
    ElementText ('L' :: (name ++ [';'])) (String.ofList (name.map fun c => if c = '/' then '.' else c))

/-- A type and its name: an opening bracket in front of the text for each dimension, and a pair of brackets
behind the name. -/
def TypeText (text : List Char) (name : String) : Prop :=
  ∃ (dimensions : Nat) (element : List Char) (word : String), ElementText element word ∧
    text = List.replicate dimensions '[' ++ element ∧
    name = word ++ String.join (List.replicate dimensions "[]")

/-- Any number of type texts and nothing else. -/
def TypeTexts (text : List Char) : Prop :=
  ∃ (types : List (List Char)) (names : List String), text = types.flatten ∧ List.Forall₂ TypeText types names

/-- The types of the parameters in parentheses and then the type of the result, and nothing else. -/
def SignatureText (text : List Char) (parameters : List String) (result : String) : Prop :=
  ∃ (types : List (List Char)) (last : List Char), text = '(' :: (types.flatten ++ ')' :: last) ∧
    List.Forall₂ TypeText types parameters ∧ TypeText last result

variable {cs text rest : List Char} {word name : String} {names : List String}

theorem ElementText.exists_cons (h : ElementText text word) : ∃ c tail, text = c :: tail ∧ c ≠ '[' ∧ c ≠ ')' := by
  cases h with
  | primitive p => exact ⟨p.letter, [], rfl, by cases p <;> decide, by cases p <;> decide⟩
  | ofClass => exact ⟨'L', _, rfl, by decide, by decide⟩

/-- No type text is empty or starts with a closing parenthesis. -/
theorem TypeText.exists_cons (h : TypeText text name) : ∃ c tail, text = c :: tail ∧ c ≠ ')' := by
  obtain ⟨dimensions, element, word, helement, rfl, -⟩ := h
  cases dimensions with
  | zero =>
    obtain ⟨c, tail, hcons, -, hc⟩ := helement.exists_cons
    exact ⟨c, tail, hcons, hc⟩
  | succ n => exact ⟨'[', _, rfl, by decide⟩

theorem typeTexts_nil : TypeTexts [] := ⟨[], [], rfl, .nil⟩

theorem TypeTexts.cons (htext : TypeText text name) (h : TypeTexts cs) : TypeTexts (text ++ cs) := by
  obtain ⟨types, names, rfl, htypes⟩ := h
  exact ⟨text :: types, name :: names, List.flatten_cons.symm, .cons htext htypes⟩

/-! ## Elements -/

theorem dotted_ofList (cs : List Char) :
    dotted (String.ofList cs) = String.ofList (cs.map fun c => if c = '/' then '.' else c) := by
  rw [dotted, ← String.toList_inj, String.toList_map, String.toList_ofList, String.toList_ofList]

theorem primitive?_eq_some_iff {c : Char} :
    primitive? c = some word ↔ ∃ p : Primitive, c = p.letter ∧ word = p.name := by
  constructor
  · intro h
    unfold primitive? at h
    split at h <;> cases h
    · exact ⟨.byte, rfl, rfl⟩
    · exact ⟨.char, rfl, rfl⟩
    · exact ⟨.double, rfl, rfl⟩
    · exact ⟨.float, rfl, rfl⟩
    · exact ⟨.int, rfl, rfl⟩
    · exact ⟨.long, rfl, rfl⟩
    · exact ⟨.short, rfl, rfl⟩
    · exact ⟨.boolean, rfl, rfl⟩
    · exact ⟨.void, rfl, rfl⟩
  · rintro ⟨p, rfl, rfl⟩
    cases p <;> rfl

theorem readElement_class {className : List Char} (h : ';' ∉ className) (rest : List Char) :
    readElement ('L' :: (className ++ ';' :: rest)) =
      if className = [] then .error .emptyClass else .ok (dotted (String.ofList className), rest) := by
  rw [readElement, takeWhile_before h, dropWhile_before h]
  cases className <;> rfl

theorem readElement_unclosed (h : ';' ∉ cs) : readElement ('L' :: cs) = .error .unclosedClass := by
  have hdrop : cs.dropWhile (· != ';') = [] := by
    rw [List.dropWhile_eq_nil_iff]
    intro c hc
    rw [bne_iff_ne]
    rintro rfl
    exact h hc
  rw [readElement, hdrop]

theorem readElement_letter {c : Char} (h : c ≠ 'L') (rest : List Char) :
    readElement (c :: rest) =
      match primitive? c with
      | some word => .ok (word, rest)
      | none => .error (.unknownLetter c) := by
  unfold readElement
  split
  · rename_i hnil
    cases hnil
  · rename_i hcons
    cases hcons
    exact absurd rfl h
  · rename_i hcons
    cases hcons
    rfl

theorem readElement_eq_ok_iff :
    readElement cs = .ok (word, rest) ↔ ∃ text, cs = text ++ rest ∧ ElementText text word := by
  constructor
  · intro h
    rcases cs with _ | ⟨c, cs⟩
    · cases h
    by_cases hc : c = 'L'
    · subst hc
      by_cases hend : ';' ∈ cs
      · obtain ⟨className, after, rfl, hbefore⟩ := List.eq_append_cons_of_mem hend
        rw [readElement_class hbefore] at h
        split at h
        · cases h
        · rename_i hne
          cases h
          refine ⟨'L' :: (className ++ [';']), by simp, ?_⟩
          rw [dotted_ofList]
          exact .ofClass hne hbefore
      · rw [readElement_unclosed hend] at h
        cases h
    · rw [readElement_letter hc] at h
      cases hword : primitive? c with
      | none =>
        rw [hword] at h
        cases h
      | some w =>
        rw [hword] at h
        cases h
        obtain ⟨p, rfl, rfl⟩ := primitive?_eq_some_iff.1 hword
        exact ⟨[p.letter], rfl, .primitive p⟩
  · rintro ⟨text, rfl, h⟩
    cases h with
    | primitive p => cases p <;> rfl
    | ofClass hne hend =>
      rename_i className
      rw [List.cons_append, List.append_assoc, List.singleton_append, readElement_class hend, if_neg hne, dotted_ofList]

/-! ## Types -/

theorem withDimensions_eq (base : String) (n : Nat) :
    withDimensions base n = base ++ String.join (List.replicate n "[]") := by
  induction n with
  | zero => rw [withDimensions_zero, List.replicate_zero, String.join_nil, String.append_empty]
  | succ n ih =>
    rw [withDimensions_succ, ih, List.replicate_succ', String.join_append, String.join_cons, String.join_nil,
      String.append_empty, String.append_assoc]

/-- Every text is a number of opening brackets and then something else. -/
theorem exists_brackets (cs : List Char) :
    ∃ n rest, cs = List.replicate n '[' ++ rest ∧ rest.head? ≠ some '[' := by
  induction cs with
  | nil => exact ⟨0, [], rfl, by simp⟩
  | cons c cs ih =>
    by_cases hc : c = '['
    · obtain ⟨n, rest, rfl, hrest⟩ := ih
      exact ⟨n + 1, rest, by rw [hc, List.replicate_succ, List.cons_append], hrest⟩
    · exact ⟨0, c :: cs, rfl, by simpa using hc⟩

/-- The brackets in front are counted, and the element after them is read. -/
theorem readType_brackets (n : Nat) (hne : rest ≠ []) (hrest : rest.head? ≠ some '[') :
    readType (List.replicate n '[' ++ rest) =
      (readElement rest).map fun (base, after) => (withDimensions base n, after) := by
  have hbrackets : ∀ c ∈ List.replicate n '[', (c == '[') = true := by
    intro c hc
    rw [List.eq_of_mem_replicate hc]
    rfl
  have hstop : ∀ c, rest.head? = some c → (c == '[') = false := by
    intro c hc
    rw [beq_eq_false_iff_ne]
    rintro rfl
    exact hrest hc
  obtain ⟨c, tail, rfl⟩ := List.exists_cons_of_ne_nil hne
  rw [readType, takeWhile_append hbrackets hstop, dropWhile_append hbrackets hstop, List.length_replicate]

theorem readType_brackets_only (n : Nat) :
    readType (List.replicate n '[') = .error (if n = 0 then .endOfInput else .noElementType) := by
  simp [readType]

theorem readType_eq_ok_iff : readType cs = .ok (name, rest) ↔ ∃ text, cs = text ++ rest ∧ TypeText text name := by
  constructor
  · intro h
    obtain ⟨n, element, rfl, hhead⟩ := exists_brackets cs
    by_cases hne : element = []
    · rw [hne, List.append_nil, readType_brackets_only] at h
      cases h
    · rw [readType_brackets n hne hhead] at h
      cases helement : readElement element with
      | error fault =>
        rw [helement] at h
        cases h
      | ok found =>
        rw [helement] at h
        cases h
        obtain ⟨text, rfl, htext⟩ := readElement_eq_ok_iff.1 helement
        exact ⟨_, (List.append_assoc ..).symm, n, text, found.1, htext, rfl, withDimensions_eq _ _⟩
  · rintro ⟨text, rfl, n, element, word, helement, rfl, rfl⟩
    obtain ⟨c, tail, rfl, hc, -⟩ := helement.exists_cons
    have hread : readElement (c :: tail ++ rest) = .ok (word, rest) := readElement_eq_ok_iff.2 ⟨_, rfl, helement⟩
    rw [List.append_assoc, readType_brackets n (by simp) (by simpa using hc), hread, ← withDimensions_eq]
    rfl

/-! ## Signatures -/

theorem readParameters_of_readType (h : readType cs = .ok (name, rest)) :
    readParameters cs = (readParameters rest).map fun (names, after) => (name :: names, after) := by
  cases cs with
  | nil => cases h
  | cons c tail =>
    by_cases hc : c = ')'
    · subst hc
      cases h
    · rw [readParameters]
      · split
        · rename_i heq
          rw [h] at heq
          cases heq
        · rename_i heq
          rw [h] at heq
          cases heq
          cases readParameters rest <;> rfl
      · exact hc

theorem readParameters_eq_ok_iff :
    readParameters cs = .ok (names, rest) ↔
      ∃ types : List (List Char), cs = types.flatten ++ ')' :: rest ∧ List.Forall₂ TypeText types names := by
  constructor
  · intro h
    fun_induction readParameters cs generalizing names with
    | case1 => cases h
    | case2 rest' =>
      cases h
      exact ⟨[], rfl, .nil⟩
    | case3 => cases h
    | case4 c tail _ name after htype ih =>
      cases hafter : readParameters after with
      | error fault =>
        rw [hafter] at h
        cases h
      | ok found =>
        rw [hafter] at h
        cases h
        obtain ⟨text, hcons, htext⟩ := readType_eq_ok_iff.1 htype
        obtain ⟨types, rfl, htypes⟩ := ih hafter
        exact ⟨text :: types, by rw [hcons, List.flatten_cons, List.append_assoc], .cons htext htypes⟩
  · rintro ⟨types, rfl, h⟩
    induction h with
    | nil => rw [List.flatten_nil, List.nil_append, readParameters]
    | cons htype _ ih =>
      rw [List.flatten_cons, List.append_assoc, readParameters_of_readType (readType_eq_ok_iff.2 ⟨_, rfl, htype⟩), ih]
      rfl

theorem ofDescriptor_eq_ok_iff (encoding : String) (name : String) :
    ofDescriptor encoding = .ok name ↔ TypeText encoding.toList name := by
  have htype : readType encoding.toList = .ok (name, []) ↔ TypeText encoding.toList name := by
    rw [readType_eq_ok_iff]
    simp only [List.append_nil, exists_eq_left']
  rw [← htype, ofDescriptor]
  split
  · rename_i hread
    rw [hread]
    simp
  · rename_i hread
    rw [hread]
    simp
  · rename_i hrest hread
    rw [hread]
    simp only [reduceCtorEq, Except.ok.injEq, Prod.mk.injEq, false_iff, not_and]
    exact fun _ => hrest

theorem readSignature_eq_ok_iff {parameters : List String} {result : String} :
    readSignature cs = .ok (parameters, result) ↔ SignatureText cs parameters result := by
  constructor
  · intro h
    unfold readSignature at h
    split at h
    · rename_i cs
      cases hparameters : readParameters cs with
      | error fault =>
        rw [hparameters] at h
        cases h
      | ok found =>
        obtain ⟨names, last⟩ := found
        obtain ⟨types, rfl, htypes⟩ := readParameters_eq_ok_iff.1 hparameters
        rw [hparameters] at h
        rcases last with _ | ⟨c, tail⟩
        · cases h
        · simp only [bind, Except.bind] at h
          split at h
          · cases h
          · rename_i hlast
            cases h
            obtain ⟨last, hcons, htext⟩ := readType_eq_ok_iff.1 hlast
            rw [List.append_nil] at hcons
            exact ⟨types, last, by rw [hcons], htypes, htext⟩
          · cases h
    · cases h
  · rintro ⟨types, last, rfl, htypes, hlast⟩
    have hparameters : readParameters (types.flatten ++ ')' :: last) = .ok (parameters, last) :=
      readParameters_eq_ok_iff.2 ⟨types, rfl, htypes⟩
    have hresult : readType last = .ok (result, []) := readType_eq_ok_iff.2 ⟨last, (List.append_nil _).symm, hlast⟩
    obtain ⟨c, tail, rfl, -⟩ := hlast.exists_cons
    rw [readSignature, hparameters]
    simp only [bind, Except.bind, hresult]

theorem ofSignature_eq_ok_iff (signature : String) (parameters : List String) (result : String) :
    ofSignature signature = .ok (parameters, result) ↔ SignatureText signature.toList parameters result := by
  rw [← readSignature_eq_ok_iff, ofSignature]
  cases readSignature signature.toList with
  | error fault => simp [Except.mapError]
  | ok found => simp [Except.mapError]

/-- A text is read as a descriptor exactly if it is a type text, and as a signature exactly if it is one, and what
is read is what the text means. -/
theorem read_iff_described :
    (∀ encoding name, ofDescriptor encoding = .ok name ↔ TypeText encoding.toList name) ∧
    (∀ signature parameters result,
      ofSignature signature = .ok (parameters, result) ↔ SignatureText signature.toList parameters result) :=
  ⟨ofDescriptor_eq_ok_iff, ofSignature_eq_ok_iff⟩

-- class names may hold parentheses and brackets
example : ofSignature "([L)(;[[I)Lb/[c;" = .ok ([")([]", "integer[][]"], "b.[c") := by decide +kernel

end TypeName

end NameBridge
