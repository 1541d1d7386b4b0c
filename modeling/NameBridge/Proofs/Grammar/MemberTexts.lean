import NameBridge.Grammar.Retrace
import NameBridge.Proofs.TypeName.Rendering

/-!
Members as the retrace grammar writes them, and how their lines are read.

A `MemberText` is a method, a field or an initializer with whatever line numbers, type and parameters stand around
its name. Each part is taken as far as it was written, so the body of the line is read as that member (`ofBody_body`).
-/

namespace NameBridge

open Text

/-! ## Digits -/

theorem Text.isBlank_of_isDigit {c : Char} (h : isDigit c = true) : isBlank c = false := by
  -- no interval of digits reaches a blank
  have hintervals : ∀ i ∈ digitIntervals,
      0xA0 < i.1 ∧ (i.2 < 0x1680 ∨ 0x1680 < i.1) ∧ (i.2 < 0x2000 ∨ 0x3000 < i.1) := by decide
  simp only [isDigit, Bool.or_eq_true, Bool.and_eq_true, inIntervals_iff] at h
  rcases h with h | ⟨-, i, hi, hlow, hhigh⟩
  · exact isBlank_of_isPlain (by simp [isPlain, Char.isAlphanum, h])
  · obtain ⟨hfirst, hogham, hspaces⟩ := hintervals i hi
    simp only [isBlank, Bool.or_eq_false_iff, Bool.and_eq_false_iff, decide_eq_false_iff_not, beq_eq_false_iff_ne]
    omega

/-- A number of one or more digits. -/
structure Digits where
  chars : List Char
  ne_nil : chars ≠ []
  digits : ∀ c ∈ chars, isDigit c = true

def Digits.ofString (s : String) (ne_nil : s.toList ≠ []) (digits : s.toList.all isDigit = true) : Digits :=
  ⟨s.toList, ne_nil, List.all_eq_true.1 digits⟩

/-- The two line numbers before a member. -/
structure LineRange where
  first : Digits
  last : Digits

/-- The line numbers behind the parameters. -/
inductive LineNumbers where
  | none
  | one (line : Digits)
  | two (first last : Digits)

namespace LineRange

def text (range : LineRange) : List Char := range.first.chars ++ ':' :: (range.last.chars ++ [':'])

/-- The range, if there is one. -/
def optional (range : Option LineRange) : List Char := (range.map text).getD []

end LineRange

def LineNumbers.text : LineNumbers → List Char
  | none => []
  | one line => ':' :: line.chars
  | two first last => ':' :: (first.chars ++ ':' :: last.chars)

/-! ## Members as they are written -/

/-- What a method is called that makes an object or sets up a class. -/
inductive Initializer where
  | object
  | static

namespace Initializer

def text : Initializer → String
  | object => "<init>"
  | static => "<clinit>"

def chars (i : Initializer) : List Char := i.text.toList

theorem chars_object : object.chars = ['<', 'i', 'n', 'i', 't', '>'] := by decide

theorem chars_static : static.chars = ['<', 'c', 'l', 'i', 'n', 'i', 't', '>'] := by decide

end Initializer

/-- The new name of an initializer. -/
inductive NewName where
  | simple (n : SimpleName)
  | initializer (i : Initializer)

namespace NewName

def chars : NewName → List Char
  | simple n => n.chars
  | initializer i => i.chars

/-- A new name is one word. -/
theorem isWord (n : NewName) : (!n.chars.isEmpty && n.chars.all (!isBlank ·)) = true := by
  cases n with
  | simple n =>
    have hblank : ∀ c ∈ n.chars, isBlank c = false := n.uses.not_blank rfl
    simpa [chars, n.ne_nil] using hblank
  | initializer i => cases i <;> decide

theorem exists_last (n : NewName) : ∃ init c, n.chars = init ++ [c] ∧ isBlank c = false := by
  cases n with
  | simple n =>
    obtain ⟨init, c, hchars, hc⟩ := n.endsPlain
    exact ⟨init, c, hchars, isBlank_of_isPlain hc⟩
  | initializer i =>
    cases i with
    | object => exact ⟨['<', 'i', 'n', 'i', 't'], '>', Initializer.chars_object, by decide⟩
    | static => exact ⟨['<', 'c', 'l', 'i', 'n', 'i', 't'], '>', Initializer.chars_static, by decide⟩

end NewName

/-- Types with commas between them, in parentheses. -/
def parameterList (parameters : List TypeTerm) : List Char :=
  '(' :: ([','].intercalate (parameters.map TypeTerm.source) ++ [')'])

/-- A member with what may stand around its name. -/
inductive MemberText where
  | method (range : Option LineRange) (result : TypeTerm) (declared : SimpleName) (parameters : List TypeTerm)
      (numbers : LineNumbers) (obfuscated : SimpleName)
  | field (type : TypeTerm) (declared obfuscated : SimpleName)
  | initializer (range : Option LineRange) (type : Option TypeTerm) (name : Initializer)
      (parameters : Option (List TypeTerm)) (numbers : LineNumbers) (target : NewName)

namespace Retrace

/-- An initializer from its name on. -/
def initializerTail (name : Initializer) (parameters : Option (List TypeTerm)) (numbers : LineNumbers)
    (target : NewName) : List Char :=
  name.chars ++ ((parameters.map parameterList).getD [] ++ (numbers.text ++ (arrow ++ target.chars)))

end Retrace

namespace MemberText

open Retrace (arrow initializerTail Member)

/-- The member's line without the indent. -/
def body : MemberText → List Char
  | method range result declared parameters numbers obfuscated =>
    LineRange.optional range ++ (result.source ++ ' ' :: (declared.chars ++
      (parameterList parameters ++ (numbers.text ++ (arrow ++ obfuscated.chars)))))
  | field type declared obfuscated => type.source ++ ' ' :: (declared.chars ++ (arrow ++ obfuscated.chars))
  | initializer range (some type) name parameters numbers target =>
    LineRange.optional range ++ (type.source ++ ' ' :: initializerTail name parameters numbers target)
  | initializer range none name parameters numbers target =>
    LineRange.optional range ++ initializerTail name parameters numbers target

/-- The member's line, with blanks at the end. -/
def line (m : MemberText) (trailing : List Char) : String :=
  String.ofList ([' ', ' ', ' ', ' '] ++ (m.body ++ trailing))

/-- What the line stands for. -/
def member : MemberText → Member
  | method _ result declared parameters _ obfuscated =>
    .method {
      returnType := result.name
      declared := declared.text
      obfuscated := obfuscated.text
      parameters := parameters.map TypeTerm.name }
  | field _ declared obfuscated => .field obfuscated.text declared.text
  | initializer .. => .constructor

end MemberText

namespace Retrace

/-! ## Reading a part -/

theorem after?_append (lead rest : List Char) : after? lead (lead ++ rest) = some rest := by
  induction lead with
  | nil => cases rest <;> rfl
  | cons l lead ih => rw [List.cons_append, after?, if_pos rfl, ih]

theorem run?_append {p : Char → Bool} {run rest : List Char} (hrun : ∀ c ∈ run, p c = true) (hne : run ≠ [])
    (hrest : ∀ c, rest.head? = some c → p c = false) : run? p (run ++ rest) = some (run, rest) := by
  rw [run?, takeWhile_append hrun hrest, dropWhile_append hrun hrest]
  simp [hne]

theorem run?_simpleName (n : SimpleName) {rest : List Char} (hrest : ∀ c, rest.head? = some c → isNameChar c = false) :
    run? isNameChar (n.chars ++ rest) = some (n.chars, rest) :=
  run?_append (n.uses.all (fun _ => isNameChar_of_isPlain) rfl) n.ne_nil hrest

theorem simpleName?_chars (n : SimpleName) : simpleName? n.chars = some n.text := by
  have hrun : run? isNameChar (n.chars ++ []) = some (n.chars, []) := run?_simpleName n (by simp)
  rw [List.append_nil] at hrun
  rw [simpleName?, hrun]
  rfl

theorem after?_space (rest : List Char) : after? [' '] (' ' :: rest) = some rest := after?_append [' '] rest

theorem after?_colon (rest : List Char) : after? [':'] (':' :: rest) = some rest := after?_append [':'] rest

/-! ## Line numbers -/

theorem afterDigits?_append (d : Digits) {rest : List Char} (hrest : ∀ c, rest.head? = some c → isDigit c = false) :
    afterDigits? (d.chars ++ rest) = some rest := by
  have hhead : (d.chars ++ rest).head?.any isDigit = true := by
    obtain ⟨c, cs, hcs⟩ := List.exists_cons_of_ne_nil d.ne_nil
    have hc : isDigit c = true := d.digits c (hcs ▸ List.mem_cons_self)
    simp [hcs, hc]
  rw [afterDigits?, if_pos hhead, dropWhile_append d.digits hrest]

theorem afterDigits?_colon (d : Digits) (rest : List Char) :
    afterDigits? (d.chars ++ ':' :: rest) = some (':' :: rest) := by
  apply afterDigits?_append
  rintro _ ⟨⟩
  decide

theorem afterRange?_text (range : LineRange) (rest : List Char) : afterRange? (range.text ++ rest) = some rest := by
  simp only [LineRange.text, List.append_assoc, List.cons_append, List.nil_append, afterRange?, afterDigits?_colon,
    after?_colon, Option.bind_eq_bind, Option.bind_some]

/-- Digits that something other than a colon follows are no line range. -/
theorem afterRange?_of_head? {cs : List Char} (h : (cs.dropWhile isDigit).head? ≠ some ':') : afterRange? cs = none := by
  have hcolon : after? [':'] (cs.dropWhile isDigit) = none := by
    cases hdrop : cs.dropWhile isDigit with
    | nil => rfl
    | cons c rest => exact if_neg fun heq : ':' = c => h (by rw [hdrop, heq, List.head?_cons])
  rw [afterRange?]
  cases hdigits : afterDigits? cs with
  | none => rfl
  | some rest =>
    rw [afterDigits?] at hdigits
    split at hdigits
    · cases hdigits
      simp only [Option.bind_eq_bind, Option.bind_some, hcolon, Option.bind_none]
    · cases hdigits

/-- Without a colon there is no line range. -/
theorem afterRange?_eq_none {cs : List Char} (h : ':' ∉ cs) : afterRange? cs = none :=
  afterRange?_of_head? fun hhead => h ((List.dropWhile_sublist _).mem (List.mem_of_head? hhead))

/-- A word without a colon is no line range if neither a digit nor a colon follows. -/
theorem afterRange?_word {w : List Char} {stop : Char} (hw : ':' ∉ w) (hdigit : isDigit stop = false)
    (hcolon : stop ≠ ':') (rest : List Char) : afterRange? (w ++ stop :: rest) = none := by
  apply afterRange?_of_head?
  have hstop : (stop :: rest).dropWhile isDigit = stop :: rest := List.dropWhile_cons_of_neg (by simp [hdigit])
  rw [List.dropWhile_append, hstop]
  split
  · simpa using hcolon
  · rename_i hne
    rw [List.head?_append_of_ne_nil _ (by simpa using hne)]
    exact fun hhead => hw ((List.dropWhile_sublist _).mem (List.mem_of_head? hhead))

/-- What is left of a member behind its line range. -/
theorem afterRange?_optional (range : Option LineRange) {rest : List Char} (h : afterRange? rest = none) :
    (afterRange? (LineRange.optional range ++ rest)).getD (LineRange.optional range ++ rest) = rest := by
  cases range with
  | none =>
    show (afterRange? rest).getD rest = rest
    rw [h, Option.getD_none]
  | some range =>
    show (afterRange? (range.text ++ rest)).getD (range.text ++ rest) = rest
    rw [afterRange?_text, Option.getD_some]

theorem dropLineNumbers_text (numbers : LineNumbers) (rest : List Char) :
    dropLineNumbers (numbers.text ++ (arrow ++ rest)) = arrow ++ rest := by
  have harrow : ∀ c, (arrow ++ rest).head? = some c → isDigit c = false := by
    rintro _ ⟨⟩
    decide
  have hnone : afterLineNumber? (arrow ++ rest) = none := rfl
  cases numbers with
  | none => rfl
  | one line =>
    simp only [LineNumbers.text, List.cons_append, dropLineNumbers, afterLineNumber?, after?_colon,
      Option.bind_eq_bind, Option.bind_some, afterDigits?_append _ harrow]
    exact congrArg (Option.getD · _) hnone
  | two first last =>
    simp only [LineNumbers.text, List.cons_append, List.append_assoc, dropLineNumbers, afterLineNumber?, after?_colon,
      Option.bind_eq_bind, Option.bind_some, afterDigits?_colon, afterDigits?_append _ harrow, Option.getD_some]

/-! ## Parts of a member -/

theorem run?_ranged (range : Option LineRange) (t : TypeTerm) (rest : List Char) :
    run? (!isBlank ·) (LineRange.optional range ++ (t.source ++ ' ' :: rest)) =
      some (LineRange.optional range ++ t.source, ' ' :: rest) := by
  have hdigits (d : Digits) : ∀ c ∈ d.chars, isBlank c = false := fun c hc => isBlank_of_isDigit (d.digits c hc)
  have hcolon : isBlank ':' = false := by decide
  have hrange : ∀ c ∈ LineRange.optional range, isBlank c = false := by
    cases range with
    | none => exact fun c hc => absurd hc List.not_mem_nil
    | some range =>
      intro c hc
      simp only [LineRange.optional, Option.map_some, Option.getD_some, LineRange.text, List.mem_append, List.mem_cons,
        List.not_mem_nil, or_false] at hc
      rcases hc with hc | rfl | hc | rfl
      · exact hdigits _ c hc
      · exact hcolon
      · exact hdigits _ c hc
      · exact hcolon
  rw [← List.append_assoc]
  refine run?_append (fun c hc => ?_) (by simp [t.startsPlain_source.ne_nil]) (fun c hc => by cases hc; rfl)
  rcases List.mem_append.1 hc with hc | hc
  · rw [hrange c hc, Bool.not_false]
  · rw [t.uses_source.not_blank (by decide) c hc, Bool.not_false]

theorem dropRange_ranged (range : Option LineRange) (t : TypeTerm) :
    dropRange (LineRange.optional range ++ t.source) = t.source := by
  cases range with
  | none =>
    show dropRange t.source = t.source
    rw [dropRange, afterRange?_eq_none (t.uses_source.not_mem (by decide) (by decide))]
  | some range =>
    obtain ⟨c, cs, hcs, -⟩ := t.startsPlain_source
    show dropRange (range.text ++ t.source) = t.source
    rw [dropRange, afterRange?_text, hcs]

theorem parameterTypes_sources (ts : List TypeTerm) :
    parameterTypes ([','].intercalate (ts.map TypeTerm.source)) = ts.map TypeTerm.name := by
  cases ts with
  | nil => rfl
  | cons t ts =>
    have hne : ([','].intercalate ((t :: ts).map TypeTerm.source)).isEmpty = false := by
      obtain ⟨c, tail, hcons, _⟩ := t.startsPlain_source
      cases ts <;> simp [List.intercalate, hcons]
    have hcomma : ∀ l ∈ (t :: ts).map TypeTerm.source, ',' ∉ l := by
      intro l hl
      obtain ⟨u, _, rfl⟩ := List.mem_map.1 hl
      exact u.uses_source.not_mem (by decide) (by decide)
    rw [parameterTypes, hne, List.splitOn_intercalate ',' hcomma (by simp), List.map_map]
    exact List.map_congr_left fun u _ => TypeName.normalize_source u

theorem parenthesized?_append {cs : List Char} (h : ')' ∉ cs) (rest : List Char) :
    parenthesized? ('(' :: (cs ++ ')' :: rest)) = some (cs, rest) := by
  have hopen : after? ['('] ('(' :: (cs ++ ')' :: rest)) = some (cs ++ ')' :: rest) := after?_append ['('] _
  simp only [parenthesized?, hopen, Option.bind_eq_bind, Option.bind_some, takeWhile_before h, dropWhile_before h]

theorem uses_sources (ts : List TypeTerm) :
    Uses ['.', '[', ']', ','] ([','].intercalate (ts.map TypeTerm.source)) := by
  induction ts with
  | nil => exact .nil
  | cons t ts ih =>
    have ht : Uses ['.', '[', ']', ','] t.source := t.uses_source.mono (by simp)
    cases ts with
    | nil => simpa [List.intercalate] using ht
    | cons u ts =>
      have hcons : [','].intercalate ((t :: u :: ts).map TypeTerm.source) =
          t.source ++ ',' :: [','].intercalate ((u :: ts).map TypeTerm.source) := by
        simp [List.intercalate]
      rw [hcons]
      exact ht.append (.mark (by simp) ih)

theorem parenthesized?_parameterList (parameters : List TypeTerm) (rest : List Char) :
    parenthesized? (parameterList parameters ++ rest) =
      some ([','].intercalate (parameters.map TypeTerm.source), rest) := by
  have hclosing : ')' ∉ [','].intercalate (parameters.map TypeTerm.source) :=
    (uses_sources parameters).not_mem (by decide) (by decide)
  have htext : parameterList parameters ++ rest =
      '(' :: ([','].intercalate (parameters.map TypeTerm.source) ++ ')' :: rest) := by
    simp [parameterList]
  rw [htext, parenthesized?_append hclosing]

/-! ## Initializers -/

theorem after?_initializer (i : Initializer) (rest : List Char) :
    (after? "<init>".toList (i.chars ++ rest)).or (after? "<clinit>".toList (i.chars ++ rest)) = some rest := by
  have hobject : "<init>".toList = Initializer.object.chars := rfl
  have hstatic : "<clinit>".toList = Initializer.static.chars := rfl
  rw [hobject, hstatic]
  cases i with
  | object => rw [after?_append, Option.some_or]
  | static =>
    have hnone : after? Initializer.object.chars (Initializer.static.chars ++ rest) = none := by
      rw [Initializer.chars_object, Initializer.chars_static]
      rfl
    rw [hnone, after?_append, Option.none_or]

theorem isConstructorTail_initializerTail (name : Initializer) (parameters : Option (List TypeTerm))
    (numbers : LineNumbers) (target : NewName) :
    isConstructorTail (initializerTail name parameters numbers target) = true := by
  have hhead : ((numbers.text ++ (arrow ++ target.chars)).head? == some '(') = false := by cases numbers <;> rfl
  unfold isConstructorTail initializerTail
  simp only [after?_initializer, Option.bind_eq_bind, Option.bind_some]
  cases parameters with
  | none =>
    simp only [Option.map_none, Option.getD_none, List.nil_append, hhead, Bool.false_eq_true, if_false,
      Option.bind_some, dropLineNumbers_text, after?_append, target.isWord, if_true, Option.isSome_some]
  | some parameters =>
    have hopening (rest : List Char) : ((parameterList parameters ++ rest).head? == some '(') = true := rfl
    simp only [Option.map_some, Option.getD_some, hopening, if_true, parenthesized?_parameterList,
      Option.bind_some, dropLineNumbers_text, after?_append, target.isWord, Option.isSome_some]

/-- A line is that of an initializer if behind its range, its type or both there is the rest of one. -/
theorem isConstructor_initializer (range : Option LineRange) (type : Option TypeTerm) (name : Initializer)
    (parameters : Option (List TypeTerm)) (numbers : LineNumbers) (target : NewName) :
    isConstructor (MemberText.initializer range type name parameters numbers target).body = true := by
  have htail := isConstructorTail_initializerTail name parameters numbers target
  cases type with
  | none =>
    have hrange : afterRange? (initializerTail name parameters numbers target) = none := by cases name <;> rfl
    rw [MemberText.body, isConstructor, afterRange?_optional range hrange, htail, Bool.true_or]
  | some type =>
    rw [MemberText.body, isConstructor, run?_ranged]
    simp only [htail, Bool.or_true]

/-! ## Methods and fields -/

theorem isConstructorTail_of_startsPlain {cs : List Char} (h : StartsPlain cs) : isConstructorTail cs = false := by
  obtain ⟨c, tail, rfl, hc⟩ := h
  have hne : '<' ≠ c := by
    rintro rfl
    cases hc
  have hinit : after? "<init>".toList (c :: tail) = none := if_neg hne
  have hclinit : after? "<clinit>".toList (c :: tail) = none := if_neg hne
  rw [isConstructorTail, hinit, hclinit]
  rfl

theorem isConstructor_method (range : Option LineRange) (result : TypeTerm) {rest : List Char} (hrest : StartsPlain rest) :
    isConstructor (LineRange.optional range ++ (result.source ++ ' ' :: rest)) = false := by
  have hcolon : ':' ∉ result.source := result.uses_source.not_mem (by decide) (by decide)
  have hrange : afterRange? (result.source ++ ' ' :: rest) = none :=
    afterRange?_word hcolon (by decide) (by decide) rest
  rw [isConstructor, afterRange?_optional range hrange, run?_ranged,
    isConstructorTail_of_startsPlain (result.startsPlain_source.append _)]
  exact isConstructorTail_of_startsPlain hrest

theorem method?_body (range : Option LineRange) (result : TypeTerm) (declared : SimpleName) (parameters : List TypeTerm)
    (numbers : LineNumbers) (obfuscated : SimpleName) :
    method? (MemberText.method range result declared parameters numbers obfuscated).body =
      some { returnType := result.name, declared := declared.text, obfuscated := obfuscated.text,
             parameters := parameters.map TypeTerm.name } := by
  have hname (rest : List Char) : run? isNameChar (declared.chars ++ (parameterList parameters ++ rest)) =
      some (declared.chars, parameterList parameters ++ rest) :=
    run?_simpleName declared fun c hc => by cases hc; decide
  simp only [method?, MemberText.body, run?_ranged, Option.bind_eq_bind, Option.bind_some, after?_space, hname,
    parenthesized?_parameterList, dropLineNumbers_text, after?_append, simpleName?_chars, dropRange_ranged,
    TypeName.normalize_source, parameterTypes_sources]
  rfl

theorem run?_beforeArrow (n : SimpleName) (rest : List Char) :
    run? isNameChar (n.chars ++ (arrow ++ rest)) = some (n.chars, arrow ++ rest) :=
  run?_simpleName n fun c hc => by cases hc; decide

theorem run?_type (t : TypeTerm) (rest : List Char) :
    run? (!isBlank ·) (t.source ++ ' ' :: rest) = some (t.source, ' ' :: rest) := run?_ranged none t rest

theorem method?_field (type : TypeTerm) (declared obfuscated : SimpleName) :
    method? (MemberText.field type declared obfuscated).body = none := by
  have hparenthesis : parenthesized? (arrow ++ obfuscated.chars) = none := rfl
  simp only [method?, MemberText.body, run?_type, Option.bind_eq_bind, Option.bind_some, after?_space,
    run?_beforeArrow, hparenthesis, Option.bind_none]

theorem field?_field (type : TypeTerm) (declared obfuscated : SimpleName) :
    field? (MemberText.field type declared obfuscated).body = some (obfuscated.text, declared.text) := by
  simp only [field?, MemberText.body, run?_type, Option.bind_eq_bind, Option.bind_some, after?_space,
    run?_beforeArrow, after?_append, simpleName?_chars]
  rfl

/-- A line is read as the member it was written for. -/
theorem ofBody_body (m : MemberText) : Member.ofBody m.body = m.member := by
  cases m with
  | method range result declared parameters numbers obfuscated =>
    have hno : isConstructor (MemberText.method range result declared parameters numbers obfuscated).body = false :=
      isConstructor_method range result (declared.startsPlain.append _)
    rw [Member.ofBody, hno, method?_body]
    rfl
  | field type declared obfuscated =>
    have hno : isConstructor (MemberText.field type declared obfuscated).body = false :=
      isConstructor_method none type (declared.startsPlain.append _)
    rw [Member.ofBody, hno, method?_field, field?_field]
    rfl
  | initializer range type name parameters numbers target =>
    rw [Member.ofBody, isConstructor_initializer]
    rfl

/-! ## Lines -/

/-- A member starts with something that is neither blank nor the sign of a comment. -/
theorem body_eq_cons (m : MemberText) : ∃ c cs, m.body = c :: cs ∧ isBlank c = false ∧ c ≠ '#' := by
  have hranged (range : Option LineRange) (rest : List Char)
      (h : ∃ c cs, rest = c :: cs ∧ isBlank c = false ∧ c ≠ '#') :
      ∃ c cs, LineRange.optional range ++ rest = c :: cs ∧ isBlank c = false ∧ c ≠ '#' := by
    cases range with
    | none => exact h
    | some range =>
      obtain ⟨c, cs, hcs⟩ := List.exists_cons_of_ne_nil range.first.ne_nil
      have hc : isDigit c = true := range.first.digits c (hcs ▸ List.mem_cons_self)
      refine ⟨c, cs ++ (':' :: (range.last.chars ++ [':']) ++ rest), ?_, isBlank_of_isDigit hc, ?_⟩
      · simp [LineRange.optional, LineRange.text, hcs]
      · rintro rfl
        exact absurd hc (by decide)
  have hplain {cs : List Char} (h : StartsPlain cs) : ∃ c tail, cs = c :: tail ∧ isBlank c = false ∧ c ≠ '#' := by
    obtain ⟨c, tail, rfl, hc⟩ := h
    refine ⟨c, tail, rfl, isBlank_of_isPlain hc, ?_⟩
    rintro rfl
    cases hc
  cases m with
  | method range result => exact hranged range _ (hplain (result.startsPlain_source.append _))
  | field type declared obfuscated => exact hplain (type.startsPlain_source.append _)
  | initializer range type name =>
    cases type with
    | some type => exact hranged range _ (hplain (type.startsPlain_source.append _))
    | none =>
      refine hranged range _ ?_
      cases name with
      | object => exact ⟨'<', _, congrArg (· ++ _) Initializer.chars_object, by decide, by decide⟩
      | static => exact ⟨'<', _, congrArg (· ++ _) Initializer.chars_static, by decide, by decide⟩

/-- A member ends with its new name. -/
theorem body_eq_append (m : MemberText) : ∃ (lead : List Char) (n : NewName), m.body = lead ++ n.chars := by
  cases m with
  | method range result declared parameters numbers obfuscated =>
    refine ⟨LineRange.optional range ++ result.source ++ ' ' :: (declared.chars ++ parameterList parameters ++
      numbers.text ++ arrow), .simple obfuscated, ?_⟩
    simp [MemberText.body, NewName.chars]
  | field type declared obfuscated =>
    refine ⟨type.source ++ ' ' :: (declared.chars ++ arrow), .simple obfuscated, ?_⟩
    simp [MemberText.body, NewName.chars]
  | initializer range type name parameters numbers target =>
    cases type with
    | some type =>
      refine ⟨LineRange.optional range ++ type.source ++ ' ' :: (name.chars ++
        (parameters.map parameterList).getD [] ++ numbers.text ++ arrow), target, ?_⟩
      simp [MemberText.body, initializerTail]
    | none =>
      refine ⟨LineRange.optional range ++ name.chars ++ (parameters.map parameterList).getD [] ++
        numbers.text ++ arrow, target, ?_⟩
      simp [MemberText.body, initializerTail]

theorem trimEnd_body (m : MemberText) : trimEnd m.body = m.body := by
  obtain ⟨lead, n, hbody⟩ := body_eq_append m
  obtain ⟨init, c, hchars, hc⟩ := n.exists_last
  rw [hbody, hchars, ← List.append_assoc, trimEnd_concat _ hc]

theorem memberBody?_line (m : MemberText) {trailing : List Char} (h : ∀ c ∈ trailing, isBlank c = true) :
    memberBody? (m.line trailing) = some m.body := by
  obtain ⟨c, cs, hbody, hc, -⟩ := body_eq_cons m
  have hhead : (m.body ++ trailing).head?.any (!isBlank ·) = true := by simp [hbody, hc]
  rw [memberBody?, MemberText.line, String.toList_ofList, after?_append]
  show (if (m.body ++ trailing).head?.any (!isBlank ·) then some (trimEnd (m.body ++ trailing)) else none) = _
  rw [if_pos hhead, trimEnd_append h, trimEnd_body]

theorem isComment_line (m : MemberText) (trailing : List Char) : isComment (m.line trailing) = false := by
  obtain ⟨c, cs, hbody, hc, hsharp⟩ := body_eq_cons m
  have hindent : trimStart ([' ', ' ', ' ', ' '] ++ (m.body ++ trailing)) = trimStart (m.body ++ trailing) := rfl
  have hstart : trimStart (m.body ++ trailing) = c :: (cs ++ trailing) := by
    rw [hbody]
    exact List.dropWhile_cons_of_neg (by simp [hc])
  rw [isComment, MemberText.line, String.toList_ofList, hindent, hstart, List.head?_cons, beq_eq_false_iff_ne]
  exact fun heq => hsharp (Option.some.inj heq)

end Retrace

end NameBridge
