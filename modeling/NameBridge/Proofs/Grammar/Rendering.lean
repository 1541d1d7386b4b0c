import NameBridge.Grammar.Flat
import NameBridge.Proofs.Grammar.MemberTexts
import NameBridge.Proofs.Table.History
import NameBridge.Proofs.Text.Lines

/-!
Classes written in both grammars, and how each line is read.

A `ClassTerm` is a class with its fields and methods as such. In the flat grammar it has a line in the class
list and a line for each member in the member list; in the retrace grammar it has a header and indented
member lines below. Every line is read as the record it was written for.
-/

namespace NameBridge

open Text

/-- A field or a method. -/
inductive MemberTerm where
  | field (type : TypeTerm) (declared obfuscated : SimpleName)
  | method (result : TypeTerm) (parameters : List TypeTerm) (declared obfuscated : SimpleName)

/-- A class with its members. -/
structure ClassTerm where
  declared : ClassName
  obfuscated : ClassName
  members : List MemberTerm := []

namespace MemberTerm

/-- What the member is in a table. The type of a field is not kept. -/
def newMember : MemberTerm → NewMember
  | field _ declared obfuscated => .field obfuscated.text declared.text
  | method result parameters declared obfuscated =>
    .method {
      returnType := result.name
      declared := declared.text
      obfuscated := obfuscated.text
      parameters := parameters.map TypeTerm.name }

/-- The member's line in a flat member list, with the name of its class as written there. -/
def flatLine (owner : List Char) : MemberTerm → String
  | field _ declared obfuscated =>
    String.ofList (owner ++ ' ' :: (obfuscated.chars ++ ' ' :: declared.chars))
  | method result parameters declared obfuscated =>
    String.ofList
      (owner ++ ' ' :: (obfuscated.chars ++ ' ' :: (signature parameters result ++ ' ' :: declared.chars)))

/-- The member's line in the retrace grammar, without the indent. -/
def retraceBody : MemberTerm → List Char
  | field type declared obfuscated =>
    type.source ++ ' ' :: (declared.chars ++ (Retrace.arrow ++ obfuscated.chars))
  | method result parameters declared obfuscated =>
    result.source ++ ' ' :: (declared.chars ++
      '(' :: ([','].intercalate (parameters.map TypeTerm.source) ++ ')' :: (Retrace.arrow ++ obfuscated.chars)))

def retraceLine (m : MemberTerm) : String := String.ofList ([' ', ' ', ' ', ' '] ++ m.retraceBody)

/-- The member without line numbers. -/
def undecorated : MemberTerm → MemberText
  | field type declared obfuscated => .field type declared obfuscated
  | method result parameters declared obfuscated => .method none result declared parameters .none obfuscated

end MemberTerm

/-- Which separators of the class names in the flat lines of a class are slashes. -/
structure Spelling where
  obfuscated : Nat → Bool
  declared : Nat → Bool
  owner : Nat → Bool

namespace ClassTerm

def entry (c : ClassTerm) : ClassEntry :=
  .ofMembers c.declared.text c.obfuscated.text (c.members.map MemberTerm.newMember)

/-- The line of the class in a flat class list. -/
def flatLine (s : Spelling) (c : ClassTerm) : String :=
  String.ofList (c.obfuscated.spelled s.obfuscated ++ ' ' :: c.declared.spelled s.declared)

/-- The lines of the class in a flat member list. -/
def flatMemberLines (s : Spelling) (c : ClassTerm) : List String :=
  c.members.map (MemberTerm.flatLine (c.declared.spelled s.owner))

/-- The header of the class in the retrace grammar. -/
def retraceHeader (c : ClassTerm) : String :=
  String.ofList (c.declared.dotted ++ (Retrace.arrow ++ (c.obfuscated.dotted ++ [':'])))

/-- The lines of the class in the retrace grammar. -/
def retraceLines (c : ClassTerm) : List String := c.retraceHeader :: c.members.map MemberTerm.retraceLine

end ClassTerm

/-! ## Lines -/

theorem isLine_of_uses {marks cs : List Char} (h : Uses marks cs) (hfeed : '\n' ∉ marks) (hreturn : '\r' ∉ marks) :
    IsLine (String.ofList cs) := by
  rw [IsLine, String.toList_ofList]
  refine ⟨h.not_mem (by decide) hfeed, fun hlast => ?_⟩
  exact h.not_mem (by decide) hreturn (List.mem_of_getLast? hlast)

theorem isComment_of_startsPlain {cs : List Char} (h : StartsPlain cs) : isComment (String.ofList cs) = false := by
  rw [isComment, String.toList_ofList, trimStart_of_startsPlain h]
  obtain ⟨c, tail, rfl, hc⟩ := h
  rw [List.head?_cons, beq_eq_false_iff_ne]
  rintro ⟨⟩
  cases hc

theorem isBlankLine_of_startsPlain {cs : List Char} (h : StartsPlain cs) (hend : trimEnd cs = cs) :
    isBlankLine (String.ofList cs) = false := by
  rw [isBlankLine, String.toList_ofList, trim, trimStart_of_startsPlain h, hend]
  obtain ⟨c, tail, rfl, _⟩ := h
  rfl

/-! ## Flat lines -/

namespace Flat

theorem classNames?_flatLine (s : Spelling) (c : ClassTerm) :
    classNames? (c.flatLine s) = some (c.obfuscated.text, c.declared.text) := by
  have htrim (n : ClassName) : trim n.dotted = n.dotted := by
    have hstart : StartsPlain n.dotted := n.startsPlain_spelled _
    have hend : EndsPlain n.dotted := n.endsPlain_spelled _
    rw [trim, trimStart_of_startsPlain hstart, trimEnd_of_endsPlain hend]
  have hne (n : ClassName) : n.dotted.isEmpty = false :=
    List.isEmpty_eq_false_iff.2 (n.startsPlain_spelled fun _ => false).ne_nil
  have hspace : ' ' ∉ c.obfuscated.dotted := c.obfuscated.uses_dotted.not_mem (by decide) (by decide)
  have hline : (TypeName.dotted (c.flatLine s)).toList = c.obfuscated.dotted ++ ' ' :: c.declared.dotted := by
    rw [ClassTerm.flatLine, TypeName.dotted_ofList, String.toList_ofList, List.map_append, List.map_cons,
      TypeName.map_dot_spelled, TypeName.map_dot_spelled]
    rfl
  simp only [classNames?, hline, takeWhile_before hspace, dropWhile_before hspace, htrim, hne, Bool.or_self]
  rfl

theorem addClassLine_flatLine (s : Spelling) (c : ClassTerm) (b : Table.Builder) :
    addClassLine b (c.flatLine s) = b.insertClass (.ofNames c.declared.text c.obfuscated.text) := by
  have hstart : StartsPlain (c.obfuscated.spelled s.obfuscated ++ ' ' :: c.declared.spelled s.declared) :=
    (c.obfuscated.startsPlain_spelled _).append _
  have hend : EndsPlain (c.obfuscated.spelled s.obfuscated ++ ' ' :: c.declared.spelled s.declared) :=
    ((c.declared.endsPlain_spelled _).append [' ']).append _
  have hskip : (isComment (c.flatLine s) || isBlankLine (c.flatLine s)) = false := by
    rw [ClassTerm.flatLine, isComment_of_startsPlain hstart,
      isBlankLine_of_startsPlain hstart (trimEnd_of_endsPlain hend)]
    rfl
  rw [addClassLine, hskip, classNames?_flatLine]
  rfl

theorem ofLine_field (n : ClassName) (slash : Nat → Bool) (type : TypeTerm) (declared obfuscated : SimpleName) :
    MemberLine.ofLine ((MemberTerm.field type declared obfuscated).flatLine (n.spelled slash)) =
      .field n.text obfuscated.text declared.text := by
  have howner := (n.uses_spelled slash).not_blank (by decide)
  have hobf := obfuscated.uses.not_blank rfl
  have hdecl := declared.uses.not_blank rfl
  rw [MemberLine.ofLine, MemberTerm.flatLine, String.toList_ofList,
    words_append (n.startsPlain_spelled slash).ne_nil howner,
    words_append obfuscated.ne_nil hobf, words_eq_singleton declared.ne_nil hdecl]
  simp only [List.map_cons, List.map_nil, TypeName.dotted_spelled]
  rfl

theorem ofLine_method (n : ClassName) (slash : Nat → Bool) (result : TypeTerm) (parameters : List TypeTerm)
    (declared obfuscated : SimpleName) :
    MemberLine.ofLine ((MemberTerm.method result parameters declared obfuscated).flatLine (n.spelled slash)) =
      .method n.text obfuscated.text (String.ofList (signature parameters result)) declared.text := by
  have howner := (n.uses_spelled slash).not_blank (by decide)
  have hobf := obfuscated.uses.not_blank rfl
  have hsig := (uses_signature parameters result).not_blank (by decide)
  have hdecl := declared.uses.not_blank rfl
  rw [MemberLine.ofLine, MemberTerm.flatLine, String.toList_ofList,
    words_append (n.startsPlain_spelled slash).ne_nil howner,
    words_append obfuscated.ne_nil hobf, words_append (by simp [signature]) hsig,
    words_eq_singleton declared.ne_nil hdecl]
  simp only [List.map_cons, List.map_nil, TypeName.dotted_spelled]
  rfl

/-- A member line adds the member to its class, if that class is there. -/
theorem addMemberLine_flatLine (options : ReadOptions) {b : Table.Builder} {n : ClassName}
    (hn : (b.withDeclared? n.text).isSome) (slash : Nat → Bool) (number : Nat) (m : MemberTerm) :
    addMemberLine options b number (m.flatLine (n.spelled slash)) =
      .ok (b.modifyDeclared n.text (·.addMember m.newMember)) := by
  have hcomment : isComment (m.flatLine (n.spelled slash)) = false := by
    cases m <;> exact isComment_of_startsPlain ((n.startsPlain_spelled slash).append _)
  cases m with
  | field type declared obfuscated =>
    rw [addMemberLine, hcomment, ofLine_field]
    simp only [addMember, hn, if_true]
    rfl
  | method result parameters declared obfuscated =>
    rw [addMemberLine, hcomment, ofLine_method]
    simp only [Option.isNone_iff_eq_none, Option.ne_none_iff_isSome.2 hn, TypeName.ofSignature_signature, addMember, hn]
    rfl

end Flat

/-! ## Retrace lines -/

namespace Retrace

/-- The marks in the body of a member line without line numbers. -/
def bodyMarks : List Char := ['.', '[', ']', ',', '(', ')', ' ', '-', '>']

theorem uses_retraceBody (m : MemberTerm) : Uses bodyMarks m.retraceBody := by
  have htype (t : TypeTerm) : Uses bodyMarks t.source := t.uses_source.mono (by decide)
  have hname (n : SimpleName) : Uses bodyMarks n.chars := n.uses.mono (List.nil_subset _)
  have harrow : Uses bodyMarks arrow := fun c hc => .inr ((show arrow ⊆ bodyMarks by decide) hc)
  cases m with
  | field type declared obfuscated =>
    exact (htype type).append (.mark (by decide) ((hname declared).append (harrow.append (hname obfuscated))))
  | method result parameters declared obfuscated =>
    have hparams : Uses bodyMarks ([','].intercalate (parameters.map TypeTerm.source)) :=
      (uses_sources parameters).mono (by decide)
    exact (htype result).append (.mark (by decide) ((hname declared).append (.mark (by decide)
      (hparams.append (.mark (by decide) (harrow.append (hname obfuscated)))))))

/-- The line of a member is one without line numbers. -/
theorem retraceBody_eq (m : MemberTerm) : m.retraceBody = m.undecorated.body := by
  cases m with
  | field type declared obfuscated => rfl
  | method result parameters declared obfuscated =>
    simp [MemberTerm.retraceBody, MemberTerm.undecorated, MemberText.body, parameterList, LineRange.optional,
      LineNumbers.text]

theorem retraceLine_eq (m : MemberTerm) : m.retraceLine = m.undecorated.line [] := by
  rw [MemberTerm.retraceLine, MemberText.line, List.append_nil, retraceBody_eq]

theorem memberBody?_retraceLine (m : MemberTerm) : memberBody? m.retraceLine = some m.retraceBody := by
  rw [retraceLine_eq, memberBody?_line _ fun c hc => absurd hc List.not_mem_nil, retraceBody_eq]

theorem isComment_retraceLine (m : MemberTerm) : isComment m.retraceLine = false := by
  rw [retraceLine_eq, isComment_line]

/-- A member line is read as the member it was written for. -/
theorem ofBody_retraceBody (m : MemberTerm) (block : Block) :
    block.add (.ofBody m.retraceBody) = { block with entry := block.entry.addMember m.newMember } := by
  rw [retraceBody_eq, ofBody_body]
  cases m <;> rfl

theorem startsPlain_header (c : ClassTerm) :
    StartsPlain (c.declared.dotted ++ (arrow ++ (c.obfuscated.dotted ++ [':']))) :=
  (c.declared.startsPlain_spelled _).append _

theorem trimEnd_header (c : ClassTerm) :
    trimEnd (c.declared.dotted ++ (arrow ++ (c.obfuscated.dotted ++ [':']))) =
      c.declared.dotted ++ (arrow ++ (c.obfuscated.dotted ++ [':'])) := by
  have hcolon : isBlank ':' = false := by decide
  simpa using trimEnd_concat (c.declared.dotted ++ (arrow ++ c.obfuscated.dotted)) hcolon

theorem header?_retraceHeader (c : ClassTerm) :
    header? c.retraceHeader = some (c.declared.text, c.obfuscated.text) := by
  have hdotted (n : ClassName) : ∀ x ∈ n.dotted, isDottedNameChar x = true :=
    n.uses_dotted.all (fun _ => isDottedNameChar_of_isPlain) (by decide)
  have hne (n : ClassName) : n.dotted ≠ [] := (n.startsPlain_spelled fun _ => false).ne_nil
  have hdeclared : run? isDottedNameChar (c.declared.dotted ++ (arrow ++ (c.obfuscated.dotted ++ [':']))) =
      some (c.declared.dotted, arrow ++ (c.obfuscated.dotted ++ [':'])) :=
    run?_append (hdotted _) (hne _) fun x hx => by cases hx; decide
  have hobfuscated : run? isDottedNameChar (c.obfuscated.dotted ++ [':']) = some (c.obfuscated.dotted, [':']) :=
    run?_append (hdotted _) (hne _) fun x hx => by cases hx; decide
  rw [header?, ClassTerm.retraceHeader, String.toList_ofList, trimEnd_header, hdeclared]
  simp only [Option.bind_eq_bind, Option.bind_some, after?_append, hobfuscated]
  rfl

theorem isComment_retraceHeader (c : ClassTerm) : isComment c.retraceHeader = false :=
  isComment_of_startsPlain (startsPlain_header c)

theorem isBlankLine_retraceHeader (c : ClassTerm) : isBlankLine c.retraceHeader = false :=
  isBlankLine_of_startsPlain (startsPlain_header c) (trimEnd_header c)

/-- A header is no member line. -/
theorem memberBody?_retraceHeader (c : ClassTerm) : memberBody? c.retraceHeader = none := by
  obtain ⟨x, tail, hcons, hx⟩ := startsPlain_header c
  have hne : ' ' ≠ x := by
    rintro rfl
    cases hx
  have hindent : after? [' ', ' ', ' ', ' '] (x :: tail) = none := if_neg hne
  rw [memberBody?, ClassTerm.retraceHeader, String.toList_ofList, hcons, hindent]
  rfl

end Retrace

/-! ## Files -/

theorem isLine_flatLine (s : Spelling) (c : ClassTerm) : IsLine (c.flatLine s) := by
  have h : Uses ['.', '/', ' '] (c.obfuscated.spelled s.obfuscated ++ ' ' :: c.declared.spelled s.declared) :=
    ((c.obfuscated.uses_spelled _).mono (by simp)).append (.mark (by simp) ((c.declared.uses_spelled _).mono (by simp)))
  exact isLine_of_uses h (by decide) (by decide)

theorem MemberTerm.isLine_flatLine (n : ClassName) (slash : Nat → Bool) (m : MemberTerm) :
    IsLine (m.flatLine (n.spelled slash)) := by
  have howner : Uses ['.', '/', '(', ')', '[', ';', ' '] (n.spelled slash) := (n.uses_spelled slash).mono (by decide)
  have hname (n : SimpleName) : Uses ['.', '/', '(', ')', '[', ';', ' '] n.chars := n.uses.mono (List.nil_subset _)
  cases m with
  | field type declared obfuscated =>
    exact isLine_of_uses (howner.append (.mark (by decide) ((hname obfuscated).append (.mark (by decide) (hname declared)))))
      (by decide) (by decide)
  | method result parameters declared obfuscated =>
    have hsig : Uses ['.', '/', '(', ')', '[', ';', ' '] (signature parameters result) :=
      (uses_signature parameters result).mono (by decide)
    exact isLine_of_uses (howner.append (.mark (by decide) ((hname obfuscated).append (.mark (by decide)
      (hsig.append (.mark (by decide) (hname declared))))))) (by decide) (by decide)

theorem isLine_of_mem_retraceLines {c : ClassTerm} {line : String} (h : line ∈ c.retraceLines) : IsLine line := by
  rcases List.mem_cons.1 h with rfl | h
  · have hdotted (n : ClassName) : Uses ['.', ' ', '-', '>', ':'] n.dotted := n.uses_dotted.mono (by simp)
    have harrow : Uses ['.', ' ', '-', '>', ':'] Retrace.arrow :=
      fun x hx => .inr ((show Retrace.arrow ⊆ ['.', ' ', '-', '>', ':'] by decide) hx)
    exact isLine_of_uses ((hdotted _).append (harrow.append ((hdotted _).append (.mark (by decide) .nil))))
      (by decide) (by decide)
  · obtain ⟨m, _, rfl⟩ := List.mem_map.1 h
    have hindent : Uses Retrace.bodyMarks [' ', ' ', ' ', ' '] :=
      fun x hx => .inr ((show [' ', ' ', ' ', ' '] ⊆ Retrace.bodyMarks by decide) hx)
    exact isLine_of_uses (hindent.append (Retrace.uses_retraceBody m)) (by decide) (by decide)

end NameBridge
