import NameBridge.Proofs.Grammar.Blocks
import NameBridge.Proofs.Grammar.Records
import NameBridge.Proofs.Text.Spans

/-!
The sections of a retrace text.

A section is a header with the members of the lines below it. What a header or a member line is depends on the line
alone, and no line is both, so the sections can be read off the lines without looking at what came before
(`sections`). They are the blocks that the outline finds (`Outline.ended_ofLines`).
-/

namespace NameBridge

theorem isBlankLine_iff {line : String} : isBlankLine line = true ↔ ∀ c ∈ line.toList, Text.isBlank c = true := by
  rw [isBlankLine, List.isEmpty_iff, Text.trim_eq_nil_iff]

namespace Retrace

/-! ## Headers and member lines -/

theorem run?_eq_none {p : Char → Bool} {cs : List Char} (h : ∀ c, cs.head? = some c → p c = false) :
    run? p cs = none := by
  have hempty : cs.takeWhile p = [] := by
    cases cs with
    | nil => rfl
    | cons c cs => exact List.takeWhile_cons_of_neg (by simp [h c rfl])
  simp [run?, hempty]

theorem header?_eq_none {line : String}
    (h : ∀ c, (Text.trimEnd line.toList).head? = some c → Text.isDottedNameChar c = false) :
    header? line = none := by
  unfold header?
  rw [run?_eq_none h]
  rfl

theorem header?_of_blank {line : String} (h : isBlankLine line = true) : header? line = none := by
  have hempty : Text.trimEnd line.toList = [] := by
    rw [Text.trimEnd, List.reverse_eq_nil_iff, List.dropWhile_eq_nil_iff]
    intro c hc
    exact isBlankLine_iff.1 h c (List.mem_reverse.1 hc)
  apply header?_eq_none
  simp [hempty]

/-- What is left starts as the text does. -/
theorem head?_of_trimEnd {cs : List Char} {c : Char} (h : (Text.trimEnd cs).head? = some c) : cs.head? = some c := by
  have hsuffix := List.dropWhile_suffix Text.isBlank (l := cs.reverse)
  rw [← List.reverse_prefix, List.reverse_reverse] at hsuffix
  obtain ⟨rest, hrest⟩ := hsuffix
  rw [Text.trimEnd] at h
  rw [← hrest, List.head?_append, h]
  rfl

/-- A member line starts with four spaces and then something that is not blank. -/
theorem memberBody?_eq_some {line : String} {body : List Char} (h : memberBody? line = some body) :
    ∃ c cs, line.toList = ' ' :: ' ' :: ' ' :: ' ' :: c :: cs ∧ Text.isBlank c = false := by
  rw [memberBody?_eq_indented?] at h
  unfold indented? at h
  split at h
  · rename_i c cs hline
    refine ⟨c, cs, hline, ?_⟩
    cases hc : Text.isBlank c with
    | true => simp [hc] at h
    | false => rfl
  · cases h

/-- No member line is blank or a header. -/
theorem not_blank_of_member {line : String} {body : List Char} (h : memberBody? line = some body) :
    isBlankLine line = false := by
  obtain ⟨c, cs, hline, hc⟩ := memberBody?_eq_some h
  rw [← Bool.not_eq_true, isBlankLine_iff, hline]
  intro hall
  have hblank : Text.isBlank c = true := hall c (by simp)
  rw [hc] at hblank
  cases hblank

theorem header?_of_member {line : String} {body : List Char} (h : memberBody? line = some body) :
    header? line = none := by
  obtain ⟨c, cs, hline, -⟩ := memberBody?_eq_some h
  apply header?_eq_none
  intro first hfirst
  have hspace := head?_of_trimEnd hfirst
  rw [hline, List.head?_cons, Option.some.injEq] at hspace
  rw [← hspace]
  decide

/-! ## Sections -/

/-- The members of the lines below a header, up to the line that ends the block. -/
def membersBelow : List String → List Member
  | [] => []
  | line :: lines =>
    if isComment line then membersBelow lines
    else
      match memberBody? line with
      | some body => .ofBody body :: membersBelow lines
      | none => []

/-- What a member gives to its class. -/
def Member.record? : Member → Option NewMember
  | .field obfuscated declared => some (.field obfuscated declared)
  | .method record => some (.method record)
  | .constructor | .unknown => none

/-- A header and the members below it. -/
structure Section where
  declared : String
  obfuscated : String
  members : List Member

namespace Section

def records (s : Section) : List NewMember := s.members.filterMap Member.record?

/-- The class that a block of these lines gives. -/
def entry (s : Section) : ClassEntry := .ofMembers s.declared s.obfuscated s.records

end Section

/-- Every header that is no comment, with what is below it. -/
def sections : List String → List Section
  | [] => []
  | line :: lines =>
    if isComment line then sections lines
    else
      match header? line with
      | some (declared, obfuscated) => ⟨declared, obfuscated, membersBelow lines⟩ :: sections lines
      | none => sections lines

theorem sections_cons_of_comment {line : String} (h : isComment line = true) (lines : List String) :
    sections (line :: lines) = sections lines := by
  rw [sections, if_pos h]

theorem sections_cons_of_header {line declared obfuscated : String} (hcomment : isComment line = false)
    (h : header? line = some (declared, obfuscated)) (lines : List String) :
    sections (line :: lines) = ⟨declared, obfuscated, membersBelow lines⟩ :: sections lines := by
  rw [sections, h, hcomment]
  rfl

theorem sections_cons_of_none {line : String} (h : header? line = none) (lines : List String) :
    sections (line :: lines) = sections lines := by
  rw [sections, h, ite_self]

namespace Outline

variable {o : Outline} {text : String}

/-! ## The outline of the sections -/

/-- The lines that are counted as left out. -/
def leftOut (o : Outline) : Nat := o.ignoredLines + o.constructorsSkipped

/-- The line is not taken as a member of the block that is open, if there is one. -/
def Ends (o : Outline) (text : String) : Prop := o.current = none ∨ memberBody? text = none

/-- What one line does to an outline. -/
inductive Step (o : Outline) (text : String) : Outline → Prop
  | comment (comment : isComment text = true) : Step o text o
  | member {entry : ClassEntry} {body : List Char} (not_comment : isComment text = false)
      (opened : o.current = some entry) (indented : memberBody? text = some body) : Step o text (o.member entry body)
  | blank (not_comment : isComment text = false) (ends : o.Ends text) (blank : isBlankLine text = true) :
      Step o text o.close
  | header {declared obfuscated : String} (not_comment : isComment text = false) (ends : o.Ends text)
      (not_blank : isBlankLine text = false) (header : header? text = some (declared, obfuscated)) :
      Step o text { o.close with current := some (.ofNames declared obfuscated) }
  | ignored (not_comment : isComment text = false) (ends : o.Ends text) (not_blank : isBlankLine text = false)
      (no_header : header? text = none) : Step o text { o.close with ignoredLines := o.ignoredLines + 1 }

theorem step_outside (hcomment : isComment text = false) (hends : o.Ends text) :
    o.Step text (o.close.outside text) := by
  unfold outside
  split
  · exact .blank hcomment hends ‹_›
  · rename_i hblank
    rw [Bool.not_eq_true] at hblank
    split
    · exact .header hcomment hends hblank ‹_›
    · exact .ignored hcomment hends hblank ‹_›

theorem step_line (o : Outline) (text : String) : o.Step text (o.line text) := by
  unfold line
  rw [← memberBody?_eq_indented?]
  split
  · exact .comment ‹_›
  · rename_i hcomment
    rw [Bool.not_eq_true] at hcomment
    split
    · rename_i hcurrent hbody
      exact .member hcomment hcurrent hbody
    · rename_i hnot
      refine step_outside hcomment ?_
      cases hcurrent : o.current with
      | none => exact .inl hcurrent
      | some entry =>
        refine .inr (Option.eq_none_iff_forall_ne_some.2 fun body hbody => ?_)
        exact hnot entry body hcurrent hbody

/-- The members of the open block in these lines, if there is one. -/
def below (o : Outline) (lines : List String) : List Member := if o.current.isSome then membersBelow lines else []

theorem below_of_comment (h : isComment text = true) (o : Outline) (lines : List String) :
    o.below (text :: lines) = o.below lines := by
  simp [below, membersBelow, h]

theorem below_of_member {entry : ClassEntry} {body : List Char} (hcomment : isComment text = false)
    (hopened : o.current = some entry) (hbody : memberBody? text = some body) (lines : List String) :
    o.below (text :: lines) = .ofBody body :: membersBelow lines := by
  simp [below, membersBelow, hcomment, hopened, hbody]

theorem below_of_ends (hcomment : isComment text = false) (hends : o.Ends text) (lines : List String) :
    o.below (text :: lines) = [] := by
  unfold below membersBelow
  rcases hends with hcurrent | hbody
  · simp [hcurrent]
  · simp [hcomment, hbody]

/-- A member is a record of its class, or one of the two counts goes up. -/
theorem member_ofBody {entry : ClassEntry} (h : o.current = some entry) (body : List Char) :
    (o.member entry body).ended = o.ended ∧
      (o.member entry body).current = some ((Member.ofBody body).record?.elim entry entry.addMember) ∧
      (o.member entry body).leftOut + (Member.ofBody body).record?.toList.length = o.leftOut + 1 := by
  unfold member Member.ofBody leftOut
  split
  · refine ⟨rfl, h, ?_⟩
    simp only [Member.record?, Option.toList_none, List.length_nil]
    omega
  · cases method? body with
    | some record => exact ⟨rfl, rfl, rfl⟩
    | none =>
      cases field? body with
      | some names => exact ⟨rfl, rfl, rfl⟩
      | none =>
        refine ⟨rfl, h, ?_⟩
        simp only [Member.record?, Option.toList_none, List.length_nil]
        omega

/-- The class of the open block, once these lines have been read. -/
def opened (o : Outline) (lines : List String) : Option ClassEntry :=
  o.current.map fun entry => ((o.below lines).filterMap Member.record?).foldl .addMember entry

theorem opened_of_member {entry : ClassEntry} {body : List Char} (hcomment : isComment text = false)
    (hopened : o.current = some entry) (hbody : memberBody? text = some body) (lines : List String) :
    (o.member entry body).opened lines = o.opened (text :: lines) := by
  obtain ⟨-, hcurrent, -⟩ := member_ofBody hopened body
  rw [opened, opened, below_of_member hcomment hopened hbody, below, hcurrent, hopened]
  cases hrecord : (Member.ofBody body).record? with
  | none => rw [List.filterMap_cons_none hrecord]; rfl
  | some record => rw [List.filterMap_cons_some hrecord]; rfl

theorem opened_of_ends (hcomment : isComment text = false) (hends : o.Ends text) (lines : List String) :
    o.opened (text :: lines) = o.current := by
  rw [opened, below_of_ends hcomment hends]
  exact Option.map_id'

/-- The blocks that end in these lines or with them are the one that is open and those of the sections. -/
theorem ended_foldl_line (lines : List String) (o : Outline) :
    (lines.foldl line o).close.ended = o.ended ++ (o.opened lines).toList ++ (sections lines).map Section.entry := by
  induction lines generalizing o with
  | nil => cases hcurrent : o.current <;> simp [close, opened, below, membersBelow, sections, hcurrent]
  | cons text lines ih =>
    have hstep := o.step_line text
    rw [List.foldl_cons, ih]
    generalize o.line text = o' at hstep ⊢
    cases hstep with
    | comment hcomment => rw [sections_cons_of_comment hcomment, opened, opened, below_of_comment hcomment]
    | member hcomment hopened hbody =>
      obtain ⟨hended, -, -⟩ := member_ofBody hopened _
      rw [sections_cons_of_none (header?_of_member hbody), hended, opened_of_member hcomment hopened hbody]
    | blank hcomment hends hblank =>
      rw [sections_cons_of_none (header?_of_blank hblank), opened_of_ends hcomment hends]
      simp [close, opened]
    | header hcomment hends _ hheader =>
      rw [sections_cons_of_header hcomment hheader, opened_of_ends hcomment hends]
      simp [close, opened, below, Section.entry, Section.records, ClassEntry.ofMembers]
    | ignored hcomment hends _ hheader =>
      rw [sections_cons_of_none hheader, opened_of_ends hcomment hends]
      simp [close, opened]

/-- The blocks of the outline are the sections. -/
theorem ended_ofLines (lines : List String) : (ofLines lines).ended = (sections lines).map Section.entry :=
  ended_foldl_line lines {}

end Outline

end Retrace

end NameBridge
