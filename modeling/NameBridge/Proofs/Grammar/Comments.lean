import NameBridge.Proofs.Grammar.Accounting
import NameBridge.Proofs.Text.Insertions

/-!
Comments are invisible.

Both readers go over the lines one at a time, and a comment changes nothing on the way, whatever block is open; nor does
a blank line in the flat grammar. So lines of these kinds can be put in anywhere, and the same table comes out
(`added_lines_invisible`). Only the line of a malformed record moves down, by as many lines as were put in above it.

A line that was the last one, with nothing to end it, may hold a carriage return that is no part of it any more once
lines follow. Neither reader looks at a carriage return at the end of a line, since it is blank.
-/

namespace NameBridge

/-! ## Carriage returns -/

theorem dropReturn_eq_or (line : String) :
    dropReturn line = line ∨ line.toList = (dropReturn line).toList ++ ['\r'] := by
  unfold dropReturn
  split
  · rename_i body hbody
    right
    rw [String.toList_ofList, ← List.reverse_cons, ← hbody, List.reverse_reverse]
  · exact .inl rfl

/-- What is the same with a carriage return at the end is the same without one. -/
theorem apply_dropReturn {α : Type} {g : List Char → α} (hg : ∀ cs, g (cs ++ ['\r']) = g cs) (line : String) :
    g (dropReturn line).toList = g line.toList := by
  rcases dropReturn_eq_or line with h | h
  · rw [h]
  · rw [h, hg]

theorem isBlank_return : Text.isBlank '\r' = true := by decide

theorem isComment_dropReturn (line : String) : isComment (dropReturn line) = isComment line := by
  have hhead : (Text.trimStart (dropReturn line).toList).head? = (Text.trimStart line.toList).head? :=
    apply_dropReturn (g := fun cs => (Text.trimStart cs).head?) (Text.head?_trimStart_concat_blank isBlank_return) line
  rw [isComment, hhead, isComment]

theorem isBlankLine_dropReturn (line : String) : isBlankLine (dropReturn line) = isBlankLine line := by
  have htrim := apply_dropReturn (Text.trim_concat_blank isBlank_return) line
  rw [isBlankLine, htrim, isBlankLine]

namespace Flat

open Table (Builder)

theorem classNames?_dropReturn (line : String) : classNames? (dropReturn line) = classNames? line := by
  rcases dropReturn_eq_or line with h | h
  · rw [h]
  · have hdotted : (TypeName.dotted line).toList = (TypeName.dotted (dropReturn line)).toList ++ ['\r'] := by
      rw [TypeName.dotted, String.toList_map, h, List.map_append, TypeName.dotted, String.toList_map]
      rfl
    by_cases hspace : ' ' ∈ (TypeName.dotted (dropReturn line)).toList
    · obtain ⟨before, after, hsplit, hbefore⟩ := List.eq_append_cons_of_mem hspace
      have hlonger : (TypeName.dotted line).toList = before ++ ' ' :: (after ++ ['\r']) := by
        rw [hdotted, hsplit, List.append_assoc, List.cons_append]
      rw [classNames?_of_split hsplit hbefore, classNames?_of_split hlonger hbefore,
        Text.trim_concat_blank isBlank_return]
    · have hspace' : ' ' ∉ (TypeName.dotted line).toList := by
        rw [hdotted, List.mem_append, not_or]
        exact ⟨hspace, by decide⟩
      rw [classNames?_of_no_space hspace, classNames?_of_no_space hspace']

theorem ofLine_dropReturn (line : String) : MemberLine.ofLine (dropReturn line) = MemberLine.ofLine line := by
  have hwords := apply_dropReturn (Text.words_concat_blank isBlank_return) line
  rw [MemberLine.ofLine, hwords, MemberLine.ofLine]

theorem addClassLine_dropReturn (b : Builder) (line : String) :
    addClassLine b (dropReturn line) = addClassLine b line := by
  rw [addClassLine, isComment_dropReturn, isBlankLine_dropReturn, classNames?_dropReturn, addClassLine]

theorem addMemberLine_dropReturn (options : ReadOptions) (b : Builder) (number : Nat) (line : String) :
    addMemberLine options b number (dropReturn line) = addMemberLine options b number line := by
  rw [addMemberLine, isComment_dropReturn, ofLine_dropReturn, addMemberLine]

theorem addMemberLines_readAs {lines read : List String} (h : List.Forall₂ ReadAs lines read) (options : ReadOptions)
    (b : Builder) (number : Nat) : addMemberLines options b number read = addMemberLines options b number lines := by
  induction h generalizing b number with
  | nil => rfl
  | @cons line readLine lines read hline _ ih =>
    have hsame : addMemberLine options b (number + 1) readLine = addMemberLine options b (number + 1) line := by
      rcases hline with rfl | rfl
      · rfl
      · exact addMemberLine_dropReturn options b (number + 1) line
    rw [addMemberLines, addMemberLines, hsame]
    cases addMemberLine options b (number + 1) line with
    | error e => rfl
    | ok b' => exact ih b' (number + 1)

end Flat

namespace Retrace

theorem header?_dropReturn (line : String) : header? (dropReturn line) = header? line := by
  have htrim := apply_dropReturn (Text.trimEnd_concat_blank isBlank_return) line
  rw [header?, htrim, header?]

theorem after?_concat {lead : List Char} {c : Char} (h : c ∉ lead) (cs : List Char) :
    after? lead (cs ++ [c]) = (after? lead cs).map (· ++ [c]) := by
  induction lead generalizing cs with
  | nil => rfl
  | cons l lead ih =>
    rw [List.mem_cons, not_or] at h
    cases cs with
    | nil => exact if_neg (Ne.symm h.1)
    | cons d cs =>
      rw [List.cons_append, after?, after?]
      split
      · exact ih h.2 cs
      · rfl

theorem memberBody?_dropReturn (line : String) : memberBody? (dropReturn line) = memberBody? line := by
  rcases dropReturn_eq_or line with h | h
  · rw [h]
  · have hafter : after? [' ', ' ', ' ', ' '] ((dropReturn line).toList ++ ['\r']) =
        (after? [' ', ' ', ' ', ' '] (dropReturn line).toList).map (· ++ ['\r']) := after?_concat (by decide) _
    rw [memberBody?, memberBody?, h, hafter]
    cases after? [' ', ' ', ' ', ' '] (dropReturn line).toList with
    | none => rfl
    | some body =>
      cases body with
      | nil => rfl
      | cons c cs =>
        have htrim := Text.trimEnd_concat_blank isBlank_return (c :: cs)
        simp only [Option.map_some, Option.bind_eq_bind, Option.bind_some, htrim]
        rfl

theorem Scan.line_dropReturn (s : Scan) (text : String) : s.line (dropReturn text) = s.line text := by
  simp only [Scan.line, Scan.outside, isComment_dropReturn, isBlankLine_dropReturn, header?_dropReturn,
    memberBody?_dropReturn]

end Retrace

/-! ## Lines put in -/

namespace Flat

open Table (Builder)

/-- A line that the flat grammar passes over. -/
def Skipped (line : String) : Prop := isComment line = true ∨ isBlankLine line = true

theorem addClassLine_of_skipped {line : String} (h : Skipped line) (b : Builder) : addClassLine b line = b := by
  have hskip : (isComment line || isBlankLine line) = true := by simpa [Skipped] using h
  rw [addClassLine, if_pos hskip]

theorem addMemberLine_of_skipped {line : String} (h : Skipped line) (options : ReadOptions) (b : Builder)
    (number : Nat) : addMemberLine options b number line = .ok b := by
  rw [addMemberLine]
  split
  · rfl
  · rename_i hcomment
    rw [ofLine_eq_blank_iff.2 (h.resolve_left hcomment)]

/-- Whether a member line fails the file does not depend on its number. -/
theorem addMemberLine_cases (options : ReadOptions) (b : Builder) (line : String) :
    (∃ b', ∀ number, addMemberLine options b number line = .ok b') ∨
      ∃ cause, ∀ number, addMemberLine options b number line = .error (.record number cause) := by
  unfold addMemberLine
  split
  · exact .inl ⟨b, fun _ => rfl⟩
  · split
    · exact .inl ⟨b, fun _ => rfl⟩
    · exact .inl ⟨_, fun _ => rfl⟩
    · exact .inl ⟨_, fun _ => rfl⟩
    · split
      · exact .inl ⟨_, fun _ => rfl⟩
      · split
        · exact .inl ⟨_, fun _ => rfl⟩
        · exact .inl ⟨_, fun _ => rfl⟩
        · exact .inr ⟨_, fun _ => rfl⟩

/-- With lines put in that are passed over, the same record fails the file, further down, or none does. -/
theorem addMemberLines_placed {placed : List Placed} (h : ∀ line, .added line ∈ placed → Skipped line)
    (options : ReadOptions) (b : Builder) :
    (∃ b', ∀ number, addMemberLines options b number (placed.filterMap Placed.kept?) = .ok b' ∧
        addMemberLines options b number (placed.map Placed.line) = .ok b') ∨
      ∃ k cause, ∀ number,
        addMemberLines options b number (placed.filterMap Placed.kept?) = .error (.record (number + (k + 1)) cause) ∧
          addMemberLines options b number (placed.map Placed.line) =
            .error (.record (number + (k + 1) + addedBefore placed (k + 1)) cause) := by
  induction placed generalizing b with
  | nil => exact .inl ⟨b, fun _ => ⟨rfl, rfl⟩⟩
  | cons p placed ih =>
    have hrest := ih fun line hline => h line (List.mem_cons_of_mem _ hline)
    cases p with
    | added line =>
      have hskip (number : Nat) : addMemberLines options b number ((Placed.added line :: placed).map Placed.line) =
          addMemberLines options b (number + 1) (placed.map Placed.line) := by
        rw [List.map_cons, addMemberLines, Placed.line, addMemberLine_of_skipped (h line List.mem_cons_self)]
        rfl
      rcases hrest b with ⟨b', hok⟩ | ⟨k, cause, herror⟩
      · exact .inl ⟨b', fun number => ⟨(hok number).1, (hskip number).trans (hok (number + 1)).2⟩⟩
      · refine .inr ⟨k, cause, fun number => ⟨(herror number).1, ?_⟩⟩
        rw [hskip, (herror (number + 1)).2, addedBefore]
        congr 2
        omega
    | kept line =>
      rcases addMemberLine_cases options b line with ⟨b', hline⟩ | ⟨cause, hline⟩
      · have hnext (number : Nat) (lines : List String) : addMemberLines options b number (line :: lines) =
            addMemberLines options b' (number + 1) lines := by
          rw [addMemberLines, hline]
          rfl
        rcases hrest b' with ⟨b'', hok⟩ | ⟨k, cause, herror⟩
        · exact .inl ⟨b'', fun number => ⟨(hnext _ _).trans (hok _).1, (hnext _ _).trans (hok _).2⟩⟩
        · refine .inr ⟨k + 1, cause, fun number => ⟨?_, ?_⟩⟩
          · refine (hnext _ _).trans ((herror (number + 1)).1.trans ?_)
            congr 2
            omega
          · refine (hnext _ _).trans ((herror (number + 1)).2.trans ?_)
            rw [addedBefore, if_neg (by omega)]
            congr 2
            simp only [Nat.add_sub_cancel]
            omega
      · have hfail (number : Nat) (lines : List String) : addMemberLines options b number (line :: lines) =
            .error (.record (number + 1) cause) := by
          rw [addMemberLines, hline]
          rfl
        exact .inr ⟨0, cause, fun number => ⟨hfail _ _, hfail _ _⟩⟩

/-- What a class list and a member list say, as texts. -/
theorem read_ofString (classText memberText : String) (options : ReadOptions) :
    read (.ofString classText) none options = .ok (classBuilder (.ofString classText)).build ∧
    read (.ofString classText) (some (.ofString memberText)) options =
      (addMemberLines options (classBuilder (.ofString classText)) 0 (textLines memberText)).map (·.build) := by
  have hnumber : (LineCursor.ofString memberText).number = 0 := LineCursor.number_fill _ 0
  rw [read_none, read_some, LineCursor.check_atEnd_ofString, LineCursor.check_atEnd_ofString, LineCursor.lines_ofString,
    hnumber]
  constructor
  · rfl
  · cases addMemberLines options (classBuilder (.ofString classText)) 0 (textLines memberText) <;> rfl

theorem classBuilder_after (classes : Insertion Skipped) :
    classBuilder (.ofString classes.after) = classBuilder (.ofString classes.before) := by
  rw [classBuilder, classBuilder, LineCursor.lines_ofString, LineCursor.lines_ofString,
    foldl_readAs addClassLine_dropReturn (forall₂_textLines classes.after_lines),
    foldl_readAs addClassLine_dropReturn (forall₂_textLines classes.before_lines)]
  exact foldl_placed (fun line hline b => addClassLine_of_skipped (classes.kind_of_added line hline) b) _

end Flat

/-- The error of a record that has moved down in its file. -/
def TableError.movedDown (added : Nat → Nat) : TableError → TableError
  | .record number cause => .record (number + added number) cause
  | .file cause => .file cause

theorem Flat.read_after (classes members : Insertion Skipped) (options : ReadOptions) :
    read (.ofString classes.after) (some (.ofString members.after)) options =
      (read (.ofString classes.before) (some (.ofString members.before)) options).mapError
        (·.movedDown (addedBefore members.placed)) := by
  rw [(read_ofString _ _ _).2, (read_ofString _ _ _).2, classBuilder_after,
    addMemberLines_readAs (forall₂_textLines members.after_lines),
    addMemberLines_readAs (forall₂_textLines members.before_lines)]
  rcases addMemberLines_placed members.kind_of_added options (classBuilder (.ofString classes.before)) with
    ⟨b, hok⟩ | ⟨k, cause, herror⟩
  · rw [(hok 0).1, (hok 0).2]
    rfl
  · rw [(herror 0).1, (herror 0).2, Nat.zero_add]
    rfl

theorem Retrace.read_after (text : Insertion (isComment ·)) (options : ReadOptions) :
    read (.ofString text.after) options = read (.ofString text.before) options := by
  unfold read
  rw [readBlocks_eq, readBlocks_eq]
  dsimp only
  rw [LineCursor.check_atEnd_ofString, LineCursor.check_atEnd_ofString, LineCursor.lines_ofString,
    LineCursor.lines_ofString, foldl_readAs Scan.line_dropReturn (forall₂_textLines text.after_lines),
    foldl_readAs Scan.line_dropReturn (forall₂_textLines text.before_lines),
    foldl_placed fun line hline s => s.line_comment (text.kind_of_added line hline)]

/-- Lines put into the texts, as many as one likes and anywhere, leave the table as it is: comments in the retrace
grammar, and comments and blank lines in both lists of the flat grammar. If a malformed record fails the file, the same
record does so still, on a line that is higher by the number of lines put in above it. These texts are all the sources
that do not break off. -/
theorem added_lines_invisible :
    (∀ (text : Insertion (isComment ·)) (options : ReadOptions),
      Retrace.read (.ofString text.after) options = Retrace.read (.ofString text.before) options) ∧
    (∀ (classes : Insertion Flat.Skipped) (options : ReadOptions),
      Flat.read (.ofString classes.after) none options = Flat.read (.ofString classes.before) none options) ∧
    (∀ (classes members : Insertion Flat.Skipped) (options : ReadOptions),
      Flat.read (.ofString classes.after) (some (.ofString members.after)) options =
        (Flat.read (.ofString classes.before) (some (.ofString members.before)) options).mapError
          (·.movedDown (addedBefore members.placed))) ∧
    ∀ source : ByteSource, source.fault? = none → ∃ s, source = .ofString s ∧ ∃ lines, HasLines s lines := by
  refine ⟨Retrace.read_after, fun classes options => ?_, Flat.read_after, fun source hsource => ?_⟩
  · rw [(Flat.read_ofString _ "" _).1, (Flat.read_ofString _ "" _).1, Flat.classBuilder_after]
  · obtain ⟨s, hs⟩ := ByteSource.exists_text hsource
    exact ⟨s, hs, exists_hasLines s⟩

/-- A block with comments above it and in it, indented in any way. -/
def commentedBlock : Insertion (isComment ·) :=
  .ofPlaced [.added "# compiler", .kept "net.Block -> a:", .added "    # int hidden -> z", .kept "    int count -> b",
    .added "\t#", .kept "    void tick() -> c"] (by decide) (by simp; decide)

/-- A class list with a line at its end that is blank. -/
def spacedClasses : Insertion Flat.Skipped :=
  .ofPlaced [.kept "a net/Block", .added " "] (by decide) (by simp [Flat.Skipped]; decide)

/-- A member list with lines put in above its second record, which is malformed. -/
def spacedMembers : Insertion Flat.Skipped :=
  .ofPlaced [.added "# members", .kept "net/Block f hardness", .added "", .kept "net/Block c (I bar"] (by decide)
    (by simp [Flat.Skipped]; decide)

/-- The members stay in their block, and an error in the second record is found two lines further down. -/
theorem comments_in_block_and_lists :
    Retrace.read (.ofString commentedBlock.after) .lenient = Retrace.read (.ofString commentedBlock.before) .lenient ∧
    Flat.read (.ofString spacedClasses.after) (some (.ofString spacedMembers.after)) .strict =
      (Flat.read (.ofString spacedClasses.before) (some (.ofString spacedMembers.before)) .strict).mapError
        (·.movedDown (addedBefore spacedMembers.placed)) ∧
    addedBefore spacedMembers.placed 2 = 2 ∧
    ∃ s, oneClass = .ofString s ∧ ∃ lines, HasLines s lines := by
  obtain ⟨hretrace, -, hflat, htext⟩ := added_lines_invisible
  exact ⟨hretrace commentedBlock .lenient, hflat spacedClasses spacedMembers .strict, rfl,
    htext oneClass (by decide +kernel)⟩

end NameBridge
