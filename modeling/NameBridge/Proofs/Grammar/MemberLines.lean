import NameBridge.Proofs.Grammar.Accounting
import NameBridge.Proofs.Grammar.MemberTexts
import NameBridge.Proofs.Table.Members

/-!
Member lines of a block, told apart.

The line of a member adds that member to the block (`readMembers_of_member`), what the block has become tells of what
kind it was (`kind_eq_of_add_eq`), and the names of members in a table are runs of name characters, so none is `<init>`
or `<clinit>` (`name_of_read`).
-/

namespace NameBridge.Retrace

open Text

/-- A member line adds its member to the block. -/
theorem readMembers_of_member {c c' : LineCursor} {line : String} {body : List Char}
    (htake : c.take = some (line, c')) (hcomment : isComment line = false) (hbody : memberBody? line = some body)
    (block : Block) : readMembers c block = readMembers c' (block.add (.ofBody body)) := by
  rw [readMembers]
  split
  · rename_i hnone
    rw [htake] at hnone
    cases hnone
  · rename_i line' next hsome
    rw [htake] at hsome
    cases hsome
    simp only [hcomment, hbody, Bool.false_eq_true, if_false]

/-! ## Kinds of members -/

inductive MemberKind where
  | method
  | field
  | initializer
  | unknown
  deriving DecidableEq

def Member.kind : Member → MemberKind
  | .method _ => .method
  | .field .. => .field
  | .constructor => .initializer
  | .unknown => .unknown

/-- Three counts that a member raises or leaves, as its kind has it. -/
theorem add_counts (block : Block) (m : Member) :
    (block.add m).entry.methods.size = block.entry.methods.size + (if m.kind = .method then 1 else 0) ∧
    (block.add m).stats.constructorsSkipped =
      block.stats.constructorsSkipped + (if m.kind = .initializer then 1 else 0) ∧
    (block.add m).stats.ignoredLines = block.stats.ignoredLines + (if m.kind = .unknown then 1 else 0) := by
  cases m with
  | method record => exact ⟨Array.size_push _, rfl, rfl⟩
  | field obfuscated declared => exact ⟨rfl, rfl, rfl⟩
  | constructor => exact ⟨rfl, rfl, rfl⟩
  | unknown => exact ⟨rfl, rfl, rfl⟩

/-- What a block has become tells the kind of the member that was added. -/
theorem kind_eq_of_add_eq {block : Block} {m m' : Member} (h : block.add m = block.add m') : m.kind = m'.kind := by
  obtain ⟨hmethods, hinitializers, hunknown⟩ := add_counts block m
  obtain ⟨hmethods', hinitializers', hunknown'⟩ := add_counts block m'
  rw [h, hmethods', Nat.add_left_cancel_iff] at hmethods
  rw [h, hinitializers', Nat.add_left_cancel_iff] at hinitializers
  rw [h, hunknown', Nat.add_left_cancel_iff] at hunknown
  revert hmethods hinitializers hunknown
  generalize m.kind = kind
  generalize m'.kind = kind'
  cases kind <;> cases kind' <;> decide

/-! ## Names of members -/

theorem all_of_run? {p : Char → Bool} {cs run rest : List Char} (h : run? p cs = some (run, rest)) :
    ∀ c ∈ run, p c = true := by
  unfold run? at h
  dsimp only at h
  split at h
  · cases h
  · cases h
    exact fun c hc => List.mem_takeWhile_imp hc

theorem all_of_simpleName? {cs : List Char} {name : String} (h : simpleName? cs = some name) :
    ∀ c ∈ name.toList, isNameChar c = true := by
  unfold simpleName? at h
  split at h
  · rename_i run hrun
    cases h
    rw [String.toList_ofList]
    exact all_of_run? hrun
  · cases h

theorem name_of_method? {body : List Char} {entry : MethodEntry} (h : method? body = some entry) :
    (∀ c ∈ entry.declared.toList, isNameChar c = true) ∧ ∀ c ∈ entry.obfuscated.toList, isNameChar c = true := by
  simp only [method?, Option.bind_eq_bind, Option.bind_eq_some_iff, Prod.exists] at h
  obtain ⟨_, _, -, _, -, name, _, hname, _, _, -, _, -, obfuscated, hobfuscated, h⟩ := h
  cases h
  rw [String.toList_ofList]
  exact ⟨all_of_run? hname, all_of_simpleName? hobfuscated⟩

theorem name_of_field? {body : List Char} {obfuscated declared : String}
    (h : field? body = some (obfuscated, declared)) :
    (∀ c ∈ declared.toList, isNameChar c = true) ∧ ∀ c ∈ obfuscated.toList, isNameChar c = true := by
  simp only [field?, Option.bind_eq_bind, Option.bind_eq_some_iff, Prod.exists] at h
  obtain ⟨_, _, -, _, -, name, _, hname, _, -, obfuscated, hobfuscated, h⟩ := h
  cases h
  rw [String.toList_ofList]
  exact ⟨all_of_run? hname, all_of_simpleName? hobfuscated⟩

/-- Both names of a method or field that is read consist of name characters. -/
theorem name_of_record {body : List Char} {record : NewMember} {name : String}
    (h : (Member.ofBody body).record? = some record) (hname : record.HasName name) :
    ∀ c ∈ name.toList, isNameChar c = true := by
  unfold Member.ofBody at h
  split at h
  · cases h
  · split at h
    · rename_i entry _ hmethod
      cases h
      obtain ⟨side, rfl⟩ := hname
      cases side with
      | declared => exact (name_of_method? hmethod).1
      | obfuscated => exact (name_of_method? hmethod).2
    · rename_i obfuscated declared _ hfield
      cases h
      rcases hname with rfl | rfl
      · exact (name_of_field? hfield).2
      · exact (name_of_field? hfield).1
    · cases h

theorem exists_body_of_mem {lines : List String} {m : Member} (h : m ∈ membersBelow lines) :
    ∃ body, m = .ofBody body := by
  fun_induction membersBelow lines with
  | case1 => cases h
  | case2 _ _ _ ih => exact ih h
  | case3 _ _ _ body _ ih =>
    rcases List.mem_cons.1 h with rfl | h
    · exact ⟨body, rfl⟩
    · exact ih h
  | case4 => cases h

theorem exists_membersBelow {lines : List String} {s : Section} (h : s ∈ sections lines) :
    ∃ below, s.members = membersBelow below := by
  fun_induction sections lines with
  | case1 => cases h
  | case2 _ _ _ ih => exact ih h
  | case3 _ lines _ _ _ _ ih =>
    rcases List.mem_cons.1 h with rfl | h
    · exact ⟨lines, rfl⟩
    · exact ih h
  | case4 _ _ _ _ ih => exact ih h

/-- The members of every class that is read have names of name characters. -/
theorem name_of_read {lines : LineCursor} {options : ReadOptions} {t : Table} (h : read lines options = .ok t)
    {k : ClassEntry} (hk : k ∈ t.classes) {name : String} (hname : k.HasMemberName name) :
    ∀ c ∈ name.toList, isNameChar c = true := by
  rw [read_eq] at h
  rw [eq_of_check_map h, ← Array.mem_toList_iff, Table.Builder.classes_build, Outline.classes_builder,
    Outline.ended_ofLines] at hk
  obtain ⟨s, hs, rfl⟩ := List.mem_map.1 (mem_of_mem_unreplaced hk)
  obtain ⟨record, hrecord, hname⟩ := ClassEntry.exists_hasName hname
  obtain ⟨m, hm, hrecord⟩ := List.mem_filterMap.1 hrecord
  obtain ⟨below, hbelow⟩ := exists_membersBelow hs
  obtain ⟨body, rfl⟩ := exists_body_of_mem (hbelow ▸ hm)
  exact name_of_record hrecord hname

theorem not_hasMemberName_initializer {lines : LineCursor} {options : ReadOptions} {t : Table}
    (h : read lines options = .ok t) {k : ClassEntry} (hk : k ∈ t.classes) (i : Initializer) :
    ¬k.HasMemberName i.text := by
  intro hname
  have hangle : '<' ∈ i.text.toList := by cases i <;> decide
  exact absurd (name_of_read h hk hname '<' hangle) (by decide)

/-! ## Lines of a block -/

/-- The line of a member in a block adds that member to the block and nothing else, whatever stands around its name,
and its types may be all dotted names with any number of brackets. Every member line is of one kind, which can be
told from the block that comes after it, and no class that is read has a member called `<init>` or `<clinit>`. -/
theorem member_lines_told_apart :
    (∀ (m : MemberText) (trailing : List Char) (c c' : LineCursor) (block : Block),
      (∀ x ∈ trailing, isBlank x = true) → c.take = some (m.line trailing, c') →
        readMembers c block = readMembers c' (block.add m.member)) ∧
    (∀ (n : ClassName) (dimensions : Nat), ∃ type : TypeTerm, type.source = n.dotted ++ brackets dimensions ∧
      type.name = TypeName.withDimensions (if n.text = "int" then "integer" else n.text) dimensions) ∧
    (∀ (line : String) (body : List Char) (c c' : LineCursor) (block : Block),
      c.take = some (line, c') → isComment line = false → memberBody? line = some body →
        readMembers c block = readMembers c' (block.add (.ofBody body)) ∧
          ∀ m : Member, block.add m = block.add (.ofBody body) → m.kind = (Member.ofBody body).kind) ∧
    ∀ (lines : LineCursor) (options : ReadOptions) (t : Table), read lines options = .ok t →
      ∀ k ∈ t.classes, ∀ i : Initializer, ¬k.HasMemberName i.text := by
  refine ⟨fun m trailing c c' block htrailing htake => ?_, TypeName.exists_typeTerm, ?_, ?_⟩
  · rw [readMembers_of_member htake (isComment_line m trailing) (memberBody?_line m htrailing), ofBody_body]
  · intro line body c c' block htake hcomment hbody
    exact ⟨readMembers_of_member htake hcomment hbody block, fun m hm => kind_eq_of_add_eq hm⟩
  · intro lines options t hread k hk i
    exact not_hasMemberName_initializer hread hk i

/-- A method with line numbers on both sides. -/
def tickText : MemberText :=
  .method (some ⟨.ofString "12" (by decide) (by decide), .ofString "15" (by decide) (by decide)⟩)
    { element := .primitive .int, dimensions := 1 } (.ofString "tick" (by decide) (by decide))
    [{ element := .primitive .int }, { element := .primitive .long, dimensions := 2 }]
    (.one (.ofString "3" (by decide) (by decide))) (.ofString "t" (by decide) (by decide))

/-- A field of arrays. -/
def agesText : MemberText :=
  .field { element := .primitive .long, dimensions := 2 } (.ofString "ages" (by decide) (by decide))
    (.ofString "g" (by decide) (by decide))

/-- A static initializer without a type. -/
def staticText : MemberText :=
  .initializer (some ⟨.ofString "4" (by decide) (by decide), .ofString "4" (by decide) (by decide)⟩) none .static
    (some []) .none (.initializer .static)

/-- A block of the three. -/
def tickLines : List String :=
  ["net.Block -> a:", "    12:15:int[] tick(int,long[][]):3 -> t ", "    long[][] ages -> g",
    "    4:4:<clinit>() -> <clinit>"]

/-- A method with line numbers, a field and a static initializer, as the lines of a block and in a file. -/
theorem member_lines_of_each_kind :
    (∀ block : Block, readMembers (.ofString (unlines tickLines.tail)) block =
      readMembers (.fill (.ofString "") 3)
        { entry := (block.entry.insertMethod ⟨"integer[]", "tick", "t", ["integer", "long[][]"]⟩).insertField "g" "ages"
          stats := block.stats.skipConstructor }) ∧
    (∀ (block : Block) (m : Member), block.add m = block.add agesText.member → m.kind = .field) ∧
    (∀ (block : Block) (m : Member), block.add m = block.add staticText.member → m.kind = .initializer) ∧
    ∃ t, read (.ofString (unlines tickLines)) .lenient = .ok t ∧
      t.classes.size = 1 ∧ ∀ k ∈ t.classes, ¬k.HasMemberName "<clinit>" := by
  obtain ⟨hadd, -, hkind, hnames⟩ := member_lines_told_apart
  have htake {line : String} (hline : IsLine line) (lines : List String) (number : Nat) :
      (LineCursor.fill (.ofString (unlines (line :: lines))) number).take =
        some (line, .fill (.ofString (unlines lines)) (number + 1)) := by
    have h := LineCursor.take_fill_line hline.1 (unlines lines) number
    rwa [dropReturn_eq_self hline.2] at h
  have hlines : ∀ line ∈ tickLines, IsLine line := by simp only [IsLine]; decide
  have htick : tickText.line [' '] = "    12:15:int[] tick(int,long[][]):3 -> t " := by decide
  have hages : agesText.line [] = "    long[][] ages -> g" := by decide
  have hstatic : staticText.line [] = "    4:4:<clinit>() -> <clinit>" := by decide
  have htakeTick := htake (hlines (tickText.line [' ']) (by decide)) [agesText.line [], staticText.line []] 0
  have htakeAges := htake (hlines (agesText.line []) (by decide)) [staticText.line []] 1
  have htakeStatic := htake (hlines (staticText.line []) (by decide)) [] 2
  -- the block after a line tells of what kind the member on it is
  have hunique {m : MemberText} {c c' : LineCursor} (htake : c.take = some (m.line [], c')) (block : Block)
      (m' : Member) (hm' : block.add m' = block.add m.member) : m'.kind = m.member.kind := by
    obtain ⟨-, hkinds⟩ := hkind (m.line []) m.body c c' block htake (isComment_line m [])
      (memberBody?_line m (List.forall_mem_nil _))
    rw [ofBody_body] at hkinds
    exact hkinds m' hm'
  refine ⟨fun block => ?_, hunique htakeAges, hunique htakeStatic, ?_⟩
  · have hrecord : tickText.member = .method ⟨"integer[]", "tick", "t", ["integer", "long[][]"]⟩ := by decide
    have hfield : agesText.member = .field "g" "ages" := by decide
    have hfirst := hadd tickText [' '] _ _ block (List.forall_mem_singleton.2 (by decide)) htakeTick
    rw [hadd agesText [] _ _ _ (List.forall_mem_nil _) htakeAges,
      hadd staticText [] _ _ _ (List.forall_mem_nil _) htakeStatic, htick, hages, hstatic, hrecord, hfield] at hfirst
    exact hfirst
  · obtain ⟨t, hread, -, hclasses, -⟩ := read_eq_outline (unlines tickLines) .lenient
    refine ⟨t, hread, ?_, fun k hk => hnames _ _ t hread k hk .static⟩
    obtain ⟨s, hs⟩ := List.length_eq_one_iff.1 (show (sections tickLines).length = 1 by decide)
    rw [textLines_unlines hlines, Outline.ended_ofLines, hs] at hclasses
    rw [← Array.length_toList, hclasses]
    simp [unreplaced]

end NameBridge.Retrace
