import Mathlib.Data.List.TakeWhile
import NameBridge.Proofs.Text.Spans
import NameBridge.Text.Lines

/-!
The lines a cursor gives.

`LineCursor.lines` lists them and `LineCursor.atEnd` is the cursor after the last one; a loop that takes
every line is a fold over this list. Over a text the cursor gives what stands between the line feeds
(`lines_ofString`) and leaves no failure behind (`fault_ofString`), so a text made of lines is read back as
these lines (`lines_ofString_unlines`).
-/

namespace NameBridge

namespace LineCursor

def lines (c : LineCursor) : List String :=
  match _h : c.take with
  | none => []
  | some (line, c') => line :: lines c'
termination_by c.remaining
decreasing_by exact take_remaining_lt _h

def atEnd (c : LineCursor) : LineCursor :=
  match _h : c.take with
  | none => c
  | some (_, c') => atEnd c'
termination_by c.remaining
decreasing_by exact take_remaining_lt _h

theorem lines_of_take_eq_none {c : LineCursor} (h : c.take = none) : c.lines = [] ∧ c.atEnd = c := by
  rw [lines, atEnd]
  constructor
  · split <;> simp_all
  · split <;> simp_all

theorem lines_of_take_eq_some {c c' : LineCursor} {line : String} (h : c.take = some (line, c')) :
    c.lines = line :: c'.lines ∧ c.atEnd = c'.atEnd := by
  rw [lines, atEnd]
  constructor
  · split <;> simp_all
  · split <;> simp_all

theorem take_atEnd (c : LineCursor) : c.atEnd.take = none := by
  fun_induction atEnd c with
  | case1 c h => exact h
  | case2 c line c' _ ih => exact ih

/-- At the end as many lines more have been taken as the cursor gives. -/
theorem number_atEnd (c : LineCursor) : c.atEnd.number = c.number + c.lines.length := by
  fun_induction atEnd c with
  | case1 c h =>
    rw [(lines_of_take_eq_none h).1]
    rfl
  | case2 c line c' h ih =>
    rw [ih, number_take h, (lines_of_take_eq_some h).1, List.length_cons]
    omega

end LineCursor

/-! ## Bytes of a text -/

namespace Text

theorem toList_eq_data (bytes : ByteArray) : bytes.toList = bytes.data.toList := by
  have hloop : ∀ i r, ByteArray.toList.loop bytes i r = r.reverse ++ bytes.data.toList.drop i := by
    intro i r
    fun_induction ByteArray.toList.loop bytes i r with
    | case1 i r h ih =>
      have hget : bytes.get! i = bytes.data.toList.get ⟨i, h⟩ := getElem!_pos bytes.data i h
      rw [ih, hget, List.drop_eq_getElem_cons h, List.reverse_cons, List.append_assoc, List.singleton_append,
        List.get_eq_getElem]
    | case2 i r h => rw [List.drop_eq_nil_of_le (Nat.le_of_not_lt h), List.append_nil]
  rw [ByteArray.toList, hloop, List.reverse_nil, List.nil_append, List.drop_zero]

theorem encode_ofList (cs : List Char) : encode (String.ofList cs) = cs.flatMap String.utf8EncodeChar := by
  rw [encode, String.toUTF8_eq_toByteArray, String.toByteArray_ofList, toList_eq_data, List.utf8Encode,
    List.toList_data_toByteArray]

theorem encode_empty : encode "" = [] := encode_ofList []

theorem encode_lineFeed : encode "\n" = [lineFeed] := encode_ofList ['\n']

theorem encode_append (s t : String) : encode (s ++ t) = encode s ++ encode t := by
  rw [← String.ofList_toList (s := s), ← String.ofList_toList (s := t), ← String.ofList_append]
  simp only [encode_ofList, List.flatMap_append]

theorem decode?_encode (s : String) : decode? (encode s) = some s := by
  have hbytes : (⟨(encode s).toArray⟩ : ByteArray) = s.toByteArray := by
    rw [encode, String.toUTF8_eq_toByteArray, toList_eq_data, Array.toArray_toList]
  rw [decode?, hbytes, String.fromUTF8?, dif_pos s.isValidUTF8]
  rfl

/-- The byte of the line feed is part of no other character. -/
theorem eq_of_lineFeed_mem {c : Char} (h : lineFeed ∈ String.utf8EncodeChar c) : c = '\n' := by
  have h10 : (10 : UInt8).toNat = 10 := rfl
  simp only [String.utf8EncodeChar, lineFeed] at h
  -- in a longer form every byte is at least 128
  split at h
  · simp only [List.mem_singleton, ← UInt8.toNat_inj, UInt8.toNat_ofNat', h10, Nat.reducePow] at h
    apply Char.ext
    apply UInt32.toNat_inj.1
    show c.val.toNat = 10
    omega
  · split at h
    · simp only [List.mem_cons, List.not_mem_nil, or_false, ← UInt8.toNat_inj, UInt8.toNat_ofNat', h10,
        Nat.reducePow] at h
      omega
    · split at h
      · simp only [List.mem_cons, List.not_mem_nil, or_false, ← UInt8.toNat_inj, UInt8.toNat_ofNat', h10,
          Nat.reducePow] at h
        omega
      · simp only [List.mem_cons, List.not_mem_nil, or_false, ← UInt8.toNat_inj, UInt8.toNat_ofNat', h10,
          Nat.reducePow] at h
        omega

theorem lineFeed_not_mem_encode {s : String} (h : '\n' ∉ s.toList) : lineFeed ∉ encode s := by
  rw [← String.ofList_toList (s := s), encode_ofList, List.mem_flatMap]
  rintro ⟨c, hc, hb⟩
  exact h (eq_of_lineFeed_mem hb ▸ hc)

end Text

/-! ## Lines of a text -/

/-- The lines that the pieces between line feeds come to. A carriage return before a line feed is no part of the
line. What follows the last line feed is a line as it stands, unless nothing does. -/
def linesOfPieces : List (List Char) → List String
  | [] => []
  | [last] => if last = [] then [] else [String.ofList last]
  | piece :: next :: pieces => dropReturn (String.ofList piece) :: linesOfPieces (next :: pieces)

def textLines (s : String) : List String := linesOfPieces (s.toList.splitOn '\n')

theorem textLines_of_not_mem {s : String} (h : '\n' ∉ s.toList) : textLines s = if s = "" then [] else [s] := by
  have hpieces : s.toList.splitOn '\n' = [s.toList] := List.splitOn_eq_singleton h
  unfold textLines
  rw [hpieces, linesOfPieces, String.ofList_toList]
  simp only [String.toList_eq_nil_iff]

theorem textLines_append {line : String} (h : '\n' ∉ line.toList) (rest : String) :
    textLines (line ++ "\n" ++ rest) = dropReturn line :: textLines rest := by
  have hpieces : (line ++ "\n" ++ rest).toList.splitOn '\n' = line.toList :: rest.toList.splitOn '\n' := by
    have hbefore : ∀ c ∈ line.toList, (c == '\n') = false := by
      intro c hc
      rw [beq_eq_false_iff_ne]
      rintro rfl
      exact h hc
    rw [String.toList_append, String.toList_append, List.append_assoc]
    exact List.splitOnP_append_cons_of_forall_mem hbefore '\n' rfl rest.toList
  obtain ⟨piece, pieces, hrest⟩ := List.exists_cons_of_ne_nil (List.splitOn_ne_nil '\n' rest.toList)
  unfold textLines
  rw [hpieces, hrest, linesOfPieces, String.ofList_toList]

/-- A text is one piece, or a line, a line feed and the rest. -/
theorem one_piece_or_line (s : String) :
    '\n' ∉ s.toList ∨ ∃ line rest : String, '\n' ∉ line.toList ∧ s = line ++ "\n" ++ rest := by
  by_cases h : '\n' ∈ s.toList
  · obtain ⟨before, after, hs, hbefore⟩ := List.eq_append_cons_of_mem h
    refine .inr ⟨String.ofList before, String.ofList after, by simpa using hbefore, ?_⟩
    rw [← String.toList_inj, hs]
    simp
  · exact .inl h

theorem NextLine.read_line {line : String} (h : '\n' ∉ line.toList) (rest : List UInt8) :
    read ⟨Text.encode line ++ lineFeed :: rest, none⟩ = .line (NameBridge.dropReturn line) rest := by
  have hfeed := Text.lineFeed_not_mem_encode h
  simp only [read, Text.takeWhile_before hfeed, Text.dropWhile_before hfeed]
  simp only [ofBytes, Text.decode?_encode, NextLine.dropReturn]

/-- The last line is read as it stands. -/
theorem NextLine.read_last {s : String} (h : '\n' ∉ s.toList) :
    read (.ofString s) = if s = "" then .ended else .line s [] := by
  have hfeed : (Text.encode s).dropWhile (· != lineFeed) = [] := by
    have hall : ∀ b ∈ Text.encode s, (b != lineFeed) = true := by
      intro b hb
      rw [bne_iff_ne]
      rintro rfl
      exact Text.lineFeed_not_mem_encode h hb
    exact List.dropWhile_eq_nil_iff.2 hall
  have hempty : Text.encode s = [] ↔ s = "" := by
    constructor
    · intro hs
      have hdecode := Text.decode?_encode s
      rw [hs, ← Text.encode_empty, Text.decode?_encode] at hdecode
      exact (Option.some.inj hdecode).symm
    · rintro rfl
      exact Text.encode_empty
  simp only [read, ByteSource.ofString, hfeed, hempty, ofBytes, Text.decode?_encode]

namespace LineCursor

theorem fill_empty (number : Nat) : fill (.ofString "") number = ⟨none, ⟨[], none⟩, none, number⟩ := by
  have hread : NextLine.read (.ofString "") = .ended := NextLine.read_last List.not_mem_nil
  rw [fill, hread]

theorem lines_fill_empty (number : Nat) :
    (fill (.ofString "") number).lines = [] ∧ (fill (.ofString "") number).atEnd.fault = none := by
  rw [fill_empty]
  obtain ⟨hlines, hatEnd⟩ := lines_of_take_eq_none (c := ⟨none, ⟨[], none⟩, none, number⟩) rfl
  exact ⟨hlines, by rw [hatEnd]⟩

theorem take_fill_last {s : String} (h : '\n' ∉ s.toList) (hempty : s ≠ "") (number : Nat) :
    (fill (.ofString s) number).take = some (s, fill (.ofString "") (number + 1)) := by
  have hread := NextLine.read_last h
  rw [if_neg hempty] at hread
  rw [fill, hread, ByteSource.ofString, ByteSource.ofString, Text.encode_empty]
  rfl

theorem take_fill_line {line : String} (h : '\n' ∉ line.toList) (rest : String) (number : Nat) :
    (fill (.ofString (line ++ "\n" ++ rest)) number).take =
      some (dropReturn line, fill (.ofString rest) (number + 1)) := by
  have hbytes : Text.encode (line ++ "\n" ++ rest) = Text.encode line ++ lineFeed :: Text.encode rest := by
    rw [Text.encode_append, Text.encode_append, Text.encode_lineFeed, List.append_assoc, List.singleton_append]
  rw [ByteSource.ofString, hbytes, fill, NextLine.read_line h]
  rfl

theorem lines_fill (s : String) (number : Nat) :
    (fill (.ofString s) number).lines = textLines s ∧ (fill (.ofString s) number).atEnd.fault = none := by
  induction hlen : s.toList.length using Nat.strongRecOn generalizing s number with
  | ind length ih =>
    rcases one_piece_or_line s with hs | ⟨line, rest, hline, rfl⟩
    · rw [textLines_of_not_mem hs]
      by_cases hempty : s = ""
      · rw [if_pos hempty, hempty]
        exact lines_fill_empty number
      · obtain ⟨hlines, hatEnd⟩ := lines_of_take_eq_some (take_fill_last hs hempty number)
        obtain ⟨hrest, hend⟩ := lines_fill_empty (number + 1)
        rw [if_neg hempty, hlines, hatEnd, hrest]
        exact ⟨rfl, hend⟩
    · obtain ⟨hlines, hatEnd⟩ := lines_of_take_eq_some (take_fill_line hline rest number)
      have hshorter : rest.toList.length < length := by
        rw [← hlen]
        simp only [String.toList_append, List.length_append]
        have hfeed : "\n".toList.length = 1 := rfl
        omega
      obtain ⟨ihlines, ihend⟩ := ih _ hshorter rest (number + 1) rfl
      rw [textLines_append hline, hlines, hatEnd, ihlines]
      exact ⟨rfl, ihend⟩

/-- Over a text a cursor gives what stands between the line feeds. -/
theorem lines_ofString (s : String) : (ofString s).lines = textLines s := (lines_fill s 0).1

theorem fault_ofString (s : String) : (ofString s).atEnd.fault = none := (lines_fill s 0).2

end LineCursor

/-! ## Texts made of lines -/

/-- The text of these lines, each one ended by a line feed. -/
def unlines : List String → String
  | [] => ""
  | line :: lines => line ++ "\n" ++ unlines lines

/-- A line can stand in a text: it holds no line feed, and no carriage return at its end that would be
taken for part of the line's end. -/
def IsLine (line : String) : Prop := '\n' ∉ line.toList ∧ line.toList.getLast? ≠ some '\r'

theorem dropReturn_eq_self {line : String} (h : line.toList.getLast? ≠ some '\r') : dropReturn line = line := by
  unfold dropReturn
  split
  · rename_i heq
    rw [List.getLast?_eq_head?_reverse, heq] at h
    exact absurd rfl h
  · rfl

theorem textLines_unlines {ls : List String} (h : ∀ line ∈ ls, IsLine line) : textLines (unlines ls) = ls := by
  induction ls with
  | nil => rfl
  | cons line ls ih =>
    have hline := h line List.mem_cons_self
    rw [unlines, textLines_append hline.1, dropReturn_eq_self hline.2, ih fun l hl => h l (List.mem_cons_of_mem _ hl)]

/-- A text made of lines is read back as these lines. -/
theorem LineCursor.lines_ofString_unlines {ls : List String} (h : ∀ line ∈ ls, IsLine line) :
    (ofString (unlines ls)).lines = ls := by
  rw [lines_ofString, textLines_unlines h]

end NameBridge
