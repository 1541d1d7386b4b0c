import NameBridge.Proofs.Text.Lines

/-!
The lines of a byte source.

What stands between the line feeds of a source is decoded piece by piece. `ByteSource.lines` are the lines before the
first piece that is no text, and `ByteSource.fault?` is the failure met there, or else the failure of the stream at
the end of its bytes. A cursor gives exactly these lines, and after the last one it holds this failure
(`LineCursor.lines_ofSource`, `LineCursor.fault_ofSource`).
-/

namespace NameBridge

namespace ByteSource

variable (failure : Option FileError)

/-- The lines of these pieces, up to the first piece that is no text. The last piece is not ended by a line feed: it
is a line as it stands, unless it is empty or the stream fails there. -/
def linesOf : List (List UInt8) → List String
  | [] => []
  | [last] => if last = [] ∨ failure.isSome then [] else (Text.decode? last).toList
  | piece :: next :: pieces =>
    match Text.decode? piece with
    | some text => dropReturn text :: linesOf (next :: pieces)
    | none => []

/-- The failure that is met first. In the last piece a failure of the stream comes before a fault of the text. -/
def faultOf : List (List UInt8) → Option FileError
  | [] => failure
  | [last] => failure.or (if (Text.decode? last).isSome then none else some .invalidText)
  | piece :: next :: pieces =>
    if (Text.decode? piece).isSome then faultOf (next :: pieces) else some .invalidText

variable {failure}

/-- What stands between the line feeds. -/
def pieces (source : ByteSource) : List (List UInt8) := source.bytes.splitOn lineFeed

/-- The lines that can be read before the source ends or breaks off. -/
def lines (source : ByteSource) : List String := linesOf source.failure source.pieces

/-- The failure that the source breaks off with, if it does. -/
def fault? (source : ByteSource) : Option FileError := faultOf source.failure source.pieces

/-- The stream fails, or something between its line feeds is no text. -/
def Truncated (source : ByteSource) : Prop :=
  source.failure ≠ none ∨ ∃ piece ∈ source.pieces, Text.decode? piece = none

theorem faultOf_eq_none_iff (pieces : List (List UInt8)) :
    faultOf failure pieces = none ↔ failure = none ∧ ∀ piece ∈ pieces, (Text.decode? piece).isSome := by
  fun_induction faultOf failure pieces with
  | case1 => simp
  | case2 last => simp [Option.isSome_iff_ne_none]
  | case3 piece next pieces h ih => rw [ih, List.forall_mem_cons (a := piece), and_iff_right h]
  | case4 piece next pieces h => simp [h]

/-- A source breaks off exactly if it meets a failure. -/
theorem truncated_iff {source : ByteSource} : source.Truncated ↔ ∃ cause, source.fault? = some cause := by
  rw [← Option.ne_none_iff_exists', fault?, ne_eq, faultOf_eq_none_iff, Truncated]
  simp only [not_and_or, not_forall, Option.isSome_iff_ne_none, not_not, exists_prop, ne_eq]

theorem not_truncated_iff {source : ByteSource} : ¬source.Truncated ↔ source.fault? = none := by
  rw [truncated_iff, ← Option.ne_none_iff_exists', not_not]

theorem pieces_of_not_mem {source : ByteSource} (h : lineFeed ∉ source.bytes) : source.pieces = [source.bytes] :=
  List.splitOn_eq_singleton h

theorem pieces_append {before : List UInt8} (h : lineFeed ∉ before) (after : List UInt8) :
    pieces ⟨before ++ lineFeed :: after, failure⟩ = before :: pieces ⟨after, failure⟩ := by
  have hbefore : ∀ b ∈ before, (b == lineFeed) = false := by
    intro b hb
    rw [beq_eq_false_iff_ne]
    rintro rfl
    exact h hb
  exact List.splitOnP_append_cons_of_forall_mem hbefore lineFeed rfl after

theorem pieces_ne_nil (source : ByteSource) : source.pieces ≠ [] := List.splitOn_ne_nil _ _

end ByteSource

/-! ## Reading one line -/

namespace NextLine

variable (failure : Option FileError)

/-- Without a line feed there is one last line, or none. -/
theorem read_of_not_mem {bytes : List UInt8} (h : lineFeed ∉ bytes) :
    read ⟨bytes, failure⟩ =
      match failure with
      | some cause => .failed cause
      | none => if bytes = [] then .ended else ofBytes bytes [] := by
  have hdrop : bytes.dropWhile (· != lineFeed) = [] := by
    rw [List.dropWhile_eq_nil_iff]
    intro b hb
    rw [bne_iff_ne]
    rintro rfl
    exact h hb
  simp only [read, hdrop]
  cases failure <;> rfl

/-- What stands before the first line feed is read as a line, whatever comes later. -/
theorem read_before {before : List UInt8} (h : lineFeed ∉ before) (after : List UInt8) :
    read ⟨before ++ lineFeed :: after, failure⟩ = (ofBytes before after).dropReturn := by
  simp only [read, Text.takeWhile_before h, Text.dropWhile_before h]

end NextLine

/-! ## The cursor over a source -/

namespace LineCursor

variable {source : ByteSource} {rest : List UInt8} {text : String} {cause : FileError}

theorem take_fill (h : NextLine.read source = .line text rest) (number : Nat) :
    (fill source number).take = some (text, fill ⟨rest, source.failure⟩ (number + 1)) := by
  rw [fill, h]
  rfl

theorem take_fill_failed (h : NextLine.read source = .failed cause) (number : Nat) :
    (fill source number).take = none ∧ (fill source number).fault = some cause := by
  rw [fill, h]
  exact ⟨rfl, rfl⟩

theorem take_fill_ended (h : NextLine.read source = .ended) (number : Nat) :
    (fill source number).take = none ∧ (fill source number).fault = none := by
  rw [fill, h]
  exact ⟨rfl, rfl⟩

/-- A cursor that has nothing to give holds its failure at its end. -/
theorem lines_of_read_failed (h : NextLine.read source = .failed cause) (number : Nat) :
    (fill source number).lines = [] ∧ (fill source number).atEnd.fault = some cause := by
  obtain ⟨htake, hfault⟩ := take_fill_failed h number
  obtain ⟨hlines, hend⟩ := lines_of_take_eq_none htake
  rw [hend]
  exact ⟨hlines, hfault⟩

theorem lines_of_read_ended (h : NextLine.read source = .ended) (number : Nat) :
    (fill source number).lines = [] ∧ (fill source number).atEnd.fault = none := by
  obtain ⟨htake, hfault⟩ := take_fill_ended h number
  obtain ⟨hlines, hend⟩ := lines_of_take_eq_none htake
  rw [hend]
  exact ⟨hlines, hfault⟩

/-- The last line, or what is in its place. -/
theorem lines_fill_of_not_mem (h : lineFeed ∉ source.bytes) (number : Nat) :
    (fill source number).lines = source.lines ∧ (fill source number).atEnd.fault = source.fault? := by
  rw [ByteSource.lines, ByteSource.fault?, ByteSource.pieces_of_not_mem h]
  obtain ⟨bytes, failure⟩ := source
  have hread := NextLine.read_of_not_mem failure h
  cases failure with
  | some cause => simpa [ByteSource.linesOf, ByteSource.faultOf] using lines_of_read_failed hread number
  | none =>
    by_cases hempty : bytes = []
    · subst hempty
      exact lines_of_read_ended hread number
    · simp only [if_neg hempty] at hread
      cases hdecode : Text.decode? bytes with
      | none =>
        have hfailed : NextLine.read ⟨bytes, none⟩ = .failed .invalidText := by
          rw [hread, NextLine.ofBytes, hdecode]
        simpa [ByteSource.linesOf, ByteSource.faultOf, hdecode] using lines_of_read_failed hfailed number
      | some text =>
        have hline : NextLine.read ⟨bytes, none⟩ = .line text [] := by
          rw [hread, NextLine.ofBytes, hdecode]
        obtain ⟨hlines, hend⟩ := lines_of_take_eq_some (take_fill hline number)
        have hended : NextLine.read ⟨[], none⟩ = .ended := rfl
        obtain ⟨hnone, hfault⟩ := lines_of_read_ended hended (number + 1)
        rw [hlines, hend, hnone, hfault]
        simp [ByteSource.linesOf, ByteSource.faultOf, hdecode, hempty]

theorem lines_fill_source (source : ByteSource) (number : Nat) :
    (fill source number).lines = source.lines ∧ (fill source number).atEnd.fault = source.fault? := by
  obtain ⟨bytes, failure⟩ := source
  induction hlen : bytes.length using Nat.strongRecOn generalizing bytes number with
  | ind length ih =>
    by_cases hfeed : lineFeed ∈ bytes
    · obtain ⟨before, after, rfl, hbefore⟩ := List.eq_append_cons_of_mem hfeed
      have hread := NextLine.read_before failure hbefore after
      obtain ⟨next, pieces, hafter⟩ := List.exists_cons_of_ne_nil (ByteSource.pieces_ne_nil ⟨after, failure⟩)
      rw [ByteSource.lines, ByteSource.fault?, ByteSource.pieces_append hbefore, hafter]
      cases hdecode : Text.decode? before with
      | none =>
        have hfailed : NextLine.read ⟨before ++ lineFeed :: after, failure⟩ = .failed .invalidText := by
          rw [hread, NextLine.ofBytes, hdecode]
          rfl
        simpa [ByteSource.linesOf, ByteSource.faultOf, hdecode] using lines_of_read_failed hfailed number
      | some text =>
        have hline : NextLine.read ⟨before ++ lineFeed :: after, failure⟩ = .line (dropReturn text) after := by
          rw [hread, NextLine.ofBytes, hdecode]
          rfl
        have hshorter : after.length < length := by
          rw [← hlen, List.length_append, List.length_cons]
          omega
        obtain ⟨hlines, hend⟩ := lines_of_take_eq_some (take_fill hline number)
        obtain ⟨ihlines, ihfault⟩ := ih _ hshorter (number + 1) after rfl
        rw [ByteSource.lines, hafter] at ihlines
        rw [ByteSource.fault?, hafter] at ihfault
        simp only [ByteSource.linesOf, ByteSource.faultOf, hdecode, Option.isSome_some, if_true]
        rw [hlines, hend, ihlines, ihfault]
        exact ⟨rfl, rfl⟩
    · exact lines_fill_of_not_mem hfeed number

/-- A cursor over a source gives the lines of the source. -/
theorem lines_ofSource (source : ByteSource) : (ofSource source).lines = source.lines := (lines_fill_source source 0).1

/-- After the last line it holds the failure of the source. -/
theorem fault_ofSource (source : ByteSource) : (ofSource source).atEnd.fault = source.fault? :=
  (lines_fill_source source 0).2

end LineCursor

end NameBridge
