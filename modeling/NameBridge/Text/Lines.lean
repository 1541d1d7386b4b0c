import NameBridge.Files.Failure

/-!
Lines of a byte stream, read one ahead.

A line ends at a line feed; the line feed and one carriage return directly before it are not part
of the line. A stream may break off with a failure; the line being read then is lost. A line that
is not valid UTF-8 ends the stream in the same way.

`LineCursor` gives the lines one at a time and always knows the next one. `take_remaining_lt` is the
measure that loops over a cursor end by.
-/

namespace NameBridge

/-- The bytes of a file, and the failure that cuts them short if there is one. -/
structure ByteSource where
  bytes : List UInt8
  failure : Option FileError := none
  deriving Repr

namespace Text

/-- The text whose UTF-8 form is `bytes`. -/
def decode? (bytes : List UInt8) : Option String :=
  String.fromUTF8? ⟨bytes.toArray⟩

def encode (s : String) : List UInt8 := s.toUTF8.toList

end Text

/-- A source that holds a text and does not fail. -/
def ByteSource.ofString (s : String) : ByteSource := ⟨Text.encode s, none⟩

/-- The whole text of a source. A failure of the stream comes before a fault of the text. -/
def ByteSource.text (source : ByteSource) : Except FileError String :=
  match source.failure, Text.decode? source.bytes with
  | some cause, _ => .error cause
  | none, some s => .ok s
  | none, none => .error .invalidText

/-- What is found at the start of a source. -/
inductive NextLine where
  | ended
  /-- A line, and the bytes after it. -/
  | line (text : String) (rest : List UInt8)
  /-- The line could not be read. -/
  | failed (cause : FileError)
  deriving Repr

/-- A line without the carriage return it may end with. -/
def dropReturn (line : String) : String :=
  match line.toList.reverse with
  | '\r' :: body => String.ofList body.reverse
  | _ => line

def lineFeed : UInt8 := 10

/-- The line with these bytes, if they are text; `rest` comes after it. -/
def NextLine.ofBytes (body rest : List UInt8) : NextLine :=
  match Text.decode? body with
  | some text => .line text rest
  | none => .failed .invalidText

def NextLine.dropReturn : NextLine → NextLine
  | .line text rest => .line (NameBridge.dropReturn text) rest
  | other => other

/-- Read one line. An unterminated last line keeps its carriage return, and is lost if the source
breaks off. -/
def NextLine.read (source : ByteSource) : NextLine :=
  match source.bytes.dropWhile (· != lineFeed), source.failure with
  | _ :: rest, _ => (ofBytes (source.bytes.takeWhile (· != lineFeed)) rest).dropReturn
  | [], some cause => .failed cause
  | [], none => if source.bytes = [] then .ended else ofBytes source.bytes []

theorem NextLine.rest_of_ofBytes {body rest rest' : List UInt8} {text : String}
    (h : ofBytes body rest = .line text rest') : rest' = rest := by
  unfold ofBytes at h; split at h <;> simp_all

theorem NextLine.rest_of_dropReturn {l : NextLine} {rest : List UInt8} {text : String}
    (h : l.dropReturn = .line text rest) : ∃ text', l = .line text' rest := by
  cases l <;> simp_all [NextLine.dropReturn]

theorem NextLine.rest_length_lt {source : ByteSource} {text : String} {rest : List UInt8}
    (h : NextLine.read source = .line text rest) : rest.length < source.bytes.length := by
  have hle := (List.dropWhile_sublist (l := source.bytes) (· != lineFeed)).length_le
  unfold NextLine.read at h
  split at h
  · rename_i hdrop
    rw [hdrop, List.length_cons] at hle
    obtain ⟨_, h⟩ := rest_of_dropReturn h
    rw [rest_of_ofBytes h]; omega
  · cases h
  · split at h
    · cases h
    · rename_i hne
      rw [rest_of_ofBytes h]
      exact List.length_pos_iff.2 hne

/-- A place in a stream of lines, with the next line read already. -/
structure LineCursor where
  /-- The line that `take` gives next. -/
  ahead : Option String
  /-- What comes after it. -/
  unread : ByteSource
  /-- The failure that ended the stream, until it is collected. -/
  fault : Option FileError
  /-- How many lines have been taken. -/
  number : Nat
  deriving Repr

namespace LineCursor

/-- Put the next line of `source` ahead. -/
def fill (source : ByteSource) (number : Nat) : LineCursor :=
  match NextLine.read source with
  | .line text rest => ⟨some text, ⟨rest, source.failure⟩, none, number⟩
  | .failed cause => ⟨none, ⟨[], none⟩, some cause, number⟩
  | .ended => ⟨none, ⟨[], none⟩, none, number⟩

def ofSource (source : ByteSource) : LineCursor := fill source 0

def ofString (s : String) : LineCursor := ofSource (.ofString s)

/-- The next line, which stays where it is. -/
def peek (c : LineCursor) : Option String := c.ahead

/-- The next line, and the cursor after it. At the end of the stream nothing changes. -/
def take (c : LineCursor) : Option (String × LineCursor) :=
  c.ahead.map fun line => (line, fill c.unread (c.number + 1))

/-- The cursor when it turns out that more bytes follow. A stream that has ended stays so, and a line
that is ahead stays as it is. -/
def extend (c : LineCursor) (more : List UInt8) : LineCursor :=
  match c.ahead with
  | some _ => { c with unread := { c.unread with bytes := c.unread.bytes ++ more } }
  | none => c

/-- The failure that ended the stream, and the cursor that no longer holds it. -/
def takeFault (c : LineCursor) : Option FileError × LineCursor :=
  (c.fault, { c with fault := none })

/-- A bound on the lines still to come. -/
def remaining (c : LineCursor) : Nat :=
  match c.ahead with
  | some _ => c.unread.bytes.length + 1
  | none => 0

theorem remaining_fill_le (source : ByteSource) (number : Nat) :
    (fill source number).remaining ≤ source.bytes.length := by
  unfold fill remaining
  cases h : NextLine.read source with
  | line text rest => exact NextLine.rest_length_lt h
  | failed cause => simp
  | ended => simp

theorem take_remaining_lt {c c' : LineCursor} {line : String} (h : c.take = some (line, c')) :
    c'.remaining < c.remaining := by
  simp only [take, Option.map_eq_some_iff, Prod.mk.injEq] at h
  obtain ⟨a, ha, -, rfl⟩ := h
  have := remaining_fill_le c.unread (c.number + 1)
  simp only [remaining, ha] at *
  omega

theorem take_eq_none_iff {c : LineCursor} : c.take = none ↔ c.peek = none := by
  simp [take, peek]

theorem number_fill (source : ByteSource) (number : Nat) : (fill source number).number = number := by
  unfold fill; split <;> rfl

/-- Each line taken raises the line number by one. -/
theorem number_take {c c' : LineCursor} {line : String} (h : c.take = some (line, c')) :
    c'.number = c.number + 1 := by
  simp only [take, Option.map_eq_some_iff, Prod.mk.injEq] at h
  obtain ⟨_, _, -, rfl⟩ := h
  exact number_fill _ _

end LineCursor

end NameBridge
