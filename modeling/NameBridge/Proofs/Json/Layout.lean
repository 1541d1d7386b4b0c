import NameBridge.Json.Reader
import NameBridge.Json.Value

/-!
Layouts of a JSON text.

The two written forms of a value differ only in the blanks between its parts. A `Layout` says where these stand, and
`Value.write` writes a value in any layout; the form on one line and the form with one entry a line are the layouts
`Layout.compact` and `Layout.pretty` (`toList_compact`, `toList_pretty`). What is shown for every layout holds of both.
-/

namespace NameBridge.Json

/-- The text is made of blanks only. -/
def Blank (cs : List Char) : Prop := ∀ c ∈ cs, isSpace c = true

theorem blank_nil : Blank [] := nofun

/-- Where the blanks of a written form stand. -/
structure Layout where
  /-- Before an entry at some level of nesting, and before the closing bracket of what holds entries of the next. -/
  line : Nat → List Char
  /-- After the colon of an entry. -/
  gap : List Char
  blank_line : ∀ level, Blank (line level)
  blank_gap : Blank gap

namespace Layout

def compact : Layout := ⟨fun _ => [], [], fun _ => blank_nil, blank_nil⟩

def pretty : Layout where
  line level := '\n' :: List.replicate (2 * level) ' '
  gap := [' ']
  blank_line level := by
    intro c hc
    rcases List.mem_cons.1 hc with rfl | hc
    · rfl
    · rw [List.eq_of_mem_replicate hc]
      rfl
  blank_gap := by
    intro c hc
    rw [List.mem_singleton.1 hc]
    rfl

end Layout

namespace Value

mutual

/-- The text of a value in a layout. An empty list or object has no blanks in it. -/
def write (l : Layout) (level : Nat) : Value → List Char
  | null => "null".toList
  | bool true => "true".toList
  | bool false => "false".toList
  | number numeral => numeral.toList
  | text s => quoteChars s.toList
  | list [] => ['[', ']']
  | list (item :: items) =>
    '[' :: (l.line (level + 1) ++ item.write l (level + 1) ++ writeItems l (level + 1) items ++
      l.line level ++ [']'])
  | object [] => ['\x7b', '\x7d']
  | object ((key, value) :: entries) =>
    '\x7b' :: (l.line (level + 1) ++ quoteChars key.toList ++ ':' :: l.gap ++ value.write l (level + 1) ++
      writeEntries l (level + 1) entries ++ l.line level ++ ['\x7d'])

/-- The items after the first one. -/
def writeItems (l : Layout) (level : Nat) : List Value → List Char
  | [] => []
  | item :: items => ',' :: (l.line level ++ item.write l level ++ writeItems l level items)

/-- The entries after the first one. -/
def writeEntries (l : Layout) (level : Nat) : List (String × Value) → List Char
  | [] => []
  | (key, value) :: entries =>
    ',' :: (l.line level ++ quoteChars key.toList ++ ':' :: l.gap ++ value.write l level ++
      writeEntries l level entries)

end

theorem toList_quote (s : String) : (quote s).toList = quoteChars s.toList := String.toList_ofList

/-! ## The form on one line -/

mutual

/-- The form on one line is the layout without blanks. -/
theorem toList_compact (level : Nat) : ∀ v : Value, v.compact.toList = v.write .compact level
  | null => rfl
  | bool true => rfl
  | bool false => rfl
  | number _ => rfl
  | text s => toList_quote s
  | list [] => rfl
  | list (item :: items) => by
    simp [compact, write, Layout.compact, toList_compactItems (level + 1) (item :: items), writeItems]
  | object [] => by simp [compact, write, compactEntries]
  | object ((key, value) :: entries) => by
    simp [compact, write, Layout.compact, toList_compactEntries (level + 1) ((key, value) :: entries), writeEntries]

-- the first item has no comma before it
theorem toList_compactItems (level : Nat) : ∀ items : List Value,
    (compactItems items).toList = (writeItems .compact level items).tail
  | [] => rfl
  | [item] => by simp [compactItems, writeItems, toList_compact level item, Layout.compact]
  | item :: next :: items => by
    simp [compactItems, writeItems, toList_compact level item, toList_compactItems level (next :: items),
      Layout.compact]

theorem toList_compactEntries (level : Nat) : ∀ entries : List (String × Value),
    (compactEntries entries).toList = (writeEntries .compact level entries).tail
  | [] => rfl
  | [(key, value)] => by
    simp [compactEntries, writeEntries, toList_compact level value, toList_quote, Layout.compact]
  | (key, value) :: next :: entries => by
    simp [compactEntries, writeEntries, toList_compact level value, toList_quote,
      toList_compactEntries level (next :: entries), Layout.compact]

end

/-! ## The form with one entry a line -/

theorem toList_newLine (level : Nat) : (newLine level).toList = Layout.pretty.line level := by
  simp [newLine, Layout.pretty]

mutual

theorem toList_prettyAt (level : Nat) : ∀ v : Value, (v.prettyAt level).toList = v.write .pretty level
  | null => rfl
  | bool true => rfl
  | bool false => rfl
  | number _ => rfl
  | text s => toList_quote s
  | list [] => by simp [prettyAt, write]
  | list (item :: items) => by
    simp [prettyAt, write, toList_newLine, toList_prettyAt (level + 1) item, toList_prettyItems (level + 1) items]
  | object [] => by simp [prettyAt, write]
  | object ((key, value) :: entries) => by
    simp [prettyAt, write, toList_newLine, toList_quote, toList_prettyAt (level + 1) value,
      toList_prettyEntries (level + 1) entries, Layout.pretty]

theorem toList_prettyItems (level : Nat) : ∀ items : List Value,
    (prettyItems level items).toList = writeItems .pretty level items
  | [] => rfl
  | item :: items => by
    simp [prettyItems, writeItems, toList_newLine, toList_prettyAt level item, toList_prettyItems level items]

theorem toList_prettyEntries (level : Nat) : ∀ entries : List (String × Value),
    (prettyEntries level entries).toList = writeEntries .pretty level entries
  | [] => rfl
  | (key, value) :: entries => by
    simp [prettyEntries, writeEntries, toList_newLine, toList_quote, toList_prettyAt level value,
      toList_prettyEntries level entries, Layout.pretty]

end

/-- The form with one entry a line is a layout too. -/
theorem toList_pretty (v : Value) : v.pretty.toList = v.write .pretty 0 := toList_prettyAt 0 v

end Value

end NameBridge.Json
