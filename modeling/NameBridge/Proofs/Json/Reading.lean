import Mathlib.Data.List.Forall2
import NameBridge.Json.Tree
import NameBridge.Proofs.Json.Layout
import NameBridge.Proofs.Basic

/-!
Written values are read back.

`Reader.Takes r v a` says that the reader `r` takes `a` from the value `v`: from its text in any layout, with any blanks
before it and whatever comes after. Each shape that a reader may have has a lemma here that gives what it takes from
what its parts take, so a reader that is put together from these shapes needs no look at the text. A reader that takes
`a` from `v` parses both written forms of `v` (`parse_compact`, `parse_pretty`).
-/

namespace NameBridge.Json

namespace Reader

variable {α β σ : Type} {r : Reader α} {cs ds bs rest : List Char} {c : Char} {a : α}

/-! ## What a reader gives -/

/-- The reader gives a value, and leaves a part of the text. -/
def Gives (r : Reader α) (cs : List Char) (a : α) (rest : List Char) : Prop := ∃ h, r cs = .ok ⟨a, rest, h⟩

theorem Gives.map (h : r.Gives cs a rest) (g : α → β) : (r.map g).Gives cs (g a) rest := by
  obtain ⟨hlt, h⟩ := h
  exact ⟨hlt, by rw [Reader.map, h]; rfl⟩

theorem skipSpace_blank (hbs : Blank bs) (hc : isSpace c = false) (cs : List Char) :
    skipSpace (bs ++ c :: cs) = c :: cs := by
  rw [skipSpace, List.dropWhile_append_of_pos hbs, List.dropWhile_cons_of_neg (by simp [hc])]

theorem Gives.afterSpace (hbs : Blank bs) (hc : isSpace c = false) (h : r.Gives (c :: cs) a rest) :
    (r.afterSpace).Gives (bs ++ c :: cs) a rest := by
  rw [← skipSpace_blank hbs hc cs] at h
  obtain ⟨hlt, h⟩ := h
  exact ⟨Nat.lt_of_lt_of_le hlt (skipSpace_length_le _), by rw [Reader.afterSpace, h]; rfl⟩

theorem gives_word (value : α) (w : List Char) (c : Char) (rest : List Char) :
    (word value (c :: w)).Gives (c :: (w ++ rest)) value rest := by
  induction w generalizing c with
  | nil => exact ⟨Nat.lt_succ_self _, by simp [word, Found.one]⟩
  | cons d w ih =>
    obtain ⟨hlt, h⟩ := ih d
    refine ⟨Nat.lt_succ_of_lt hlt, ?_⟩
    simp [word, h, Except.map, Found.after, Found.widen]

/-! ## Strings -/

theorem hexValue?_hexDigit : ∀ n < 16, hexValue? (hexDigit n) = some n := by decide

theorem hex_control {n : Nat} (hn : n < 0x20) (rest : List Char) :
    hex.Gives ('0' :: '0' :: hexDigit (n / 16) :: hexDigit (n % 16) :: rest) n rest := by
  have hhigh := hexValue?_hexDigit (n / 16) (by omega)
  have hlow := hexValue?_hexDigit (n % 16) (by omega)
  have hzero : hexValue? '0' = some 0 := rfl
  have hvalue : n / 16 * 16 + n % 16 = n := Nat.div_add_mod' n 16
  exact ⟨by simp only [List.length_cons]; omega, by simp [hex, fourHex?, hhigh, hlow, hzero, hvalue]⟩

/-- A character below the blank is written by its number. -/
theorem codePoint_control {n : Nat} (hn : n < 0x20) (rest : List Char) :
    codePoint.Gives ('0' :: '0' :: hexDigit (n / 16) :: hexDigit (n % 16) :: rest) (Char.ofNat n) rest := by
  obtain ⟨hlt, h⟩ := hex_control hn rest
  have hlow : isLowSurrogate n = false := by simp [isLowSurrogate]; omega
  have hhigh : isHighSurrogate n = false := by simp [isHighSurrogate]; omega
  exact ⟨hlt, by simp [codePoint, h, hlow, hhigh, bind, Except.bind, pure, Except.pure]⟩

/-- A character is written after a backslash or as it is. -/
theorem escape_cases (c : Char) :
    (∃ ds, escape c = '\\' :: ds ∧ ∀ rest, escaped.Gives (ds ++ rest) c rest) ∨
      escape c = [c] ∧ c ≠ '"' ∧ c ≠ '\\' ∧ ¬c.toNat < 0x20 := by
  have hletter (d : Char) (hd : letterEscape? d = some c) (hu : d ≠ 'u') (rest : List Char) :
      escaped.Gives ([d] ++ rest) c rest := by
    refine ⟨Nat.lt_succ_self _, ?_⟩
    show escaped (d :: rest) = _
    simp [escaped, hd, Found.one]
  unfold escape
  split_ifs with h1 h2 h3 h4 h5 h6 h7 h8
  · exact .inl ⟨_, rfl, hletter '"' (by rw [h1]; rfl) (by decide)⟩
  · exact .inl ⟨_, rfl, hletter '\\' (by rw [h2]; rfl) (by decide)⟩
  · exact .inl ⟨_, rfl, hletter 'b' (by rw [h3]; rfl) (by decide)⟩
  · exact .inl ⟨_, rfl, hletter 'f' (by rw [h4]; rfl) (by decide)⟩
  · exact .inl ⟨_, rfl, hletter 'n' (by rw [h5]; rfl) (by decide)⟩
  · exact .inl ⟨_, rfl, hletter 'r' (by rw [h6]; rfl) (by decide)⟩
  · exact .inl ⟨_, rfl, hletter 't' (by rw [h7]; rfl) (by decide)⟩
  · refine .inl ⟨_, rfl, fun rest => ?_⟩
    obtain ⟨hlt, h⟩ := codePoint_control h8 rest
    rw [Char.ofNat_toNat] at h
    refine ⟨Nat.lt_succ_of_lt hlt, ?_⟩
    simp [escaped, h, Except.map, Found.after, Found.widen]
  · exact .inr ⟨rfl, h1, h2, h8⟩

/-- Reading up to the closing quote takes back what was escaped. -/
theorem untilQuote_escape (s rest : List Char) :
    Gives (untilQuote id escaped) (s.flatMap escape ++ '"' :: rest) s rest := by
  induction s with
  | nil =>
    refine ⟨Nat.lt_succ_self _, ?_⟩
    show untilQuote id escaped ('"' :: rest) = _
    rw [untilQuote]
    rfl
  | cons c s ih =>
    obtain ⟨hlt, h⟩ := ih
    rw [List.flatMap_cons, List.append_assoc]
    rcases escape_cases c with ⟨ds, heq, hds⟩ | ⟨heq, hquote, hback, hcontrol⟩
    · obtain ⟨hlt', h'⟩ := hds (s.flatMap escape ++ '"' :: rest)
      rw [heq, List.cons_append]
      refine ⟨Nat.lt_succ_of_lt (Nat.lt_trans hlt hlt'), ?_⟩
      rw [untilQuote]
      simp [h', h, bind, Except.bind, pure, Except.pure]
    · rw [heq, List.cons_append, List.nil_append]
      refine ⟨Nat.lt_succ_of_lt hlt, ?_⟩
      rw [untilQuote]
      · simp [hcontrol, h, bind, Except.bind, pure, Except.pure]
      · exact hquote
      · exact hback

/-- A string is read back up to its closing quote. -/
theorem quoted_escape (s : String) (rest : List Char) :
    quoted.Gives (s.toList.flatMap escape ++ '"' :: rest) s rest := by
  obtain ⟨hlt, h⟩ := untilQuote_escape s.toList rest
  exact ⟨hlt, by simp [quoted, h, Except.map, Found.map]⟩

end Reader

namespace Value

/-- The character that the text of a value starts with, unless the value is a number. -/
def opening : Value → Char
  | null => 'n'
  | bool true => 't'
  | bool false => 'f'
  | number _ => '0'
  | text _ => '"'
  | list _ => '['
  | object _ => '\x7b'

/-- The value is not a number. -/
def NotNumber (v : Value) : Prop := ∀ numeral, v ≠ number numeral

theorem exists_write {v : Value} (h : v.NotNumber) (l : Layout) (level : Nat) :
    ∃ cs, v.write l level = v.opening :: cs := by
  cases v with
  | null => exact ⟨_, rfl⟩
  | bool b => cases b <;> exact ⟨_, rfl⟩
  | number numeral => exact absurd rfl (h numeral)
  | text s => exact ⟨_, rfl⟩
  | list items => cases items <;> exact ⟨_, rfl⟩
  | object entries => cases entries <;> exact ⟨_, rfl⟩

theorem isSpace_opening (v : Value) : isSpace v.opening = false := by
  cases v with
  | bool b => cases b <;> rfl
  | _ => rfl

theorem opening_ne_bracket (v : Value) : v.opening ≠ ']' := by
  cases v with
  | bool b => cases b <;> simp [opening]
  | _ => simp [opening]

end Value

namespace Reader

variable {α β σ : Type} {r : Reader α} {cs ds bs rest : List Char} {c : Char} {a : α} {v : Value}

/-! ## Values taken by a reader -/

/-- The reader takes `a` from the value `v`, in any layout and at any place. -/
structure Takes (r : Reader α) (v : Value) (a : α) : Prop where
  notNumber : v.NotNumber
  gives : ∀ (l : Layout) (level : Nat) {bs : List Char} (rest : List Char), Blank bs →
    r.Gives (bs ++ (v.write l level ++ rest)) a rest

theorem Takes.map (h : r.Takes v a) (g : α → β) : (r.map g).Takes v (g a) :=
  ⟨h.notNumber, fun l level _ rest hbs => (h.gives l level rest hbs).map g⟩

/-- A reader that passes over blanks first need be looked at only where the value starts. -/
theorem Takes.afterSpace (hv : v.NotNumber)
    (h : ∀ (l : Layout) (level : Nat) (rest : List Char), r.Gives (v.write l level ++ rest) a rest) :
    (r.afterSpace).Takes v a := by
  refine ⟨hv, fun l level bs rest hbs => ?_⟩
  obtain ⟨cs, hcs⟩ := Value.exists_write hv l level
  have hr := h l level rest
  rw [hcs, List.cons_append] at hr ⊢
  exact hr.afterSpace hbs v.isSpace_opening

/-- Reading on after a character that has been looked at. -/
theorem Gives.after {r : Reader α} (h : r.Gives cs a rest) (c : Char) :
    ∃ hlt, (r cs).map (·.after) = .ok (⟨a, rest, hlt⟩ : Found α (c :: cs)) := by
  obtain ⟨hlt, h⟩ := h
  exact ⟨Nat.lt_succ_of_lt hlt, by rw [h]; rfl⟩

theorem write_text (s : String) (l : Layout) (level : Nat) (rest : List Char) :
    Value.write l level (.text s) ++ rest = '"' :: (s.toList.flatMap escape ++ '"' :: rest) := by
  simp [Value.write, quoteChars]

theorem text_takes (s : String) : text.Takes (.text s) s := by
  refine .afterSpace nofun fun l level rest => ?_
  rw [write_text]
  exact (quoted_escape s rest).after '"'

/-- `null` is read as nothing. -/
theorem option_takes_null : (option r).Takes .null none :=
  .afterSpace nofun fun _ _ rest => gives_word none "ull".toList 'n' rest

theorem option_takes (h : r.Takes v a) (hv : v ≠ .null) : (option r).Takes v (some a) := by
  refine .afterSpace h.notNumber fun l level rest => ?_
  obtain ⟨cs, hcs⟩ := Value.exists_write h.notNumber l level
  have hn : v.opening ≠ 'n' := by
    cases v with
    | null => exact absurd rfl hv
    | bool b => cases b <;> simp [Value.opening]
    | _ => simp [Value.opening]
  have hgives := (h.gives l level rest blank_nil).map some
  rw [List.nil_append, hcs, List.cons_append] at hgives
  rw [hcs, List.cons_append]
  obtain ⟨hlt, hgives⟩ := hgives
  exact ⟨hlt, (if_neg (by simpa using hn)).trans hgives⟩

/-! ## Lists -/

section Lists

variable {item : Reader α} {values : List Value} {as : List α}

theorem nextItem_bracket (isFirst : Bool) (h : skipSpace cs = ']' :: rest) :
    ∃ hle, nextItem isFirst cs = .ok ⟨false, ']' :: rest, hle⟩ := by
  have hle := skipSpace_length_le cs
  rw [h] at hle
  refine ⟨hle, ?_⟩
  unfold nextItem
  split
  · rename_i hnil
    cases hnil.symm.trans h
  · rename_i hcons
    cases hcons.symm.trans h
    rfl

theorem nextItem_first (h : skipSpace cs = c :: rest) (hc : c ≠ ']') :
    ∃ hle, nextItem true cs = .ok ⟨true, c :: rest, hle⟩ := by
  have hle := skipSpace_length_le cs
  rw [h] at hle
  refine ⟨hle, ?_⟩
  unfold nextItem
  split
  · rename_i hnil
    cases hnil.symm.trans h
  · rename_i hcons
    cases hcons.symm.trans h
    simp [hc]

/-- After a comma there must be an item, and the blanks before it are left to its reader. -/
theorem nextItem_comma (h : skipSpace cs = ',' :: rest) (hitem : skipSpace rest = c :: ds) (hc : c ≠ ']') :
    ∃ hle, nextItem false cs = .ok ⟨true, rest, hle⟩ := by
  have hle := skipSpace_length_le cs
  rw [h, List.length_cons] at hle
  refine ⟨by omega, ?_⟩
  unfold nextItem
  split
  · rename_i hnil
    cases hnil.symm.trans h
  · rename_i hcons
    cases hcons.symm.trans h
    simp only [hitem]
    rw [if_neg (by decide), if_neg (by decide), if_pos (by decide)]
    split
    · rename_i heq
      cases heq
    · rename_i heq
      cases heq
      exact absurd rfl hc
    · rfl

theorem endOfList_gives (value : α) (rest : List Char) : (endOfList value).Gives (']' :: rest) value rest :=
  Gives.afterSpace blank_nil rfl ⟨Nat.lt_succ_self _, rfl⟩

theorem items_last (isFirst : Bool) (hbs : Blank bs) (rest : List Char) :
    Gives (items item isFirst) (bs ++ ']' :: rest) [] rest := by
  obtain ⟨hle, hturn⟩ := nextItem_bracket isFirst (skipSpace_blank hbs (c := ']') rfl rest)
  obtain ⟨hlt, hend⟩ := endOfList_gives ([] : List α) rest
  refine ⟨Nat.lt_of_lt_of_le hlt hle, ?_⟩
  rw [items]
  simp [hturn, hend, bind, Except.bind, pure, Except.pure, Found.widen]

/-- One more item is read. -/
theorem items_next {isFirst : Bool} (hturn : ∃ hle, nextItem isFirst cs = .ok ⟨true, ds, hle⟩)
    (hitem : item.Gives ds a bs) (h : Gives (items item false) bs as rest) :
    Gives (items item isFirst) cs (a :: as) rest := by
  obtain ⟨hle, hturn⟩ := hturn
  obtain ⟨hlt, hitem⟩ := hitem
  obtain ⟨hlt', h⟩ := h
  refine ⟨by omega, ?_⟩
  rw [items]
  simp [hturn, hitem, h, bind, Except.bind, pure, Except.pure]

theorem Takes.skipSpace (h : r.Takes v a) (hbs : Blank bs) (l : Layout) (level : Nat) (rest : List Char) :
    ∃ cs, skipSpace (bs ++ (v.write l level ++ rest)) = v.opening :: cs := by
  obtain ⟨cs, hcs⟩ := Value.exists_write h.notNumber l level
  exact ⟨cs ++ rest, by rw [hcs, List.cons_append, skipSpace_blank hbs v.isSpace_opening]⟩

/-- The items after the first one are read up to the closing bracket. -/
theorem items_gives (h : List.Forall₂ item.Takes values as) (l : Layout) (level : Nat) (hbs : Blank bs)
    (rest : List Char) :
    Gives (items item false) (Value.writeItems l level values ++ (bs ++ ']' :: rest)) as rest := by
  induction h with
  | nil => exact items_last false hbs rest
  | @cons v a values as hv _ ih =>
    have hline := l.blank_line level
    obtain ⟨cs, hcs⟩ := hv.skipSpace hline l level (Value.writeItems l level values ++ (bs ++ ']' :: rest))
    simp only [Value.writeItems, List.cons_append, List.append_assoc]
    exact items_next (nextItem_comma (skipSpace_blank blank_nil rfl _) hcs v.opening_ne_bracket)
      (hv.gives l level _ hline) ih

/-- The items of a written list are read after its opening bracket. -/
theorem items_write (h : List.Forall₂ item.Takes values as) (l : Layout) (level : Nat) (rest : List Char) :
    ∃ cs, Value.write l level (.list values) ++ rest = '[' :: cs ∧ Gives (items item true) cs as rest := by
  cases h with
  | nil => exact ⟨_, rfl, items_last true blank_nil rest⟩
  | @cons v a values as hv h =>
    refine ⟨_, by simp only [Value.write, List.cons_append, List.append_assoc, List.nil_append]; rfl, ?_⟩
    have hitems := items_gives h l (level + 1) (l.blank_line level) rest
    have hfirst := hv.gives l (level + 1) (Value.writeItems l (level + 1) values ++ (l.line level ++ ']' :: rest))
      blank_nil
    obtain ⟨cs, hcs⟩ := Value.exists_write hv.notNumber l (level + 1)
    rw [hcs, List.cons_append, List.nil_append] at hfirst
    rw [hcs, List.cons_append]
    have hskip := skipSpace_blank (l.blank_line (level + 1)) v.isSpace_opening
      (cs ++ (Value.writeItems l (level + 1) values ++ (l.line level ++ ']' :: rest)))
    exact items_next (nextItem_first hskip v.opening_ne_bracket) hfirst hitems

theorem list_takes (h : List.Forall₂ item.Takes values as) : (list item).Takes (.list values) as := by
  refine .afterSpace nofun fun l level rest => ?_
  obtain ⟨cs, htext, hitems⟩ := items_write h l level rest
  rw [htext]
  exact hitems.after '['

end Lists

/-! ## Objects -/

section Objects

variable {κ : Type} {readKey : Reader κ} {entry : σ → String → Except Fault (Reader σ)} {s s' : σ}
  {fields : List (String × Value)}

theorem nextKey_brace (isFirst : Bool) (hbs : Blank bs) (rest : List Char) :
    (nextKey isFirst).Gives (bs ++ '\x7d' :: rest) false rest :=
  Gives.afterSpace hbs rfl ⟨Nat.lt_succ_self _, rfl⟩

theorem nextKey_first (hbs : Blank bs) (rest : List Char) : (nextKey true).Gives (bs ++ '"' :: rest) true rest :=
  Gives.afterSpace hbs rfl ⟨Nat.lt_succ_self _, rfl⟩

theorem nextKey_comma (hbs : Blank bs) (rest : List Char) :
    (nextKey false).Gives (',' :: (bs ++ '"' :: rest)) true rest := by
  have hskip := skipSpace_blank hbs (c := '"') rfl rest
  refine Gives.afterSpace blank_nil rfl ⟨?_, ?_⟩
  · simp only [List.length_cons, List.length_append]
    omega
  · simp only
    rw [if_neg (by decide), if_neg (by decide), if_pos (by decide)]
    split
    · rename_i hnil
      cases hnil.symm.trans hskip
    · rename_i hcons
      cases hcons.symm.trans hskip
      rfl

theorem afterColon_gives {r : Reader α} (h : r.Gives cs a rest) : (afterColon r).Gives (':' :: cs) a rest :=
  Gives.afterSpace blank_nil rfl (h.after ':')

/-- Reading these entries one after the other leads from a state to another one. -/
inductive Leads (entry : σ → String → Except Fault (Reader σ)) : σ → List (String × Value) → σ → Prop
  | nil (s : σ) : Leads entry s [] s
  | cons {s s' s'' : σ} {key : String} {v : Value} {r : Reader σ} {fields : List (String × Value)} :
    entry s key = .ok r → r.Takes v s' → Leads entry s' fields s'' → Leads entry s ((key, v) :: fields) s''

/-- One more entry is read. -/
theorem entries_next {isFirst : Bool} {key : String} {r : Reader σ} {s'' : σ}
    (hkey : (nextKey isFirst).Gives cs true (key.toList.flatMap escape ++ '"' :: ':' :: ds))
    (hentry : entry s key = .ok r) (hvalue : r.Gives ds s' bs) (h : (entries entry false s').Gives bs s'' rest) :
    (entries entry isFirst s).Gives cs s'' rest := by
  obtain ⟨hlt, hkey⟩ := hkey
  obtain ⟨hlt₁, hname⟩ := quoted_escape key (':' :: ds)
  obtain ⟨hlt₂, hcolon⟩ := afterColon_gives hvalue
  obtain ⟨hlt₃, h⟩ := h
  refine ⟨by omega, ?_⟩
  unfold entries at h ⊢
  rw [keyedEntries]
  simp [hkey, hname, hentry, hcolon, h, bind, Except.bind, pure, Except.pure]

theorem entries_last (isFirst : Bool) (s : σ) (hbs : Blank bs) (rest : List Char) :
    (entries entry isFirst s).Gives (bs ++ '\x7d' :: rest) s rest := by
  obtain ⟨hlt, hkey⟩ := nextKey_brace isFirst hbs rest
  refine ⟨hlt, ?_⟩
  unfold entries
  rw [keyedEntries]
  simp [hkey, bind, Except.bind, pure, Except.pure]

/-- The entries after the first one are read up to the closing brace. -/
theorem entries_gives (h : Leads entry s fields s') (l : Layout) (level : Nat)
    (hbs : Blank bs) (rest : List Char) :
    (entries entry false s).Gives (Value.writeEntries l level fields ++ (bs ++ '\x7d' :: rest)) s' rest := by
  induction h with
  | nil s => exact entries_last false s hbs rest
  | cons hentry hv _ ih =>
    simp only [Value.writeEntries, quoteChars, List.cons_append, List.append_assoc, List.nil_append]
    exact entries_next (nextKey_comma (l.blank_line level) _) hentry (hv.gives l level _ l.blank_gap) ih

/-- The entries of a written object are read after its opening brace. -/
theorem entries_write (h : Leads entry s fields s') (l : Layout) (level : Nat) (rest : List Char) :
    ∃ cs, Value.write l level (.object fields) ++ rest = '\x7b' :: cs ∧ (entries entry true s).Gives cs s' rest := by
  cases h with
  | nil => exact ⟨_, rfl, entries_last true s blank_nil rest⟩
  | cons hentry hv h =>
    refine ⟨_, by simp only [Value.write, quoteChars, List.cons_append, List.append_assoc, List.nil_append]; rfl, ?_⟩
    exact entries_next (nextKey_first (l.blank_line (level + 1)) _) hentry (hv.gives l (level + 1) _ l.blank_gap)
      (entries_gives h l (level + 1) (l.blank_line level) rest)

/-- A record takes from an object what finishing makes of the state that its entries lead to. -/
theorem record_takes {finish : σ → Except Fault α} {row : Reader α} (h : Leads entry s fields s')
    (hfinish : finish s' = .ok a) : (record entry s finish row).Takes (.object fields) a := by
  refine .afterSpace nofun fun l level rest => ?_
  obtain ⟨cs, htext, hlt, hentries⟩ := entries_write h l level rest
  rw [htext]
  exact ⟨Nat.lt_succ_of_lt hlt, by simp [hentries, hfinish, bind, Except.bind, pure, Except.pure]⟩

end Objects

/-! ## Words -/

theorem choice_takes {options : List (String × α)} {w : String} (h : options.lookup w = some a) :
    (choice options).Takes (.text w) a := by
  refine .afterSpace nofun fun l level rest => ?_
  obtain ⟨hlt, hquoted⟩ := quoted_escape w rest
  rw [write_text]
  exact ⟨Nat.lt_succ_of_lt hlt, by simp [hquoted, chosen, h, bind, Except.bind, pure, Except.pure]⟩

/-! ## Trees -/

theorem leaf_takes (s : String) : leaf.Takes (.text s) (.text s) := by
  refine .afterSpace nofun fun l level rest => ?_
  rw [write_text]
  exact ((quoted_escape s rest).map Value.text).after '"'

theorem tree_takes_text (depth : Nat) (s : String) : (tree depth).Takes (.text s) (.text s) := by
  cases depth with
  | zero => exact leaf_takes s
  | succ depth =>
    refine .afterSpace nofun fun l level rest => ?_
    have h := (leaf_takes s).gives l level rest blank_nil
    rw [List.nil_append] at h
    exact h

theorem tree_takes_list {depth : Nat} {values : List Value} (h : ∀ v ∈ values, (tree depth).Takes v v) :
    (tree (depth + 1)).Takes (.list values) (.list values) := by
  refine .afterSpace nofun fun l level rest => ?_
  obtain ⟨cs, htext, hlt, hitems⟩ := items_write (List.forall₂_same.2 h) l level rest
  rw [htext]
  exact ⟨Nat.lt_succ_of_lt hlt, by simp only [hitems]; rfl⟩

/-! ## What a reader can give -/

/-- Whatever the reader gives, from whatever text, has the property. -/
def Always (r : Reader α) (P : α → Prop) : Prop := ∀ cs (found : Found α cs), r cs = .ok found → P found.value

section Always

variable {P : α → Prop}

theorem afterSpace_always (h : r.Always P) : (r.afterSpace).Always P := by
  intro cs found hread
  obtain ⟨item, hitem, rfl⟩ := map_eq_ok_iff.1 hread
  exact h _ item hitem

theorem endOfList_always (value : α) : (endOfList value).Always (· = value) := by
  refine afterSpace_always fun cs found h => ?_
  split at h
  · cases h
  · cases h
    rfl
  · cases h

theorem items_always (h : r.Always P) (isFirst : Bool) : Always (items r isFirst) (∀ a ∈ ·, P a) := by
  intro cs
  induction hlen : cs.length using Nat.strongRecOn generalizing cs isFirst with
  | ind length ih =>
    intro found hread
    rw [items] at hread
    obtain ⟨turn, -, hread⟩ := bind_eq_ok_iff.1 hread
    split at hread
    · obtain ⟨item, hitem, hread⟩ := bind_eq_ok_iff.1 hread
      obtain ⟨more, hmore, hread⟩ := bind_eq_ok_iff.1 hread
      have hle := turn.notLonger
      have hlt := item.shorter
      cases hread
      exact List.forall_mem_cons.2 ⟨h _ item hitem, ih _ (by omega) false _ rfl more hmore⟩
    · obtain ⟨last, hlast, hread⟩ := bind_eq_ok_iff.1 hread
      cases hread
      show ∀ a ∈ last.value, P a
      rw [endOfList_always _ _ last hlast]
      exact List.forall_mem_nil P

theorem list_always (h : r.Always P) : (list r).Always (∀ a ∈ ·, P a) := by
  refine afterSpace_always fun cs found hread => ?_
  split at hread
  · obtain ⟨all, hall, rfl⟩ := map_eq_ok_iff.1 hread
    exact items_always h true _ all hall
  · cases hread

/-- What a record gives comes from its entries or from its items. -/
theorem record_always {entry : σ → String → Except Fault (Reader σ)} {start : σ} {finish : σ → Except Fault α}
    {row : Reader α} (hfinish : ∀ state a, finish state = .ok a → P a) (hrow : row.Always P) :
    (record entry start finish row).Always P := by
  refine afterSpace_always fun cs found hread => ?_
  split at hread
  · obtain ⟨state, -, hread⟩ := bind_eq_ok_iff.1 hread
    obtain ⟨a, ha, hread⟩ := bind_eq_ok_iff.1 hread
    cases hread
    exact hfinish _ a ha
  · obtain ⟨all, hall, rfl⟩ := map_eq_ok_iff.1 hread
    exact hrow _ all hall
  · cases hread

end Always

end Reader

/-! ## Whole texts -/

section Parse

variable {α : Type} {r : Reader α} {v : Value} {a : α}

theorem parse_of_gives {s : String} (h : r.Gives s.toList a []) : parse r s = .ok a := by
  obtain ⟨_, h⟩ := h
  rw [parse, h]
  rfl

theorem gives_write (h : r.Takes v a) (l : Layout) (level : Nat) : r.Gives (v.write l level) a [] := by
  have hgives := h.gives l level [] blank_nil
  rwa [List.nil_append, List.append_nil] at hgives

/-- A value is parsed from its form on one line. -/
theorem parse_compact (h : r.Takes v a) : parse r v.compact = .ok a :=
  parse_of_gives (by rw [Value.toList_compact 0 v]; exact gives_write h _ _)

/-- A value is parsed from its form with one entry a line. -/
theorem parse_pretty (h : r.Takes v a) : parse r v.pretty = .ok a :=
  parse_of_gives (by rw [Value.toList_pretty v]; exact gives_write h _ _)

theorem parse_always {P : α → Prop} {text : String} (h : r.Always P) (hparse : parse r text = .ok a) : P a := by
  unfold parse at hparse
  split at hparse
  · cases hparse
  · rename_i found hfound
    split at hparse
    · cases hparse
      exact h _ found hfound
    · cases hparse

end Parse

end NameBridge.Json
