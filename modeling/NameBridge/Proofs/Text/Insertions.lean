import Mathlib.Data.List.Forall2
import NameBridge.Proofs.Text.Sources

/-!
Lines put into a text.

A text has these lines (`HasLines`) if each is ended by a line feed, except that the last need not be. Reading a text
gives its lines, apart from carriage returns at their ends (`forall₂_textLines`). An `Insertion` is a text before and
after lines were put in at any places, and `addedBefore` counts the ones above a line that was there before. Every
source that does not break off is a text (`exists_text`), so texts are all that can be read without a failure.
-/

namespace NameBridge

/-- The lines of a text. -/
inductive HasLines : String → List String → Prop
  | empty : HasLines "" []
  /-- Nothing ends the last line. -/
  | last {line : String} (one : '\n' ∉ line.toList) (ne : line ≠ "") : HasLines line [line]
  | cons {line rest : String} {lines : List String} (one : '\n' ∉ line.toList) (more : HasLines rest lines) :
      HasLines (line ++ "\n" ++ rest) (line :: lines)

theorem exists_hasLines (s : String) : ∃ lines, HasLines s lines := by
  induction hlen : s.toList.length using Nat.strongRecOn generalizing s with
  | ind length ih =>
    rcases one_piece_or_line s with hs | ⟨line, rest, hline, rfl⟩
    · by_cases hempty : s = ""
      · exact ⟨[], hempty ▸ .empty⟩
      · exact ⟨[s], .last hs hempty⟩
    · have hshorter : rest.toList.length < length := by
        rw [← hlen]
        simp only [String.toList_append, List.length_append]
        have hfeed : "\n".toList.length = 1 := rfl
        omega
      obtain ⟨lines, hlines⟩ := ih _ hshorter rest rfl
      exact ⟨line :: lines, .cons hline hlines⟩

/-- A line is read as it stands, or without the carriage return at its end. -/
def ReadAs (line read : String) : Prop := read = line ∨ read = dropReturn line

theorem forall₂_textLines {s : String} {lines : List String} (h : HasLines s lines) :
    List.Forall₂ ReadAs lines (textLines s) := by
  induction h with
  | empty => exact .nil
  | last one ne =>
    rw [textLines_of_not_mem one, if_neg ne]
    exact .cons (.inl rfl) .nil
  | cons one _ ih =>
    rw [textLines_append one]
    exact .cons (.inr rfl) ih

/-- What does not look at a carriage return at the end of a line comes to the same for lines as they are read. -/
theorem foldl_readAs {σ : Type} {f : σ → String → σ} (hf : ∀ a line, f a (dropReturn line) = f a line)
    {lines read : List String} (h : List.Forall₂ ReadAs lines read) (a : σ) : read.foldl f a = lines.foldl f a := by
  induction h generalizing a with
  | nil => rfl
  | cons hline _ ih =>
    rcases hline with rfl | rfl
    · exact ih _
    · rw [List.foldl_cons, List.foldl_cons, hf]
      exact ih _

/-! ## Lines put in -/

/-- A line of a text that lines have been put into. -/
inductive Placed where
  /-- It was there before. -/
  | kept (line : String)
  | added (line : String)

namespace Placed

def line : Placed → String
  | .kept line | .added line => line

def kept? : Placed → Option String
  | .kept line => some line
  | .added _ => none

end Placed

/-- How many lines were put in above the line that was line `number` before, counted from one. -/
def addedBefore : List Placed → Nat → Nat
  | [], _ => 0
  | .added _ :: placed, number => addedBefore placed number + 1
  | .kept _ :: placed, number => if number ≤ 1 then 0 else addedBefore placed (number - 1)

/-- A text before and after lines of a certain kind were put into it. -/
structure Insertion (kind : String → Prop) where
  before : String
  after : String
  placed : List Placed
  before_lines : HasLines before (placed.filterMap Placed.kept?)
  after_lines : HasLines after (placed.map Placed.line)
  kind_of_added : ∀ line, .added line ∈ placed → kind line

theorem hasLines_unlines {lines : List String} (h : ∀ line ∈ lines, '\n' ∉ line.toList) :
    HasLines (unlines lines) lines := by
  induction lines with
  | nil => exact .empty
  | cons line lines ih =>
    exact .cons (h line List.mem_cons_self) (ih fun l hl => h l (List.mem_cons_of_mem _ hl))

/-- The insertion that gives these lines, each of them ended by a line feed. -/
def Insertion.ofPlaced {kind : String → Prop} (placed : List Placed) (one : ∀ p ∈ placed, '\n' ∉ p.line.toList)
    (kind_of_added : ∀ line, .added line ∈ placed → kind line) : Insertion kind where
  before := unlines (placed.filterMap Placed.kept?)
  after := unlines (placed.map Placed.line)
  placed := placed
  before_lines := hasLines_unlines fun line hline => by
    obtain ⟨p, hp, hkept⟩ := List.mem_filterMap.1 hline
    cases p with
    | kept l => exact Option.some.inj hkept ▸ one _ hp
    | added l => cases hkept
  after_lines := hasLines_unlines fun line hline => by
    obtain ⟨p, hp, rfl⟩ := List.mem_map.1 hline
    exact one p hp
  kind_of_added := kind_of_added

/-- What passes over the lines put in comes to the same for both texts. -/
theorem foldl_placed {σ : Type} {f : σ → String → σ} {placed : List Placed}
    (h : ∀ line, .added line ∈ placed → ∀ a, f a line = a) (a : σ) :
    (placed.map Placed.line).foldl f a = (placed.filterMap Placed.kept?).foldl f a := by
  induction placed generalizing a with
  | nil => rfl
  | cons p placed ih =>
    have hrest := ih fun line hline => h line (List.mem_cons_of_mem _ hline)
    cases p with
    | kept line => exact hrest _
    | added line =>
      rw [List.map_cons, List.foldl_cons, Placed.line, h line List.mem_cons_self]
      exact hrest _

/-! ## Sources as texts -/

theorem Text.encode_of_decode? {bytes : List UInt8} {s : String} (h : decode? bytes = some s) : encode s = bytes := by
  unfold decode? String.fromUTF8? at h
  split at h
  · cases h
    rw [encode, String.toUTF8_eq_toByteArray, toList_eq_data]
    rfl
  · cases h

/-- A source that does not break off holds a text. -/
theorem ByteSource.exists_text {source : ByteSource} (h : source.fault? = none) : ∃ s, source = .ofString s := by
  obtain ⟨bytes, failure⟩ := source
  induction hlen : bytes.length using Nat.strongRecOn generalizing bytes with
  | ind length ih =>
    by_cases hfeed : lineFeed ∈ bytes
    · obtain ⟨before, after, rfl, hbefore⟩ := List.eq_append_cons_of_mem hfeed
      rw [fault?, pieces_append hbefore, faultOf_eq_none_iff] at h
      obtain ⟨hfailure, hpieces⟩ := h
      obtain ⟨line, hline⟩ := Option.isSome_iff_exists.1 (hpieces before List.mem_cons_self)
      have hshorter : after.length < length := by
        rw [← hlen, List.length_append, List.length_cons]
        omega
      have hrest : fault? ⟨after, failure⟩ = none := by
        rw [fault?, faultOf_eq_none_iff]
        exact ⟨hfailure, fun piece hpiece => hpieces piece (List.mem_cons_of_mem _ hpiece)⟩
      obtain ⟨rest, hrest⟩ := ih _ hshorter after hrest rfl
      refine ⟨line ++ "\n" ++ rest, ?_⟩
      rw [ofString, mk.injEq] at hrest ⊢
      rw [Text.encode_append, Text.encode_append, Text.encode_lineFeed, Text.encode_of_decode? hline, hrest.1,
        List.append_assoc, List.singleton_append]
      exact ⟨rfl, hrest.2⟩
    · rw [fault?, pieces_of_not_mem hfeed, faultOf_eq_none_iff] at h
      obtain ⟨rfl, hpieces⟩ := h
      obtain ⟨s, hs⟩ := Option.isSome_iff_exists.1 (hpieces bytes List.mem_cons_self)
      exact ⟨s, by rw [ofString, Text.encode_of_decode? hs]⟩

end NameBridge
