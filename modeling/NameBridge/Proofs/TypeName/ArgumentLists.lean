import NameBridge.Proofs.TypeName.Erasure

/-!
Lists of type arguments.

A name with type arguments is made of pieces: texts without angle brackets, and lists between angle brackets, which are
made of pieces again. All brackets that a piece opens it also closes, so after it as many are open as before, and a list
inside of which nothing is kept leaves nothing (`outsideBrackets_texts`). What erasing keeps are the plain pieces at the
outermost level.
-/

namespace NameBridge.TypeName

/-- A text without angle brackets. -/
structure PlainText where
  chars : List Char
  no_opening : '<' ∉ chars
  no_closing : '>' ∉ chars

/-- A part of a name. -/
inductive Piece where
  | plain (text : PlainText)
  /-- The pieces between a pair of angle brackets. -/
  | list (pieces : List Piece)

namespace Piece

mutual

/-- The text of a piece. -/
def text : Piece → List Char
  | plain t => t.chars
  | list pieces => '<' :: (texts pieces ++ ['>'])

/-- The text of pieces one after another. -/
def texts : List Piece → List Char
  | [] => []
  | piece :: pieces => piece.text ++ texts pieces

end

/-- What of a piece is outside all brackets, if the piece itself is. -/
def bare : Piece → List Char
  | plain t => t.chars
  | list _ => []

theorem texts_append (first second : List Piece) : texts (first ++ second) = texts first ++ texts second := by
  induction first with
  | nil => rfl
  | cons piece pieces ih => rw [List.cons_append, texts, texts, ih, List.append_assoc]

end Piece

/-- The name that pieces make. -/
def nameOf (pieces : List Piece) : String := String.ofList (Piece.texts pieces)

/-- The plain pieces outside all brackets, in their order. -/
def bareNameOf (pieces : List Piece) : String := String.ofList (pieces.flatMap Piece.bare)

theorem nameOf_append (first second : List Piece) : nameOf (first ++ second) = nameOf first ++ nameOf second := by
  rw [nameOf, Piece.texts_append, String.ofList_append, nameOf, nameOf]

theorem bareNameOf_append (first second : List Piece) :
    bareNameOf (first ++ second) = bareNameOf first ++ bareNameOf second := by
  rw [bareNameOf, List.flatMap_append, String.ofList_append, bareNameOf, bareNameOf]

/-! ## Erasing piece by piece -/

mutual

/-- A piece closes the brackets that it opens, and of a list nothing is kept. -/
theorem outsideBrackets_text (depth : Nat) : ∀ piece : Piece,
    openAfter depth piece.text = depth ∧ outsideBrackets depth piece.text = if depth = 0 then piece.bare else []
  | .plain t => outsideBrackets_plain t.no_opening t.no_closing depth
  | .list pieces => by
    -- one bracket more is open in the list than in front of it
    obtain ⟨hafter, houtside⟩ := outsideBrackets_texts (depth + 1) pieces
    constructor
    · rw [Piece.text, openAfter, openAfter_append, hafter]
      rfl
    · rw [Piece.text, outsideBrackets, outsideBrackets_append, hafter, houtside, if_neg (Nat.succ_ne_zero depth)]
      exact (ite_self _).symm

theorem outsideBrackets_texts (depth : Nat) : ∀ pieces : List Piece,
    openAfter depth (Piece.texts pieces) = depth ∧
      outsideBrackets depth (Piece.texts pieces) = if depth = 0 then pieces.flatMap Piece.bare else []
  | [] => ⟨rfl, (ite_self _).symm⟩
  | piece :: pieces => by
    obtain ⟨hafter, houtside⟩ := outsideBrackets_text depth piece
    obtain ⟨hrestAfter, hrestOutside⟩ := outsideBrackets_texts depth pieces
    constructor
    · rw [Piece.texts, openAfter_append, hafter, hrestAfter]
    · rw [Piece.texts, outsideBrackets_append, hafter, houtside, hrestOutside, List.flatMap_cons]
      split <;> rfl

end

/-- Without an opening bracket there is no list among the pieces. -/
theorem flatMap_bare_of_no_opening {pieces : List Piece} (h : '<' ∉ Piece.texts pieces) :
    pieces.flatMap Piece.bare = Piece.texts pieces := by
  induction pieces with
  | nil => rfl
  | cons piece pieces ih =>
    rw [Piece.texts, List.mem_append, not_or] at h
    rw [List.flatMap_cons, Piece.texts, ih h.2]
    cases piece with
    | plain t => rfl
    | list _ => exact absurd List.mem_cons_self h.1

theorem eraseTypeArguments_nameOf (pieces : List Piece) : eraseTypeArguments (nameOf pieces) = bareNameOf pieces := by
  unfold eraseTypeArguments
  rw [nameOf, String.toList_ofList]
  split
  · rw [(outsideBrackets_texts 0 pieces).2, if_pos rfl, bareNameOf]
  · rw [bareNameOf, flatMap_bare_of_no_opening ‹_›]

/-! ## All names -/

theorem eraseTypeArguments_eraseTypeArguments (name : String) :
    eraseTypeArguments (eraseTypeArguments name) = eraseTypeArguments name :=
  eraseTypeArguments_eq_self (not_mem_eraseTypeArguments name)

theorem ne_bracket_of_mem_eraseTypeArguments {name : String} {c : Char} (hopen : '<' ∈ name.toList)
    (h : c ∈ (eraseTypeArguments name).toList) : c ≠ '<' ∧ c ≠ '>' := by
  rw [eraseTypeArguments, if_pos hopen, String.toList_ofList] at h
  exact ne_bracket_of_mem_outsideBrackets h

/-- Of a name that is made of pieces the plain ones outside all brackets are left, so the type arguments of two such
names can be erased apart. Of any name whatsoever nothing more is erased a second time, and no bracket is left if the
name opens one. -/
theorem argument_lists_erased (first second : List Piece) (name : String) :
    eraseTypeArguments (nameOf first) = bareNameOf first ∧
    eraseTypeArguments (nameOf first ++ nameOf second) =
      eraseTypeArguments (nameOf first) ++ eraseTypeArguments (nameOf second) ∧
    eraseTypeArguments (eraseTypeArguments name) = eraseTypeArguments name ∧
    ('<' ∈ name.toList → '<' ∉ (eraseTypeArguments name).toList ∧ '>' ∉ (eraseTypeArguments name).toList) := by
  refine ⟨eraseTypeArguments_nameOf first, ?_, eraseTypeArguments_eraseTypeArguments name, fun hopen => ⟨?_, ?_⟩⟩
  · rw [← nameOf_append, eraseTypeArguments_nameOf, eraseTypeArguments_nameOf, eraseTypeArguments_nameOf,
      bareNameOf_append]
  · exact fun h => (ne_bracket_of_mem_eraseTypeArguments hopen h).1 rfl
  · exact fun h => (ne_bracket_of_mem_eraseTypeArguments hopen h).2 rfl

/-- `Map<K,List<V>>` and an array suffix behind it. -/
def mapOfLists : List Piece :=
  [.plain ⟨"Map".toList, by decide, by decide⟩,
    .list [.plain ⟨"K,List".toList, by decide, by decide⟩, .list [.plain ⟨"V".toList, by decide, by decide⟩]],
    .plain ⟨"[]".toList, by decide, by decide⟩]

/-- Nested lists, and brackets that open or close nothing. -/
theorem erased_of_nested_and_unpaired :
    eraseTypeArguments "Map<K,List<V>>[]" = "Map[]" ∧
    eraseTypeArguments "Map<K,List<V>>[]Map<K,List<V>>[]" = "Map[]Map[]" ∧
    eraseTypeArguments "A>B<C>>D<" = "ABD" ∧
    eraseTypeArguments "ABD" = "ABD" ∧
    '<' ∈ "A>B<C>>D<".toList ∧ '<' ∉ "ABD".toList ∧ '>' ∉ "ABD".toList := by
  have hname : nameOf mapOfLists = "Map<K,List<V>>[]" := by decide +kernel
  have hbare : bareNameOf mapOfLists = "Map[]" := by decide +kernel
  have hunpaired : eraseTypeArguments "A>B<C>>D<" = "ABD" := by decide +kernel
  have hopen : '<' ∈ "A>B<C>>D<".toList := by decide
  obtain ⟨hmap, hboth, hagain, hnone⟩ := argument_lists_erased mapOfLists mapOfLists "A>B<C>>D<"
  rw [hname, hbare] at hmap
  rw [hname, hmap] at hboth
  rw [hunpaired] at hagain hnone
  exact ⟨hmap, hboth, hunpaired, hagain, hopen, hnone hopen⟩

end NameBridge.TypeName
