import NameBridge.Proofs.Text.Spans
import NameBridge.Proofs.TypeName.Suffixes

/-!
Type arguments and blanks.

Erasing type arguments goes over the characters with the number of open brackets. Blanks in front of a text are
outside of all brackets, and those behind it are kept or dropped together, so it makes no difference whether the
blanks around a text are trimmed before its type arguments are erased or only after (`trimmed_erase_trimmed`). Blanks
that come to stand at the end because type arguments are gone are trimmed only if that is done last.
-/

namespace NameBridge.TypeName

open Text

/-! ## Open brackets -/

/-- How many brackets are open after the characters, if there are `depth` before them. -/
def openAfter (depth : Nat) : List Char → Nat
  | [] => depth
  | '<' :: cs => openAfter (depth + 1) cs
  | '>' :: cs => openAfter (depth - 1) cs
  | _ :: cs => openAfter depth cs

theorem outsideBrackets_append (depth : Nat) (cs ds : List Char) :
    outsideBrackets depth (cs ++ ds) = outsideBrackets depth cs ++ outsideBrackets (openAfter depth cs) ds := by
  fun_induction openAfter depth cs with
  | case1 depth => rfl
  | case2 depth cs ih => exact ih
  | case3 depth cs ih => exact ih
  | case4 depth c cs hopen hclose ih =>
    rw [List.cons_append, outsideBrackets, outsideBrackets, ih]
    · split <;> rfl
    · exact hopen
    · exact hclose
    · exact hopen
    · exact hclose

theorem openAfter_append (depth : Nat) (cs ds : List Char) :
    openAfter depth (cs ++ ds) = openAfter (openAfter depth cs) ds := by
  fun_induction openAfter depth cs with
  | case1 depth => rfl
  | case2 depth cs ih => exact ih
  | case3 depth cs ih => exact ih
  | case4 depth c cs hopen hclose ih =>
    rw [List.cons_append, openAfter, ih]
    · exact hopen
    · exact hclose

/-- No bracket is kept, whether anything opens or closes it or not. -/
theorem ne_bracket_of_mem_outsideBrackets {depth : Nat} {cs : List Char} {c : Char} (h : c ∈ outsideBrackets depth cs) :
    c ≠ '<' ∧ c ≠ '>' := by
  fun_induction outsideBrackets depth cs with
  | case1 => cases h
  | case2 depth cs ih => exact ih h
  | case3 depth cs ih => exact ih h
  | case4 d cs hopen hclose ih =>
    rcases List.mem_cons.1 h with rfl | h
    · exact ⟨hopen, hclose⟩
    · exact ih h
  | case5 depth d cs _ _ _ ih => exact ih h

/-- Characters that are no brackets open and close nothing: they are all outside, or all inside. -/
theorem outsideBrackets_plain {cs : List Char} (hopen : '<' ∉ cs) (hclose : '>' ∉ cs) (depth : Nat) :
    openAfter depth cs = depth ∧ outsideBrackets depth cs = if depth = 0 then cs else [] := by
  induction cs with
  | nil => simp [openAfter, outsideBrackets]
  | cons c cs ih =>
    rw [List.mem_cons, not_or] at hopen hclose
    obtain ⟨hafter, houtside⟩ := ih hopen.2 hclose.2
    constructor
    · rw [openAfter, hafter]
      · exact Ne.symm hopen.1
      · exact Ne.symm hclose.1
    · rw [outsideBrackets, houtside]
      · split <;> rfl
      · exact Ne.symm hopen.1
      · exact Ne.symm hclose.1

theorem not_mem_eraseTypeArguments (text : String) : '<' ∉ (eraseTypeArguments text).toList := by
  unfold eraseTypeArguments
  split
  · rw [String.toList_ofList]
    exact fun h => (ne_bracket_of_mem_outsideBrackets h).1 rfl
  · assumption

/-! ## Blanks -/

/-- No blank is a bracket. -/
theorem outsideBrackets_blanks {blanks : List Char} (h : ∀ c ∈ blanks, isBlank c = true) (depth : Nat) :
    openAfter depth blanks = depth ∧ outsideBrackets depth blanks = if depth = 0 then blanks else [] :=
  outsideBrackets_plain (fun hmem => absurd (h _ hmem) (by decide)) (fun hmem => absurd (h _ hmem) (by decide)) depth

/-- What is erased between blanks does not change that they are trimmed. -/
theorem trim_outsideBrackets {lead trail : List Char} (hlead : ∀ c ∈ lead, isBlank c = true)
    (htrail : ∀ c ∈ trail, isBlank c = true) (cs : List Char) :
    trim (outsideBrackets 0 (lead ++ cs ++ trail)) = trim (outsideBrackets 0 cs) := by
  obtain ⟨hafter, houtside⟩ := outsideBrackets_blanks hlead 0
  rw [List.append_assoc, outsideBrackets_append, outsideBrackets_append, hafter, houtside, if_pos rfl,
    (outsideBrackets_blanks htrail _).2, ← List.append_assoc]
  apply trim_append hlead
  split
  · exact htrail
  · exact fun c hc => absurd hc List.not_mem_nil

/-- Trimming before type arguments are erased adds nothing to trimming after. -/
theorem trimmed_erase_trimmed (text : String) :
    trimmed (eraseTypeArguments (trimmed text)) = trimmed (eraseTypeArguments text) := by
  obtain ⟨lead, trail, htext, hlead, htrail⟩ := exists_trim text.toList
  have hmem : '<' ∈ text.toList ↔ '<' ∈ (trimmed text).toList := by
    have hblank {blanks : List Char} (h : ∀ c ∈ blanks, isBlank c = true) : '<' ∉ blanks :=
      fun hmem => absurd (h _ hmem) (by decide)
    have hsplit : '<' ∈ text.toList ↔ '<' ∈ lead ++ trim text.toList ++ trail := by rw [← htext]
    rw [hsplit, trimmed, String.toList_ofList]
    simp [hblank hlead, hblank htrail]
  unfold eraseTypeArguments
  by_cases hopen : '<' ∈ text.toList
  · rw [if_pos hopen, if_pos (hmem.1 hopen), trimmed, trimmed, trimmed, String.toList_ofList, String.toList_ofList,
      String.toList_ofList, ← trim_outsideBrackets hlead htrail (trim text.toList), ← htext]
  · rw [if_neg hopen, if_neg fun h => hopen (hmem.2 h), trimmed, trimmed, String.toList_ofList, trim_trim]

end NameBridge.TypeName
