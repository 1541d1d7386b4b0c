import NameBridge.Proofs.TypeName.TypeTexts

/-!
Why a text is refused as a signature.

`Misdelimited` lists the texts whose types are complete as far as they go, but which do not open, close or end where a
signature does. Of all refused texts these are the ones reported as malformed signatures, each with its own fault
(`readSignature_of_misdelimited`, `misdelimited_or_badType`); every other one has a malformed type.
-/

namespace NameBridge.TypeName

/-- The text does not have the delimiters of a signature, and this is what is wrong with them. -/
inductive Misdelimited : List Char → SignatureFault → Prop
  | unopened {text : List Char} (no_opening : text.head? ≠ some '(') : Misdelimited text .noOpening
  | unclosed {types : List Char} (complete : TypeTexts types) : Misdelimited ('(' :: types) .noClosing
  | noResult {types : List Char} (complete : TypeTexts types) : Misdelimited ('(' :: (types ++ [')'])) .noReturnType
  | trailing {text rest : List Char} {parameters : List String} {result : String}
      (complete : SignatureText text parameters result) (more : rest ≠ []) :
      Misdelimited (text ++ rest) (.trailing (String.ofList rest))

variable {cs : List Char} {fault : SignatureFault}

theorem Misdelimited.ne_badType (h : Misdelimited cs fault) (f : TypeFault) : fault ≠ .badType f := by
  cases h <;> exact SignatureFault.noConfusion

/-! ## Parameters -/

/-- Reading parameters fails where the text ends between two of them, or at one that is malformed. -/
theorem readParameters_eq_error (h : readParameters cs = .error fault) :
    fault = .noClosing ∧ TypeTexts cs ∨ ∃ f, fault = .badType f := by
  fun_induction readParameters cs with
  | case1 =>
    cases h
    exact .inl ⟨rfl, typeTexts_nil⟩
  | case2 => cases h
  | case3 c tail _ f =>
    cases h
    exact .inr ⟨f, rfl⟩
  | case4 c tail _ name rest htype ih =>
    cases hrest : readParameters rest with
    | ok found =>
      rw [hrest] at h
      cases h
    | error f =>
      rw [hrest] at h
      cases h
      obtain ⟨text, hcons, htext⟩ := readType_eq_ok_iff.1 htype
      rcases ih hrest with ⟨rfl, htexts⟩ | hbad
      · exact .inl ⟨rfl, hcons ▸ htexts.cons htext⟩
      · exact .inr hbad

theorem readParameters_of_typeTexts (h : TypeTexts cs) : readParameters cs = .error .noClosing := by
  obtain ⟨types, names, rfl, htypes⟩ := h
  induction htypes with
  | nil => rw [List.flatten_nil, readParameters]
  | cons htype _ ih =>
    rw [List.flatten_cons, readParameters_of_readType (readType_eq_ok_iff.2 ⟨_, rfl, htype⟩), ih]
    rfl

/-! ## Signatures -/

theorem readSignature_unopened (h : cs.head? ≠ some '(') : readSignature cs = .error .noOpening := by
  unfold readSignature
  split
  · exact absurd rfl h
  · rfl

/-- A text with wrong delimiters is refused for them. -/
theorem readSignature_of_misdelimited (h : Misdelimited cs fault) : readSignature cs = .error fault := by
  cases h with
  | unopened hopening => exact readSignature_unopened hopening
  | unclosed htypes =>
    rw [readSignature, readParameters_of_typeTexts htypes]
    rfl
  | noResult htypes =>
    obtain ⟨types, names, rfl, htypes⟩ := htypes
    have hparameters : readParameters (types.flatten ++ [')']) = .ok (names, []) :=
      readParameters_eq_ok_iff.2 ⟨types, rfl, htypes⟩
    rw [readSignature, hparameters]
    rfl
  | trailing hsignature hmore =>
    rename_i rest parameters result
    obtain ⟨types, last, rfl, htypes, hlast⟩ := hsignature
    have hparameters : readParameters (types.flatten ++ ')' :: (last ++ rest)) = .ok (parameters, last ++ rest) :=
      readParameters_eq_ok_iff.2 ⟨types, rfl, htypes⟩
    have hresult : readType (last ++ rest) = .ok (result, rest) := readType_eq_ok_iff.2 ⟨last, rfl, hlast⟩
    obtain ⟨c, tail, rfl, -⟩ := hlast.exists_cons
    obtain ⟨d, more, rfl⟩ := List.exists_cons_of_ne_nil hmore
    rw [List.cons_append, List.append_assoc, List.cons_append, readSignature, hparameters]
    simp only [bind, Except.bind, List.cons_append] at hresult ⊢
    rw [hresult]

/-- A refused text has wrong delimiters or a malformed type. -/
theorem misdelimited_or_badType (h : readSignature cs = .error fault) :
    Misdelimited cs fault ∨ ∃ f, fault = .badType f := by
  by_cases hopening : cs.head? = some '('
  · obtain ⟨rest, rfl⟩ : ∃ rest, cs = '(' :: rest := List.head?_eq_some_iff.1 hopening
    rw [readSignature] at h
    cases hparameters : readParameters rest with
    | error f =>
      rw [hparameters] at h
      cases h
      rcases readParameters_eq_error hparameters with ⟨rfl, htypes⟩ | hbad
      · exact .inl (.unclosed htypes)
      · exact .inr hbad
    | ok found =>
      obtain ⟨names, last⟩ := found
      obtain ⟨types, rfl, htypes⟩ := readParameters_eq_ok_iff.1 hparameters
      rw [hparameters] at h
      rcases last with _ | ⟨c, tail⟩
      · cases h
        exact .inl (.noResult ⟨types, names, rfl, htypes⟩)
      · simp only [bind, Except.bind] at h
        split at h
        · rename_i f _
          cases h
          exact .inr ⟨f, rfl⟩
        · cases h
        · rename_i after hmore hresult
          cases h
          obtain ⟨text, hcons, htext⟩ := readType_eq_ok_iff.1 hresult
          have hwhole := Misdelimited.trailing ⟨types, text, rfl, htypes, htext⟩ hmore
          rw [List.cons_append, List.append_assoc, List.cons_append, ← hcons] at hwhole
          exact .inl hwhole
  · rw [readSignature_unopened hopening] at h
    cases h
    exact .inl (.unopened hopening)

/-! ## Errors -/

theorem Misdelimited.message_eq (h : Misdelimited cs fault) (signature : String) :
    (DescriptorError.signature signature fault).message =
      "Malformed method signature '" ++ signature ++ "': " ++ fault.message := by
  cases h <;> rfl

/-- A text that is refused as a signature is reported as a malformed signature exactly if its delimiters are wrong, and
as a malformed type otherwise. Either way the error holds the whole text. -/
theorem refused_for_delimiters_or_type {signature : String} {e : DescriptorError}
    (h : ofSignature signature = .error e) :
    (∃ fault, Misdelimited signature.toList fault ∧ e = .signature signature fault ∧
      e.message = "Malformed method signature '" ++ signature ++ "': " ++ fault.message) ∨
    (¬∃ fault, Misdelimited signature.toList fault) ∧
      ∃ fault, e = .signature signature (.badType fault) ∧
        e.message = "Malformed type encoding '" ++ signature ++ "': " ++ fault.message := by
  unfold ofSignature at h
  cases hread : readSignature signature.toList with
  | ok found =>
    rw [hread] at h
    cases h
  | error fault =>
    rw [hread] at h
    cases h
    rcases misdelimited_or_badType hread with hwrong | ⟨f, rfl⟩
    · exact .inl ⟨fault, hwrong, rfl, hwrong.message_eq _⟩
    · refine .inr ⟨?_, f, rfl, rfl⟩
      rintro ⟨fault, hwrong⟩
      have hsame := (readSignature_of_misdelimited hwrong).symm.trans hread
      exact hwrong.ne_badType f (Except.error.inj hsame)

/-- A text that goes on after its result is reported as a malformed signature, one that is cut off in the name of a
class as a malformed type. -/
theorem refused_of_longer_result_and_open_class :
    (∃ fault, Misdelimited "([La;)VV".toList fault) ∧ ¬∃ fault, Misdelimited "(ILa/b)V".toList fault := by
  have hlonger : ofSignature "([La;)VV" = .error (.signature "([La;)VV" (.trailing "V")) := by decide +kernel
  have hopen : ofSignature "(ILa/b)V" = .error (.signature "(ILa/b)V" (.badType .unclosedClass)) := by decide +kernel
  constructor
  · rcases refused_for_delimiters_or_type hlonger with ⟨fault, hwrong, -⟩ | ⟨-, fault, heq, -⟩
    · exact ⟨fault, hwrong⟩
    · cases heq
  · rcases refused_for_delimiters_or_type hopen with ⟨fault, hwrong, heq, -⟩ | ⟨hright, -⟩
    · cases heq
      exact absurd rfl (hwrong.ne_badType _)
    · exact hright

end NameBridge.TypeName
