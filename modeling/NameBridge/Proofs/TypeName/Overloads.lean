import NameBridge.Proofs.TypeName.SourceForms
import NameBridge.Proofs.TypeName.TypeTexts
import NameBridge.Table.Method

/-!
Overloads are told apart by the names of their types.

Putting dots for slashes does not change what a signature means (`SignatureText.dots`). Conversely a name shows
its dimensions and its element type, as long as no class is called like an array or a primitive, so two type texts of
one name differ at most in slashes and dots (`TypeText.dots_eq`). Signatures are then the same texts up to these exactly
if they have the same types.
-/

namespace NameBridge

/-- The names of the primitives in the common vocabulary. -/
def Primitive.names : List String :=
  [byte, char, double, float, int, long, short, boolean, void].map Primitive.name

theorem Primitive.name_mem_names (p : Primitive) : p.name ∈ names := by
  cases p <;> decide

theorem Primitive.name_injective {p q : Primitive} (h : p.name = q.name) : p = q := by
  revert h
  cases p <;> cases q <;> decide

namespace TypeName

/-! ## Class names of a text -/

/-- The class names in a text of types: what stands between an `L` and the next `;`. If a name has begun, `begun` is
what has been read of it. -/
def classNames (begun : Option (List Char)) : List Char → List (List Char)
  | [] => []
  | c :: cs =>
    match begun with
    | none => classNames (if c = 'L' then some [] else none) cs
    | some name => if c = ';' then name :: classNames none cs else classNames (some (name ++ [c])) cs

/-- The name of a class that is not mistaken for an array or a primitive. -/
def Unmistakable (name : List Char) : Prop := '[' ∉ name ∧ String.ofList name ∉ Primitive.names

instance (name : List Char) : Decidable (Unmistakable name) := inferInstanceAs (Decidable (_ ∧ _))

variable {text text' cs : List Char} {name word : String}

theorem classNames_begun (begun : List Char) {name : List Char} (h : ';' ∉ name) (cs : List Char) :
    classNames (some begun) (name ++ ';' :: cs) = (begun ++ name) :: classNames none cs := by
  induction name generalizing begun with
  | nil => simp [classNames]
  | cons c name ih =>
    rw [List.mem_cons, not_or] at h
    rw [List.cons_append, classNames, if_neg (Ne.symm h.1), ih _ h.2, List.append_assoc, List.singleton_append]

theorem classNames_class {name : List Char} (h : ';' ∉ name) (cs : List Char) :
    classNames none ('L' :: (name ++ ';' :: cs)) = name :: classNames none cs := by
  rw [classNames, if_pos rfl, classNames_begun [] h, List.nil_append]

theorem classNames_skip {c : Char} (h : c ≠ 'L') (cs : List Char) : classNames none (c :: cs) = classNames none cs := by
  rw [classNames, if_neg h]

theorem classNames_elementText_append (h : ElementText text word) (cs : List Char) :
    classNames none (text ++ cs) = classNames none text ++ classNames none cs := by
  cases h with
  | primitive p =>
    have hletter : p.letter ≠ 'L' := by cases p <;> decide
    rw [List.singleton_append, classNames_skip hletter, classNames_skip hletter]
    rfl
  | ofClass _ hend =>
    rw [List.cons_append, List.append_assoc, List.singleton_append, classNames_class hend, classNames_class hend]
    rfl

theorem classNames_brackets (d : Nat) (cs : List Char) :
    classNames none (List.replicate d '[' ++ cs) = classNames none cs := by
  induction d with
  | zero => rfl
  | succ d ih => rw [List.replicate_succ, List.cons_append, classNames_skip (by decide), ih]

theorem classNames_typeText_append (h : TypeText text name) (cs : List Char) :
    classNames none (text ++ cs) = classNames none text ++ classNames none cs := by
  obtain ⟨d, element, word, helement, rfl, -⟩ := h
  rw [List.append_assoc, classNames_brackets, classNames_brackets, classNames_elementText_append helement]

theorem classNames_flatten_append {types : List (List Char)} {names : List String}
    (h : List.Forall₂ TypeText types names) (cs : List Char) :
    classNames none (types.flatten ++ cs) = types.flatMap (classNames none) ++ classNames none cs := by
  induction h with
  | nil => rfl
  | cons htype _ ih =>
    rw [List.flatten_cons, List.append_assoc, classNames_typeText_append htype, ih, List.flatMap_cons,
      List.append_assoc]

/-- The class names of a signature are those of its types. -/
theorem classNames_signature {types : List (List Char)} {names : List String}
    (h : List.Forall₂ TypeText types names) (last : List Char) :
    classNames none ('(' :: (types.flatten ++ ')' :: last)) =
      types.flatMap (classNames none) ++ classNames none last := by
  rw [classNames_skip (by decide), classNames_flatten_append h, classNames_skip (by decide)]

/-! ## Dots for slashes -/

/-- The text with dots for slashes. -/
def dots (cs : List Char) : List Char := cs.map fun c => if c = '/' then '.' else c

theorem dots_append (cs ds : List Char) : dots (cs ++ ds) = dots cs ++ dots ds := List.map_append

/-- Only dots come in. -/
theorem mem_of_mem_dots {c : Char} (h : c ∈ dots cs) (hc : c ≠ '.') : c ∈ cs := by
  obtain ⟨d, hd, rfl⟩ := List.mem_map.1 h
  split at hc
  · exact absurd rfl hc
  · rwa [if_neg ‹_›]

theorem dots_dots (cs : List Char) : dots (dots cs) = dots cs := by
  have hslash : '/' ∉ (dotted (String.ofList cs)).toList := not_mem_dotted _
  rw [toList_dotted, String.toList_ofList] at hslash
  exact map_dot_of_not_mem hslash

theorem dots_brackets (d : Nat) : dots (List.replicate d '[') = List.replicate d '[' := List.map_replicate

theorem dots_class (name : List Char) : dots ('L' :: (name ++ [';'])) = 'L' :: (dots name ++ [';']) := by
  rw [dots, List.map_cons, List.map_append]
  rfl

theorem ElementText.dots (h : ElementText text word) : ElementText (dots text) word := by
  cases h with
  | primitive p =>
    have hletter : TypeName.dots [p.letter] = [p.letter] := by cases p <;> rfl
    rw [hletter]
    exact .primitive p
  | @ofClass className hne hend =>
    have hclass : ElementText ('L' :: (TypeName.dots className ++ [';']))
        (String.ofList (TypeName.dots (TypeName.dots className))) :=
      .ofClass (by simpa [TypeName.dots] using hne) fun hmem => hend (mem_of_mem_dots hmem (by decide))
    rw [dots_dots] at hclass
    rwa [dots_class]

theorem TypeText.dots (h : TypeText text name) : TypeText (dots text) name := by
  obtain ⟨d, element, word, helement, rfl, rfl⟩ := h
  exact ⟨d, _, word, helement.dots, by rw [dots_append, dots_brackets], rfl⟩

theorem forall₂_dots {types : List (List Char)} {names : List String} (h : List.Forall₂ TypeText types names) :
    List.Forall₂ TypeText (types.map dots) names := by
  rw [List.forall₂_map_left_iff]
  exact h.imp fun _ _ htype => htype.dots

theorem dots_flatten (types : List (List Char)) : dots types.flatten = (types.map dots).flatten := List.map_flatten

theorem dots_signature (types : List (List Char)) (last : List Char) :
    dots ('(' :: (types.flatten ++ ')' :: last)) = '(' :: ((types.map dots).flatten ++ ')' :: dots last) := by
  rw [← dots_flatten, dots, List.map_cons, List.map_append, List.map_cons]
  rfl

/-- With dots for slashes a signature means the same. -/
theorem SignatureText.dots {parameters : List String} {result : String} (h : SignatureText text parameters result) :
    SignatureText (dots text) parameters result := by
  obtain ⟨types, last, rfl, htypes, hlast⟩ := h
  exact ⟨types.map TypeName.dots, TypeName.dots last, dots_signature types last, forall₂_dots htypes, hlast.dots⟩

/-! ## From names back to texts -/

/-- A name that is no word of a primitive does not become one, for there are no dots in these. -/
theorem ofList_dots_not_mem_names {className : List Char} (h : String.ofList className ∉ Primitive.names) :
    String.ofList (dots className) ∉ Primitive.names := by
  by_cases hslash : '/' ∈ className
  · intro hmem
    have hdot : '.' ∈ (String.ofList (dots className)).toList := by
      rw [String.toList_ofList]
      exact List.mem_map.2 ⟨'/', hslash, rfl⟩
    exact (show ∀ w ∈ Primitive.names, '.' ∉ w.toList by decide) _ hmem hdot
  · rwa [dots, map_dot_of_not_mem hslash]

theorem ElementText.unbracketed (h : ElementText text word) (hnames : ∀ n ∈ classNames none text, Unmistakable n) :
    Unbracketed word.toList := by
  suffices hnone : '[' ∉ word.toList from fun hsuffix => hnone (hsuffix.subset List.mem_cons_self)
  cases h with
  | primitive p => cases p <;> decide
  | @ofClass className _ hend =>
    rw [classNames_class hend, List.forall_mem_cons] at hnames
    rw [String.toList_ofList]
    exact fun hmem => hnames.1.1 (mem_of_mem_dots hmem (by decide))

/-- Two element types of one name are the same up to slashes. -/
theorem ElementText.dots_eq (h : ElementText text word) (h' : ElementText text' word)
    (hnames : ∀ n ∈ classNames none text, Unmistakable n) (hnames' : ∀ n ∈ classNames none text', Unmistakable n) :
    TypeName.dots text = TypeName.dots text' := by
  have hclass {className : List Char} (hend : ';' ∉ className)
      (hall : ∀ n ∈ classNames none ('L' :: (className ++ [';'])), Unmistakable n) (p : Primitive) :
      String.ofList (TypeName.dots className) ≠ p.name := by
    rw [classNames_class hend, List.forall_mem_cons] at hall
    intro heq
    exact ofList_dots_not_mem_names hall.1.2 (heq ▸ p.name_mem_names)
  generalize hword : word = w at h'
  cases h with
  | primitive p =>
    cases h' with
    | primitive q => rw [Primitive.name_injective hword]
    | ofClass _ hend' => exact absurd hword.symm (hclass hend' hnames' p)
  | ofClass _ hend =>
    cases h' with
    | primitive q => exact absurd hword (hclass hend hnames q)
    | ofClass _ _ =>
      rw [dots_class, dots_class]
      exact congrArg (fun n => 'L' :: (n ++ [';'])) (String.ofList_injective hword)

theorem TypeText.dots_eq (h : TypeText text name) (h' : TypeText text' name)
    (hnames : ∀ n ∈ classNames none text, Unmistakable n) (hnames' : ∀ n ∈ classNames none text', Unmistakable n) :
    TypeName.dots text = TypeName.dots text' := by
  obtain ⟨d, element, word, helement, rfl, rfl⟩ := h
  obtain ⟨d', element', word', helement', rfl, heq⟩ := h'
  rw [classNames_brackets] at hnames hnames'
  rw [← withDimensions_eq, ← withDimensions_eq,
    withDimensions_inj (helement.unbracketed hnames) (helement'.unbracketed hnames')] at heq
  obtain ⟨rfl, rfl⟩ := heq
  rw [dots_append, dots_append, helement.dots_eq helement' hnames hnames']

theorem dots_eq_of_forall₂ {types types' : List (List Char)} {names : List String}
    (h : List.Forall₂ TypeText types names) (h' : List.Forall₂ TypeText types' names)
    (hnames : ∀ n ∈ types.flatMap (classNames none), Unmistakable n)
    (hnames' : ∀ n ∈ types'.flatMap (classNames none), Unmistakable n) : types.map dots = types'.map dots := by
  induction h generalizing types' with
  | nil =>
    cases h'
    rfl
  | cons htype _ ih =>
    cases h' with
    | cons htype' htypes' =>
      rw [List.flatMap_cons, List.forall_mem_append] at hnames hnames'
      rw [List.map_cons, List.map_cons, htype.dots_eq htype' hnames.1 hnames'.1, ih htypes' hnames.2 hnames'.2]

/-- Two signatures of the same parameters are the same up to slashes as far as these go, and with the same result all
the way. -/
theorem SignatureText.dots_eq {parameters : List String} {result result' : String}
    (h : SignatureText text parameters result) (h' : SignatureText text' parameters result')
    (hnames : ∀ n ∈ classNames none text, Unmistakable n) (hnames' : ∀ n ∈ classNames none text', Unmistakable n) :
    ∃ types last last', TypeTexts types ∧ TypeName.dots text = '(' :: (types ++ ')' :: last) ∧
      TypeName.dots text' = '(' :: (types ++ ')' :: last') ∧ (result = result' → last = last') := by
  obtain ⟨types, last, rfl, htypes, hlast⟩ := h
  obtain ⟨types', last', rfl, htypes', hlast'⟩ := h'
  rw [classNames_signature htypes, List.forall_mem_append] at hnames
  rw [classNames_signature htypes', List.forall_mem_append] at hnames'
  have htexts : TypeTexts (types.map TypeName.dots).flatten := ⟨_, parameters, rfl, forall₂_dots htypes⟩
  refine ⟨_, TypeName.dots last, TypeName.dots last', htexts, dots_signature types last, ?_, ?_⟩
  · rw [dots_eq_of_forall₂ htypes htypes' hnames.1 hnames'.1]
    exact dots_signature types' last'
  · rintro rfl
    exact hlast.dots_eq hlast' hnames.2 hnames'.2

/-! ## Overloads -/

/-- The signatures have the same parameters up to slashes, whatever their results. -/
def SameParameters (s s' : String) : Prop :=
  ∃ types last last', TypeTexts types ∧ (dotted s).toList = '(' :: (types ++ ')' :: last) ∧
    (dotted s').toList = '(' :: (types ++ ')' :: last')

/-- The parameters of a signature are those of every signature with the same parameters up to slashes. -/
theorem SignatureText.parameters_eq {types last last' : List Char} {parameters parameters' : List String}
    {result result' : String} (htypes : TypeTexts types)
    (h : SignatureText ('(' :: (types ++ ')' :: last)) parameters result)
    (h' : SignatureText ('(' :: (types ++ ')' :: last')) parameters' result') : parameters = parameters' := by
  obtain ⟨texts, names, rfl, htexts⟩ := htypes
  have hnames {last : List Char} {parameters : List String} {result : String}
      (h : SignatureText ('(' :: (texts.flatten ++ ')' :: last)) parameters result) : names = parameters := by
    have hread : readParameters (texts.flatten ++ ')' :: last) = .ok (names, last) :=
      readParameters_eq_ok_iff.2 ⟨texts, rfl, htexts⟩
    obtain ⟨types, rest, heq, htypes, -⟩ := h
    rw [(List.cons.inj heq).2, readParameters_eq_ok_iff.2 ⟨types, rfl, htypes⟩] at hread
    exact (Prod.mk.inj (Except.ok.inj hread)).1.symm
  exact (hnames h).symm.trans (hnames h')

/-- Two signatures whose class names are not mistaken for arrays or primitives stand for the same types exactly if they
are the same text up to slashes. A method with the parameters of one is taken for one with those of the other exactly if
the texts of the parameters are the same up to slashes. -/
theorem same_types_iff_same_dotted {s s' : String} {parameters parameters' : List String} {result result' : String}
    (h : ofSignature s = .ok (parameters, result)) (h' : ofSignature s' = .ok (parameters', result'))
    (hnames : ∀ n ∈ classNames none s.toList, Unmistakable n)
    (hnames' : ∀ n ∈ classNames none s'.toList, Unmistakable n) :
    (parameters = parameters' ∧ result = result' ↔ dotted s = dotted s') ∧
      ∀ m : MethodEntry, m.parameters = parameters →
        (m.hasParameters parameters' = true ↔ SameParameters s s') := by
  rw [ofSignature_eq_ok_iff] at h h'
  have htoList (t : String) : (dotted t).toList = dots t.toList := toList_dotted t
  rw [SameParameters, ← @String.toList_inj (dotted s) (dotted s'), htoList, htoList]
  refine ⟨⟨?_, fun heq => ?_⟩, fun m hm => ?_⟩
  · rintro ⟨rfl, rfl⟩
    obtain ⟨types, last, last', -, htext, htext', hlast⟩ := h.dots_eq h' hnames hnames'
    rw [htext, htext', hlast rfl]
  · have hread := readSignature_eq_ok_iff.2 h.dots
    rw [heq, readSignature_eq_ok_iff.2 h'.dots, Except.ok.injEq, Prod.mk.injEq] at hread
    exact ⟨hread.1.symm, hread.2.symm⟩
  · rw [MethodEntry.hasParameters_iff, hm]
    constructor
    · rintro rfl
      obtain ⟨types, last, last', htypes, htext, htext', -⟩ := h.dots_eq h' hnames hnames'
      exact ⟨types, last, last', htypes, htext, htext'⟩
    · rintro ⟨types, last, last', htypes, htext, htext'⟩
      exact SignatureText.parameters_eq htypes (htext ▸ h.dots) (htext' ▸ h'.dots)

/-- A class written with a slash and with a dot, in signatures of the same and of different results. -/
theorem same_parameters_of_slash_and_dot :
    dotted "([La/B;I)V" = dotted "([La.B;I)V" ∧ SameParameters "([La/B;I)V" "([La.B;I)J" := by
  have hslash : ofSignature "([La/B;I)V" = .ok (["a.B[]", "integer"], "void") := by decide +kernel
  have hdot : ofSignature "([La.B;I)V" = .ok (["a.B[]", "integer"], "void") := by decide +kernel
  have hlong : ofSignature "([La.B;I)J" = .ok (["a.B[]", "integer"], "long") := by decide +kernel
  obtain ⟨htexts, -⟩ := same_types_iff_same_dotted hslash hdot (by decide +kernel) (by decide +kernel)
  obtain ⟨-, hparameters⟩ := same_types_iff_same_dotted hslash hlong (by decide +kernel) (by decide +kernel)
  exact ⟨htexts.1 ⟨rfl, rfl⟩, (hparameters ⟨"void", "put", "m", ["a.B[]", "integer"]⟩ rfl).1 (by decide)⟩

-- a class that is called like an array could not be told from the array
example : ofSignature "(La[];)V" = ofSignature "([La;)V" := by decide +kernel

end TypeName

end NameBridge
