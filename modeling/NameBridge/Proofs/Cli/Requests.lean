import NameBridge.Proofs.Cli.Scanning

/-!
Requests for names, and what they are made of.

A request is written with options of its own, with options that choose a pair of tables, and with plain arguments. Its
own options are taken in the same way whatever its pair is, and then it is the command for the pair that the others
choose (`parse_request`). The options that name the files of a pair choose the sources that a new profile has if it is
added with these options (`SourceFlags.chooses`, `parse_add_eq_ok`).
-/

namespace NameBridge.Cli

/-- Without options before it, a command is parsed by its own arguments. -/
theorem parse_eq_parseCommand {word : String} (hdash : word.toList.head? ≠ some '-') (hhelp : word ≠ "help")
    (args : List String) :
    parse (word :: args) = (fun parsed => ⟨parsed.1, parsed.2⟩) <$> parseCommand word args := by
  rw [parse, scan_word rfl hdash]
  simp only [bind, Except.bind]
  cases parseCommand word args with
  | error e => rfl
  | ok parsed => simp [Scanned.value?, pure, Except.pure, Functor.map, Except.map]

/-- A request for names in a pair of tables. -/
inductive Request where
  | type (name : String)
  | field (owner name : String)
  | method (owner name : String) (arguments : List String) (hierarchy : Option String)
  | describe (name : String) (member : Option String)

namespace Request

def word : Request → String
  | .type .. => "class"
  | .field .. => "field"
  | .method .. => "method"
  | .describe .. => "describe"

def command (r : Request) (pair : PairArguments) : Command :=
  match r with
  | .type name => .type name pair
  | .field owner name => .field owner name pair
  | .method owner name arguments hierarchy => .method owner name arguments hierarchy pair
  | .describe name member => .describe name member pair

/-- The options of the request, whatever its pair is. -/
def options (r : Request) (presets : Option String) : List (String × String) :=
  given [("presets", presets)] ++
    match r with
    | .method _ _ arguments hierarchy => arguments.map ("arg", ·) ++ given [("hierarchy", hierarchy)]
    | .describe _ member => given [("field", member)]
    | _ => []

/-- The names of these options. -/
def optionNames : List String := ["presets", "arg", "hierarchy", "field"]

def plain : Request → List String
  | .type name => [name]
  | .field owner name => [owner, name]
  | .method owner name _ _ => [owner, name]
  | .describe name _ => [name]

def grammar : Request → Grammar
  | .type .. => Cli.grammar pairOptions [.text]
  | .field .. => Cli.grammar pairOptions [.text, .text]
  | .method .. => Cli.grammar ([("arg", .many .text), ("hierarchy", .one .path)] ++ pairOptions) [.text, .text]
  | .describe .. => Cli.grammar (("field", .one .text) :: pairOptions) [.text]

/-- The arguments of a request with these presets, and with these options for its pair. -/
def arguments (r : Request) (presets : Option String) (pair : List (String × String)) (isStrict : Bool) :
    List String :=
  r.word :: spelledOut (r.options presets ++ pair) isStrict r.plain

/-! ## What is found in the arguments -/

variable {r : Request} {presets : Option String} {option : String × String} {name : String} {s : Scanned}

theorem name_of_mem_options (h : option ∈ r.options presets) : option.1 ∈ optionNames := by
  obtain ⟨name, value⟩ := option
  cases r <;> simp [options, optionNames, mem_given] at h ⊢ <;> tauto

theorem not_mem_pairOptions : ∀ name ∈ optionNames, name ∉ pairOptions.map (·.1) := by
  decide

theorem lookup_pairOption (r : Request) (h : name ∈ pairOptions.map (·.1)) :
    r.grammar.options.lookup name = pairOptions.lookup name := by
  simp only [pairOptions, List.map_cons, List.map_nil, List.mem_cons, List.not_mem_nil, or_false] at h
  rcases h with rfl | rfl | rfl | rfl | rfl | rfl | rfl <;> cases r <;> rfl

/-- The request of the same kind that is found in scanned arguments. -/
def found (r : Request) (s : Scanned) : Request :=
  match r with
  | .type _ => .type (s.argument 0)
  | .field _ _ => .field (s.argument 0) (s.argument 1)
  | .method _ _ _ _ => .method (s.argument 0) (s.argument 1) (s.values "arg") (s.value? "hierarchy")
  | .describe _ _ => .describe (s.argument 0) (s.value? "field")

theorem parseCommand_word (r : Request) (args : List String) :
    parseCommand r.word args = scanAll r.grammar args >>= fun s => s.pair >>= fun pair =>
      .ok (s.value? "presets", (r.found s).command pair) := by
  cases r <;> rfl

theorem parse_word (r : Request) (args : List String) :
    parse (r.word :: args) = scanAll r.grammar args >>= fun s => s.pair >>= fun pair =>
      .ok ⟨s.value? "presets", (r.found s).command pair⟩ := by
  have hwords : ∀ word ∈ ["class", "field", "method", "describe"], word.toList.head? ≠ some '-' ∧ word ≠ "help" := by
    decide
  obtain ⟨hdash, hhelp⟩ := hwords r.word (by cases r <;> simp [word])
  rw [parse_eq_parseCommand hdash hhelp, parseCommand_word]
  simp only [map_bind]
  rfl

theorem lookup_presets (r : Request) (presets : Option String) :
    (r.options presets).lookup "presets" = presets := by
  cases r <;> simp [options, lookup_given, List.lookup_append, List.lookup_cons, lookup_map_key]

/-- A request is found in its plain arguments and its own options. -/
theorem found_eq (hplain : s.plain = r.plain)
    (hvalue : ∀ name ∈ optionNames, s.value? name = (r.options presets).lookup name)
    (hvalues : s.values "arg" = ((r.options presets).filter (·.1 == "arg")).map (·.2)) : r.found s = r := by
  cases r with
  | type name => simp [found, Scanned.argument, hplain, plain]
  | field owner name => simp [found, Scanned.argument, hplain, plain]
  | method owner name arguments hierarchy =>
    have hhierarchy : s.value? "hierarchy" = hierarchy := by
      rw [hvalue "hierarchy" (by decide)]
      simp [options, lookup_given, List.lookup_append, List.lookup_cons, lookup_map_key]
    have harguments : s.values "arg" = arguments := by
      rw [hvalues]
      cases presets <;> cases hierarchy <;> simp [options, given, List.filter_map, Function.comp_def]
    simp [found, Scanned.argument, hplain, plain, hhierarchy, harguments]
  | describe name member =>
    have hmember : s.value? "field" = member := by
      rw [hvalue "field" (by decide)]
      simp [options, lookup_given, List.lookup_append, List.lookup_cons]
    simp [found, Scanned.argument, hplain, plain, hmember]

end Request

/-! ## Options that choose a pair -/

namespace Scanned

variable {before after : List (String × String)} {plain : List String} {name : String}

theorem value?_append_right (h : ∀ option ∈ before, option.1 ≠ name) :
    value? ⟨before ++ after, plain⟩ name = after.lookup name := by
  have hnone : before.lookup name = none :=
    List.lookup_eq_none_iff.2 fun option hoption => bne_iff_ne.2 (h option hoption).symm
  rw [value?, List.lookup_append, hnone, Option.none_or]

theorem value?_append_left (h : ∀ option ∈ after, option.1 ≠ name) :
    value? ⟨before ++ after, plain⟩ name = before.lookup name := by
  have hnone : after.lookup name = none :=
    List.lookup_eq_none_iff.2 fun option hoption => bne_iff_ne.2 (h option hoption).symm
  rw [value?, List.lookup_append, hnone, Option.or_none]

theorem values_append_left (h : ∀ option ∈ after, option.1 ≠ name) :
    values ⟨before ++ after, plain⟩ name = (before.filter (·.1 == name)).map (·.2) := by
  have hnil : after.filter (·.1 == name) = [] := by simpa using h
  rw [values, List.filter_append, hnil, List.append_nil]

theorem has_append_right (h : ∀ option ∈ before, option.1 ≠ name) :
    has ⟨before ++ after, plain⟩ name = has ⟨after, plain⟩ name := by
  have hfalse : before.any (·.1 == name) = false := by simpa using h
  rw [has, has, List.any_append, hfalse, Bool.false_or]

/-- Which pair is chosen depends on the options of a pair only. -/
theorem pair_append (h : ∀ option ∈ before, option.1 ∉ pairOptions.map (·.1)) :
    pair ⟨before ++ after, plain⟩ = pair ⟨after, plain⟩ := by
  have hne {name : String} (hname : name ∈ pairOptions.map (·.1)) : ∀ option ∈ before, option.1 ≠ name := by
    rintro option hoption rfl
    exact h option hoption hname
  simp (disch := exact hne (by decide)) only [pair, needed, format, value?_append_right, has_append_right]
  rfl

end Scanned

/-- The options choose this pair, with the flag for strict reading or without it. -/
structure Chooses (pair : List (String × String)) (choice : PairChoice) : Prop where
  nodup : (pair.map (·.1)).Nodup
  accepted : ∀ option ∈ pair, ∃ kind : ValueKind,
    pairOptions.lookup option.1 = some (.one kind) ∧ kind.accepts option.2
  chosen : ∀ isStrict plain, Scanned.pair ⟨pair ++ strictOption isStrict, plain⟩ = .ok ⟨choice, isStrict⟩

theorem Chooses.known {pair : List (String × String)} {choice : PairChoice} (h : Chooses pair choice) :
    ∀ option ∈ pair, option.1 ∈ pairOptions.map (·.1) := by
  intro option hoption
  obtain ⟨kind, hlookup, -⟩ := h.accepted option hoption
  obtain ⟨known, hknown, hname⟩ := List.lookup_isSome_iff.1 (Option.isSome_of_eq_some hlookup)
  exact eq_of_beq hname ▸ List.mem_map_of_mem hknown

theorem chooses_stored (id : String) : Chooses [("profile", id)] (.stored id) where
  nodup := List.nodup_singleton _
  accepted := by simpa using ⟨.text, rfl, rfl⟩
  chosen isStrict _ := by cases isStrict <;> rfl

namespace Request

variable {presets : Option String} {pair : List (String × String)} {choice : PairChoice}

theorem scanAll_arguments (r : Request) (presets : Option String) (h : Chooses pair choice) (isStrict : Bool) :
    scanAll r.grammar (spelledOut (r.options presets ++ pair) isStrict r.plain) =
      (r.options presets).foldlM (Scanned.takeOption r.grammar) {} >>= fun _ =>
        .ok ⟨r.options presets ++ (pair ++ strictOption isStrict), r.plain⟩ := by
  have hnames : ∀ option ∈ r.options presets ++ pair, '=' ∉ option.1.toList ∧ option.1 ≠ "strict" := by
    intro option hoption
    rcases List.mem_append.1 hoption with hown | hoption
    · have hall : ∀ name ∈ optionNames, '=' ∉ name.toList ∧ name ≠ "strict" := by decide
      exact hall _ (name_of_mem_options hown)
    · have hall : ∀ name ∈ pairOptions.map (·.1), '=' ∉ name.toList := by decide
      refine ⟨hall _ (h.known option hoption), fun hstrict => ?_⟩
      obtain ⟨kind, hlookup, -⟩ := h.accepted option hoption
      rw [hstrict] at hlookup
      cases hlookup
  obtain ⟨kinds, hkinds, htext, hlength⟩ : ∃ kinds, r.grammar.plain = some kinds ∧ (∀ kind ∈ kinds, kind = .text) ∧
      r.plain.length = kinds.length := by
    cases r <;> exact ⟨_, rfl, by simp, rfl⟩
  rw [scanAll_spelledOut hkinds htext hlength hnames fun _ => r.lookup_pairOption (by decide), List.foldlM_append]
  cases htake : (r.options presets).foldlM (Scanned.takeOption r.grammar) {} with
  | error e => rfl
  | ok s =>
    obtain ⟨rfl, -⟩ := Scanned.foldlM_takeOption_eq_ok htake
    have hrest := Scanned.foldlM_takeOption (g := r.grammar) (s := ⟨r.options presets, []⟩) h.nodup
      (fun option hoption => by rw [r.lookup_pairOption (h.known option hoption)]; exact h.accepted option hoption)
      (fun option hoption => Scanned.has_eq_false_iff.2 fun own hown heq =>
        not_mem_pairOptions _ (name_of_mem_options hown) (heq ▸ h.known option hoption))
    simp [bind, Except.bind, hrest]

/-- A request with options for its pair is the command for the pair they choose, if its own options are as they should
be. -/
theorem parse_request (r : Request) (presets : Option String) (h : Chooses pair choice) (isStrict : Bool) :
    parse (r.arguments presets pair isStrict) =
      (r.options presets).foldlM (Scanned.takeOption r.grammar) {} >>= fun _ =>
        .ok ⟨presets, r.command ⟨choice, isStrict⟩⟩ := by
  have hknown : ∀ option ∈ pair ++ strictOption isStrict, option.1 ∈ pairOptions.map (·.1) := by
    intro option hoption
    rcases List.mem_append.1 hoption with hoption | hoption
    · exact h.known option hoption
    · have hall : ∀ isStrict, ∀ option ∈ strictOption isStrict, option.1 ∈ pairOptions.map (·.1) := by decide
      exact hall isStrict option hoption
  have hforeign : ∀ name ∈ optionNames, ∀ option ∈ pair ++ strictOption isStrict, option.1 ≠ name := by
    rintro name hname option hoption rfl
    exact not_mem_pairOptions _ hname (hknown option hoption)
  have hvalue : ∀ name ∈ optionNames,
      Scanned.value? ⟨r.options presets ++ (pair ++ strictOption isStrict), r.plain⟩ name =
        (r.options presets).lookup name := fun name hname => Scanned.value?_append_left (hforeign name hname)
  have hfound := found_eq rfl hvalue (Scanned.values_append_left (hforeign "arg" (by decide)))
  have hpair : Scanned.pair ⟨r.options presets ++ (pair ++ strictOption isStrict), r.plain⟩ = .ok ⟨choice, isStrict⟩ :=
    (Scanned.pair_append fun option hoption => not_mem_pairOptions _ (name_of_mem_options hoption)).trans
      (h.chosen isStrict r.plain)
  rw [arguments, parse_word, r.scanAll_arguments presets h isStrict, bind_assoc]
  refine bind_congr fun _ => ?_
  simp [bind, Except.bind, hpair, hfound, hvalue "presets" (by decide), lookup_presets]

end Request

/-! ## The files of a pair -/

/-- The options that name the files of a pair and their formats. -/
structure SourceFlags where
  community : String
  members : Option String := none
  communityFormat : Option String := none
  canonical : String
  canonicalFormat : Option String := none

namespace SourceFlags

def options (f : SourceFlags) : List (String × String) :=
  given [("community", some f.community), ("community-members", f.members), ("community-format", f.communityFormat),
    ("canonical", some f.canonical), ("canonical-format", f.canonicalFormat)]

def communitySource (f : SourceFlags) : MappingSource where
  format := (f.communityFormat.bind Format.named?).getD .flat
  location := f.community
  members := f.members

def canonicalSource (f : SourceFlags) : MappingSource where
  format := (f.canonicalFormat.bind Format.named?).getD .retrace
  location := f.canonical

/-- No location is empty. -/
structure Located (f : SourceFlags) : Prop where
  community : f.community ≠ ""
  canonical : f.canonical ≠ ""
  members : f.members ≠ some ""

/-- The formats are known by their names. -/
def FormatsKnown (f : SourceFlags) : Prop :=
  ∀ name value, (name, value) ∈ f.options → name = "community-format" ∨ name = "canonical-format" →
    (Format.named? value).isSome

variable {f : SourceFlags}

/-- The names of these options. -/
def optionNames : List String :=
  ["community", "community-members", "community-format", "canonical", "canonical-format"]

theorem name_of_mem_options {option : String × String} (h : option ∈ f.options) : option.1 ∈ optionNames := by
  obtain ⟨name, value⟩ := option
  simp only [options, mem_given, List.mem_cons, Prod.mk.injEq, List.not_mem_nil, or_false] at h
  rcases h with ⟨rfl, -⟩ | ⟨rfl, -⟩ | ⟨rfl, -⟩ | ⟨rfl, -⟩ | ⟨rfl, -⟩ <;> simp [optionNames]

theorem nodup_options (f : SourceFlags) : (f.options.map (·.1)).Nodup :=
  nodup_given (by simp)

theorem lookup_options (f : SourceFlags) (name : String) : f.options.lookup name =
    (List.lookup name [("community", some f.community), ("community-members", f.members),
      ("community-format", f.communityFormat), ("canonical", some f.canonical),
      ("canonical-format", f.canonicalFormat)]).join :=
  lookup_given (by simp) name

theorem chooses (hlocated : f.Located) (hformats : f.FormatsKnown) :
    Chooses f.options (.files f.communitySource f.canonicalSource) where
  nodup := f.nodup_options
  accepted := by
    rintro ⟨name, value⟩ hoption
    have hvalue := hformats name value hoption
    simp only [options, mem_given, List.mem_cons, Prod.mk.injEq, Option.some.injEq, List.not_mem_nil,
      or_false] at hoption
    rcases hoption with ⟨rfl, rfl⟩ | ⟨rfl, hmembers⟩ | ⟨rfl, -⟩ | ⟨rfl, rfl⟩ | ⟨rfl, -⟩
    · exact ⟨.path, rfl, by simpa [ValueKind.accepts] using hlocated.community⟩
    · refine ⟨.path, rfl, ?_⟩
      have hne : value ≠ "" := fun heq => hlocated.members (heq ▸ hmembers.symm)
      simpa [ValueKind.accepts] using hne
    · exact ⟨.format, rfl, hvalue (.inl rfl)⟩
    · exact ⟨.path, rfl, by simpa [ValueKind.accepts] using hlocated.canonical⟩
    · exact ⟨.format, rfl, hvalue (.inr rfl)⟩
  chosen isStrict plain := by
    have hstrictName : ∀ isStrict, ∀ option ∈ strictOption isStrict, option.1 = "strict" := by decide
    have hvalue {name : String} (hname : name ≠ "strict") :
        Scanned.value? ⟨f.options ++ strictOption isStrict, plain⟩ name = f.options.lookup name :=
      Scanned.value?_append_left fun option hoption heq => hname (heq ▸ hstrictName isStrict option hoption)
    have hstrict : Scanned.has ⟨f.options ++ strictOption isStrict, plain⟩ "strict" = isStrict := by
      rw [Scanned.has_append_right]
      · cases isStrict <;> rfl
      · have hne : ∀ name ∈ optionNames, name ≠ "strict" := by decide
        exact fun option hoption => hne _ (name_of_mem_options hoption)
    simp (disch := decide) only [Scanned.pair, Scanned.needed, Scanned.format, hvalue, hstrict, lookup_options]
    rfl

end SourceFlags

/-! ## New profiles -/

def addGrammar : Grammar :=
  grammar [("community", .one .text), ("community-members", .one .text), ("community-format", .one .format),
    ("canonical", .one .text), ("canonical-format", .one .format)] [.text]

/-- The options of a new profile. -/
def addOptions (presets : Option String) (f : SourceFlags) : List (String × String) :=
  given [("presets", presets)] ++ f.options

/-- The arguments that store a profile. -/
def addArguments (presets : Option String) (id : String) (f : SourceFlags) : List String :=
  "profiles" :: "add" :: spelledOut (addOptions presets f) false [id]

variable {presets : Option String} {id : String} {f : SourceFlags}

theorem parse_add (args : List String) : parse ("profiles" :: "add" :: args) =
    scanAll addGrammar args >>= fun s => s.needed "community" >>= fun community =>
      s.needed "canonical" >>= fun canonical =>
        .ok ⟨s.value? "presets", .profiles (.add {
          id := s.argument 0
          community := {
            format := s.format "community-format" .flat, location := community,
            members := s.value? "community-members" }
          canonical := { format := s.format "canonical-format" .retrace, location := canonical } })⟩ := by
  have hadd : scan profilesGrammar {} ("add" :: args) = .ok ({}, "add" :: args) := scan_word rfl (by decide) _ _
  have hcommand : parseCommand "profiles" ("add" :: args) = parseProfileCommand "add" args := by
    have hhelp : "add" ≠ "help" := by decide
    rw [parseCommand, hadd]
    simp only [bind, Except.bind]
    cases parseProfileCommand "add" args with
    | error e => simp
    | ok parsed => simp [Scanned.value?, pure, Except.pure]
  rw [parse_eq_parseCommand (by decide) (by decide), hcommand]
  simp only [parseProfileCommand, map_bind]
  rfl

theorem name_of_mem_presets {option : String × String} (h : option ∈ given [("presets", presets)]) :
    option.1 = "presets" := by
  obtain ⟨name, value⟩ := option
  simp only [mem_given, List.mem_singleton, Prod.mk.injEq] at h
  exact h.1

theorem value?_addOptions {name : String} (hne : name ≠ "presets") (plain : List String) :
    Scanned.value? ⟨addOptions presets f, plain⟩ name = f.options.lookup name :=
  Scanned.value?_append_right fun _ hoption heq => hne (heq ▸ name_of_mem_presets hoption)

theorem presets_addOptions (presets : Option String) (f : SourceFlags) (plain : List String) :
    Scanned.value? ⟨addOptions presets f, plain⟩ "presets" = presets := by
  have hne : ∀ name ∈ SourceFlags.optionNames, name ≠ "presets" := by decide
  rw [addOptions, Scanned.value?_append_left fun _ hoption => hne _ (SourceFlags.name_of_mem_options hoption),
    lookup_given (by simp)]
  rfl

theorem scanAll_add (presets : Option String) (f : SourceFlags) (id : String) :
    scanAll addGrammar (spelledOut (addOptions presets f) false [id]) =
      (addOptions presets f).foldlM (Scanned.takeOption addGrammar) {} >>= fun _ =>
        .ok ⟨addOptions presets f, [id]⟩ := by
  have hkinds : ∀ kind ∈ [ValueKind.text], kind = .text := by simp
  have hnames : ∀ option ∈ addOptions presets f, '=' ∉ option.1.toList ∧ option.1 ≠ "strict" := by
    have hall : ∀ name ∈ "presets" :: SourceFlags.optionNames, '=' ∉ name.toList ∧ name ≠ "strict" := by decide
    intro option hoption
    rcases List.mem_append.1 hoption with hoption | hoption
    · exact name_of_mem_presets hoption ▸ hall "presets" List.mem_cons_self
    · exact hall _ (List.mem_cons_of_mem _ (SourceFlags.name_of_mem_options hoption))
  have hstrict : false → addGrammar.options.lookup "strict" = some .none := Bool.noConfusion
  rw [scanAll_spelledOut rfl hkinds rfl hnames hstrict, strictOption, if_neg Bool.false_ne_true, List.append_nil]

/-- The formats of a new profile are known, or its options are not taken. -/
theorem formatsKnown_of_taken {s : Scanned}
    (h : (addOptions presets f).foldlM (Scanned.takeOption addGrammar) {} = .ok s) : f.FormatsKnown := by
  intro name value hoption hformat
  obtain ⟨-, haccepted⟩ := Scanned.foldlM_takeOption_eq_ok h
  obtain ⟨kind, hkind, hlookup⟩ := haccepted (name, value) (List.mem_append_right _ hoption)
  have hformatOption : addGrammar.options.lookup name = some (.one .format) := by
    rcases hformat with rfl | rfl <;> rfl
  rw [hformatOption] at hlookup
  rcases hlookup with hlookup | hlookup <;> cases hlookup
  exact hkind

/-- What is parsed from these arguments is the command to add the profile, and its formats are known. -/
theorem parse_add_eq_ok {invocation : Invocation} (h : parse (addArguments presets id f) = .ok invocation) :
    f.FormatsKnown ∧ invocation = ⟨presets,
      .profiles (.add { id, community := f.communitySource, canonical := f.canonicalSource })⟩ := by
  rw [addArguments, parse_add, scanAll_add] at h
  cases htake : (addOptions presets f).foldlM (Scanned.takeOption addGrammar) {} with
  | error e =>
    rw [htake] at h
    cases h
  | ok s =>
    rw [htake] at h
    simp (disch := decide) only [bind, Except.bind, Scanned.needed, Scanned.format, value?_addOptions,
      presets_addOptions, SourceFlags.lookup_options] at h
    exact ⟨formatsKnown_of_taken htake, (Except.ok.inj h).symm⟩

end NameBridge.Cli
