import Mathlib.Data.List.Nodup
import NameBridge.Cli.Command
import NameBridge.Proofs.Basic
import NameBridge.Proofs.Text.Spans

/-!
Arguments that are spelled out.

An option can be written as one argument with its value, `--name=value`, whatever that value is, and behind `--` all
arguments are plain. Written so, options are taken one by one (`scan_spelled`), and what is found in all the arguments
of a command is what was written (`scanAll_spelledOut`).
-/

namespace NameBridge.Cli

variable {g : Grammar} {s s' : Scanned} {name value : String} {option : String × String}
  {options : List (String × String)}

/-! ## Options with their values -/

/-- An option and its value in one argument. -/
def spell (option : String × String) : String := "--" ++ option.1 ++ "=" ++ option.2

theorem splitLong_spelled (h : '=' ∉ name.toList) (value : String) :
    splitLong (name.toList ++ '=' :: value.toList) = (name, some value) := by
  rw [splitLong, Text.takeWhile_before h, Text.dropWhile_before h]
  simp

namespace Scanned

/-- Take an option with its value, if there is such an option. -/
def takeOption (g : Grammar) (s : Scanned) (option : String × String) : Except Stop Scanned :=
  match g.options.lookup option.1 with
  | some arity => s.addValue option.1 option.2 arity
  | none => .error .usage

theorem has_eq_false_iff : s.has name = false ↔ ∀ o ∈ s.options, o.1 ≠ name := by
  simp [has]

/-- An option that was taken has a value of its kind, and stands behind those before it. -/
theorem takeOption_eq_ok (h : s.takeOption g option = .ok s') :
    s' = { s with options := s.options ++ [option] } ∧ ∃ kind : ValueKind, kind.accepts option.2 ∧
      (g.options.lookup option.1 = some (.one kind) ∨ g.options.lookup option.1 = some (.many kind)) := by
  unfold takeOption at h
  split at h
  · rename_i arity harity
    cases arity with
    | none => cases h
    | one kind =>
      simp only [addValue] at h
      split at h
      · cases h
      · rename_i hkind
        cases h
        rw [Bool.or_eq_true, not_or, Bool.not_eq_true', Bool.not_eq_false] at hkind
        exact ⟨rfl, kind, hkind.2, .inl harity⟩
    | many kind =>
      simp only [addValue] at h
      split at h
      · cases h
        exact ⟨rfl, kind, ‹_›, .inr harity⟩
      · cases h
  · cases h

theorem foldlM_takeOption_eq_ok (h : options.foldlM (takeOption g) s = .ok s') :
    s' = { s with options := s.options ++ options } ∧ ∀ option ∈ options, ∃ kind : ValueKind,
      kind.accepts option.2 ∧
        (g.options.lookup option.1 = some (.one kind) ∨ g.options.lookup option.1 = some (.many kind)) := by
  induction options generalizing s with
  | nil =>
    cases h
    simp
  | cons option options ih =>
    rw [List.foldlM_cons] at h
    obtain ⟨s₁, htake, hrest⟩ := bind_eq_ok_iff.1 h
    obtain ⟨rfl, hoption⟩ := takeOption_eq_ok htake
    obtain ⟨rfl, hoptions⟩ := ih hrest
    exact ⟨by simp, List.forall_mem_cons.2 ⟨hoption, hoptions⟩⟩

/-- Options that come once each, with values of their kinds, are all taken. -/
theorem foldlM_takeOption (hnodup : (options.map (·.1)).Nodup)
    (hkind : ∀ option ∈ options, ∃ kind : ValueKind,
      g.options.lookup option.1 = some (.one kind) ∧ kind.accepts option.2)
    (hnew : ∀ option ∈ options, s.has option.1 = false) :
    options.foldlM (takeOption g) s = .ok { s with options := s.options ++ options } := by
  induction options generalizing s with
  | nil => simp [pure, Except.pure]
  | cons option options ih =>
    rw [List.map_cons, List.nodup_cons] at hnodup
    rw [List.forall_mem_cons] at hkind hnew
    obtain ⟨⟨kind, hlookup, haccepts⟩, hkinds⟩ := hkind
    have htake : s.takeOption g option = .ok { s with options := s.options ++ [option] } := by
      simp [takeOption, hlookup, addValue, hnew.1, haccepts, addOption]
    have hrest := ih (s := { s with options := s.options ++ [option] }) hnodup.2 hkinds fun o ho => by
      have hne : option.1 ≠ o.1 := fun heq => hnodup.1 (heq ▸ List.mem_map_of_mem ho)
      rw [has_eq_false_iff]
      simpa [or_imp, forall_and, hne] using has_eq_false_iff.1 (hnew.2 o ho)
    rw [List.foldlM_cons, htake]
    exact hrest.trans (by simp)

end Scanned

/-! ## Lists of arguments -/

theorem scan_spell (h : '=' ∉ option.1.toList) (g : Grammar) (s : Scanned) (rest : List String) :
    scan g s (spell option :: rest) = s.takeOption g option >>= fun s => scan g s rest := by
  obtain ⟨name, value⟩ := option
  have hlist : (spell (name, value)).toList = '-' :: '-' :: (name.toList ++ '=' :: value.toList) := by
    simp [spell]
  obtain ⟨c, cs, hbody⟩ := List.exists_cons_of_ne_nil (l := name.toList ++ '=' :: value.toList) (by simp)
  have hsplit : splitLong (c :: cs) = (name, some value) := hbody ▸ splitLong_spelled h value
  rw [scan, hlist, hbody]
  simp only [hsplit, Scanned.takeOption]
  cases g.options.lookup name with
  | none => simp; rfl
  | some arity =>
    cases arity with
    | none => simp; rfl
    | one kind => simp
    | many kind => simp

theorem scan_spelled (h : ∀ option ∈ options, '=' ∉ option.1.toList) (g : Grammar) (s : Scanned)
    (rest : List String) :
    scan g s (options.map spell ++ rest) = options.foldlM (Scanned.takeOption g) s >>= fun s => scan g s rest := by
  induction options generalizing s with
  | nil => rfl
  | cons option options ih =>
    rw [List.forall_mem_cons] at h
    rw [List.map_cons, List.cons_append, scan_spell h.1, List.foldlM_cons, bind_assoc]
    exact bind_congr fun s => ih h.2 s

theorem scan_strict (h : g.options.lookup "strict" = some .none) (s : Scanned) (rest : List String) :
    scan g s ("--strict" :: rest) = s.addFlag "strict" >>= fun s => scan g s rest := by
  have hlist : "--strict".toList = ['-', '-', 's', 't', 'r', 'i', 'c', 't'] := rfl
  have hsplit : splitLong ['s', 't', 'r', 'i', 'c', 't'] = ("strict", none) := by decide
  rw [scan, hlist]
  simp [hsplit, h]

theorem foldlM_addPlain {kinds : List ValueKind} (hkinds : g.plain = some kinds)
    (htext : ∀ kind ∈ kinds, kind = .text) (args : List String)
    (hlength : s.plain.length + args.length ≤ kinds.length) :
    args.foldlM (Scanned.addPlain g) s = .ok { s with plain := s.plain ++ args } := by
  induction args generalizing s with
  | nil => simp [pure, Except.pure]
  | cons arg args ih =>
    rw [List.length_cons] at hlength
    have hlt : s.plain.length < kinds.length := by omega
    have hadd : s.addPlain g arg = .ok { s with plain := s.plain ++ [arg] } := by
      simp [Scanned.addPlain, hkinds, hlt, htext _ (List.getElem_mem hlt), ValueKind.accepts]
    rw [List.foldlM_cons, hadd]
    exact (ih (s := { s with plain := s.plain ++ [arg] }) (by simp; omega)).trans (by simp)

/-- Behind `--` all arguments are plain. -/
theorem scan_dashes {kinds : List ValueKind} (hkinds : g.plain = some kinds) (htext : ∀ kind ∈ kinds, kind = .text)
    (args : List String) (hlength : s.plain.length + args.length ≤ kinds.length) :
    scan g s ("--" :: args) = .ok ({ s with plain := s.plain ++ args }, []) := by
  have hlist : "--".toList = ['-', '-'] := rfl
  rw [scan, hlist]
  simp only [hkinds, foldlM_addPlain hkinds htext args hlength]
  rfl

/-- The name of a command ends the options before it. -/
theorem scan_word {word : String} (hplain : g.plain = none) (h : word.toList.head? ≠ some '-') (s : Scanned)
    (rest : List String) : scan g s (word :: rest) = .ok (s, word :: rest) := by
  rw [scan]
  split
  · rename_i hlist
    simp [hlist] at h
  · rename_i hlist
    simp [hlist] at h
  · rename_i hlist
    simp [hlist] at h
  · rw [hplain]
    rfl

/-- Options with their values, the flag for strict reading, and plain arguments. -/
def spelledOut (options : List (String × String)) (isStrict : Bool) (plain : List String) : List String :=
  options.map spell ++ ((if isStrict then ["--strict"] else []) ++ "--" :: plain)

def strictOption (isStrict : Bool) : List (String × String) := if isStrict then [("strict", "")] else []

theorem scanAll_spelledOut {kinds : List ValueKind} (hkinds : g.plain = some kinds)
    (htext : ∀ kind ∈ kinds, kind = .text) {plain : List String} (hlength : plain.length = kinds.length)
    (hnames : ∀ option ∈ options, '=' ∉ option.1.toList ∧ option.1 ≠ "strict") {isStrict : Bool}
    (hstrict : isStrict → g.options.lookup "strict" = some .none) :
    scanAll g (spelledOut options isStrict plain) =
      options.foldlM (Scanned.takeOption g) {} >>= fun _ => .ok ⟨options ++ strictOption isStrict, plain⟩ := by
  rw [scanAll, spelledOut, scan_spelled fun option hoption => (hnames option hoption).1]
  cases htake : options.foldlM (Scanned.takeOption g) {} with
  | error e => rfl
  | ok s =>
    obtain ⟨rfl, -⟩ := Scanned.foldlM_takeOption_eq_ok htake
    have hnew : Scanned.has ⟨options, []⟩ "strict" = false :=
      Scanned.has_eq_false_iff.2 fun option hoption => (hnames option hoption).2
    have hrest : scan g ⟨options, []⟩ ((if isStrict then ["--strict"] else []) ++ "--" :: plain) =
        .ok (⟨options ++ strictOption isStrict, plain⟩, []) := by
      cases isStrict with
      | false => simpa [strictOption] using scan_dashes (s := ⟨options, []⟩) hkinds htext plain (by simp [hlength])
      | true =>
        have hflag : Scanned.addFlag ⟨options, []⟩ "strict" = .ok ⟨options ++ [("strict", "")], []⟩ := by
          rw [Scanned.addFlag, hnew]
          rfl
        have hscan := scan_dashes (s := ⟨options ++ [("strict", "")], []⟩) hkinds htext plain (by simp [hlength])
        rw [if_pos rfl, List.singleton_append, scan_strict (hstrict rfl), hflag]
        exact hscan
    simp [bind, Except.bind, hrest, hkinds, hlength, pure, Except.pure]

/-! ## Options that may be given -/

/-- The options that are given a value. -/
def given (options : List (String × Option String)) : List (String × String) :=
  options.filterMap fun (name, value) => value.map (name, ·)

theorem mem_given {options : List (String × Option String)} :
    (name, value) ∈ given options ↔ (name, some value) ∈ options := by
  simp [given]

theorem nodup_given {options : List (String × Option String)} (h : (options.map (·.1)).Nodup) :
    ((given options).map (·.1)).Nodup := by
  refine h.sublist ?_
  clear h
  induction options with
  | nil => exact .slnil
  | cons option options ih =>
    obtain ⟨name, _ | value⟩ := option
    · exact ih.cons name
    · exact ih.cons_cons name

theorem lookup_map_key {key : String} (h : name ≠ key) (values : List String) :
    (values.map (key, ·)).lookup name = none := by
  rw [List.lookup_eq_none_iff]
  simpa using fun _ _ => h

/-- An option has the value that it is given, if any. -/
theorem lookup_given {options : List (String × Option String)} (h : (options.map (·.1)).Nodup) (name : String) :
    (given options).lookup name = (options.lookup name).join := by
  induction options with
  | nil => rfl
  | cons option options ih =>
    rw [List.map_cons, List.nodup_cons] at h
    have hrest := ih h.2
    obtain ⟨first, value⟩ := option
    by_cases hname : name = first
    · subst hname
      have hnone : options.lookup name = none := by
        rw [List.lookup_eq_none_iff]
        rintro option hoption
        rw [bne_iff_ne]
        rintro rfl
        exact h.1 (List.mem_map.2 ⟨option, hoption, rfl⟩)
      cases value with
      | none => simpa [given, hnone] using hrest
      | some value => simp [given]
    · have hbeq : (name == first) = false := beq_eq_false_iff_ne.2 hname
      cases value with
      | none => simpa [given, List.lookup_cons, hbeq] using hrest
      | some value => simpa [given, List.lookup_cons, hbeq] using hrest

end NameBridge.Cli
