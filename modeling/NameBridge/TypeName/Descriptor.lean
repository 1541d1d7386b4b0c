import NameBridge.TypeName.Basic

/-!
Descriptors: types as class files write them, such as `[[I` or `Ljava/lang/String;`, and method
signatures made of them, such as `(ILa/B;)V`.

A type text is any number of `[` and then a letter of a primitive or a class name between `L` and
`;`. A signature is `(`, type texts, `)` and one type text. `ofDescriptor` and `ofSignature` read
the whole text or say what is wrong with it.
-/

namespace NameBridge.TypeName

/-- What is wrong with a type text. -/
inductive TypeFault where
  /-- A class name without its closing `;`. -/
  | unclosedClass
  /-- Nothing between `L` and `;`. -/
  | emptyClass
  /-- A letter that starts no type. -/
  | unknownLetter (c : Char)
  /-- Array dimensions and then nothing. -/
  | noElementType
  /-- No text at all. -/
  | endOfInput
  /-- More text after a complete type. -/
  | trailing (rest : String)
  deriving DecidableEq, Repr

def TypeFault.message : TypeFault → String
  | .unclosedClass => "object type without ';'"
  | .emptyClass => "empty class name"
  | .unknownLetter c => "unrecognized type character '" ++ String.singleton c ++ "'"
  | .noElementType => "array dimensions without element type"
  | .endOfInput => "unexpected end of input"
  | .trailing rest => "trailing characters '" ++ rest ++ "'"

inductive SignatureFault where
  /-- The text does not start with `(`. -/
  | noOpening
  /-- The text ends before `)`. -/
  | noClosing
  /-- The text ends directly after `)`. -/
  | noReturnType
  /-- More text after a complete signature. -/
  | trailing (rest : String)
  /-- A parameter or the return type is no type text. -/
  | badType (fault : TypeFault)
  deriving DecidableEq, Repr

def SignatureFault.message : SignatureFault → String
  | .noOpening => "missing '('"
  | .noClosing => "missing ')'"
  | .noReturnType => "missing return type"
  | .trailing rest => "trailing characters '" ++ rest ++ "' after return type"
  | .badType fault => fault.message

/-- Why a descriptor or a signature was refused. Either way the error holds the whole text. -/
inductive DescriptorError where
  | type (encoding : String) (fault : TypeFault)
  | signature (signature : String) (fault : SignatureFault)
  deriving DecidableEq, Repr

def DescriptorError.message : DescriptorError → String
  | .type encoding fault => "Malformed type encoding '" ++ encoding ++ "': " ++ fault.message
  -- a bad type inside a signature is reported as a malformed type
  | .signature text (.badType fault) => "Malformed type encoding '" ++ text ++ "': " ++ fault.message
  | .signature text fault => "Malformed method signature '" ++ text ++ "': " ++ fault.message

/-! ## Reading from the start of a text -/

/-- The element type at the start of `cs` (what is left of a type text without its `[`s), and the
text after it. -/
def readElement : List Char → Except TypeFault (String × List Char)
  | [] => .error .endOfInput
  | 'L' :: rest =>
    match rest.takeWhile (· != ';'), rest.dropWhile (· != ';') with
    | _, [] => .error .unclosedClass
    | [], _ => .error .emptyClass
    | name, _ :: after => .ok (dotted (String.ofList name), after)
  | c :: rest =>
    match primitive? c with
    | some word => .ok (word, rest)
    | none => .error (.unknownLetter c)

/-- The type text at the start of `cs` by its name, and the text after it. -/
def readType (cs : List Char) : Except TypeFault (String × List Char) :=
  let dimensions := (cs.takeWhile (· == '[')).length
  match cs.dropWhile (· == '[') with
  | [] => .error (if dimensions = 0 then .endOfInput else .noElementType)
  | rest => (readElement rest).map fun (base, after) => (withDimensions base dimensions, after)

theorem readElement_length_lt {cs rest : List Char} {name : String}
    (h : readElement cs = .ok (name, rest)) : rest.length < cs.length := by
  unfold readElement at h
  split at h
  · cases h
  · rename_i r
    have hle := (List.dropWhile_sublist (l := r) (· != ';')).length_le
    split at h
    · cases h
    · cases h
    · rename_i hdrop _
      cases h
      rw [hdrop] at hle
      simp only [List.length_cons] at *
      omega
  · split at h
    · cases h; simp
    · cases h

theorem readType_length_lt {cs rest : List Char} {name : String}
    (h : readType cs = .ok (name, rest)) : rest.length < cs.length := by
  have hle := (List.dropWhile_sublist (l := cs) (· == '[')).length_le
  unfold readType at h
  simp only at h
  split at h
  · cases h
  · cases he : readElement (cs.dropWhile (· == '[')) with
    | error e => rw [he] at h; cases h
    | ok p =>
      rw [he] at h
      cases h
      exact Nat.lt_of_lt_of_le (readElement_length_lt he) hle

/-- The parameter types up to the closing parenthesis, and the text after it. -/
def readParameters (cs : List Char) : Except SignatureFault (List String × List Char) :=
  match cs with
  | [] => .error .noClosing
  | ')' :: rest => .ok ([], rest)
  | c :: tail =>
    match _h : readType (c :: tail) with
    | .error fault => .error (.badType fault)
    | .ok (name, rest) => do
      let (names, after) ← readParameters rest
      return (name :: names, after)
termination_by cs.length
decreasing_by exact readType_length_lt _h

/-- The signature that `cs` is, as its parameter types and its return type. -/
def readSignature : List Char → Except SignatureFault (List String × String)
  | '(' :: cs => do
    match ← readParameters cs with
    | (_, []) => .error .noReturnType
    | (parameters, rest) =>
      match readType rest with
      | .error fault => .error (.badType fault)
      | .ok (result, []) => .ok (parameters, result)
      | .ok (_, after) => .error (.trailing (String.ofList after))
  | _ => .error .noOpening

/-! ## Whole texts -/

/-- The type that a descriptor stands for. -/
def ofDescriptor (encoding : String) : Except DescriptorError String :=
  match readType encoding.toList with
  | .error fault => .error (.type encoding fault)
  | .ok (name, []) => .ok name
  | .ok (_, rest) => .error (.type encoding (.trailing (String.ofList rest)))

/-- The parameter types and the return type that a signature stands for. -/
def ofSignature (signature : String) : Except DescriptorError (List String × String) :=
  (readSignature signature.toList).mapError (.signature signature)

end NameBridge.TypeName
