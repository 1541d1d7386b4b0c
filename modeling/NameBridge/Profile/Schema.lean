import NameBridge.Json.Value

/-!
The JSON schema of an entry in a profile file.
-/

namespace NameBridge

open Json (Value)

namespace ProfileSchema

/-- A reference to a definition. -/
def reference (name : String) : Value := .object [("$ref", .text ("#/$defs/" ++ name))]

/-- A schema that is described and has a type. -/
def described (description type : String) (others : List (String × Value)) : Value :=
  .object ([("description", .text description), ("type", .text type)] ++ others)

def format : Value :=
  .object [
    ("description", .text "Grammar of a mapping file."),
    ("oneOf", .list [
      described "Class list plus optional member list, one record per line." "string"
        [("const", .text "flat")],
      described "Class header lines followed by indented member lines." "string"
        [("const", .text "retrace")]])]

def source : Value :=
  described "Where one side of a mapping pair is read from." "object" [
    ("properties", .object [
      ("format", .object [("$ref", .text "#/$defs/MappingFormat"), ("default", .text "flat")]),
      ("location", described
        "Location of the class list (flat) or of the whole file (retrace)." "string" []),
      ("members", .object [
        ("description", .text "Member list location; only read for the flat format."),
        ("type", .ofTexts ["string", "null"])])]),
    ("required", .ofTexts ["location"])]

end ProfileSchema

def profileSchema : Value :=
  .object [
    ("$schema", .text "https://json-schema.org/draft/2020-12/schema"),
    ("title", .text "MappingProfile"),
    ("description",
      .text "A named pair of mapping sources: the community side and the canonical side."),
    ("type", .text "object"),
    ("properties", .object [
      ("canonical", ProfileSchema.reference "MappingSource"),
      ("community", ProfileSchema.reference "MappingSource"),
      ("id", .object [("type", .text "string")])]),
    ("required", .ofTexts ["id", "community", "canonical"]),
    ("$defs", .object [
      ("MappingFormat", ProfileSchema.format),
      ("MappingSource", ProfileSchema.source)])]

end NameBridge
