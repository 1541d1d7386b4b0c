import NameBridge.Grammar.Basic
import NameBridge.Json.Shape
import NameBridge.Json.Value
import NameBridge.Profile.Basic
import NameBridge.Resolve.Hierarchy

/-!
Profiles, settings, read options and hierarchies in JSON.

Each type has a written form (`toJson`) and a reader. What a reader takes from the written form is
the value itself, but for the preset mark of a profile, which is not written.
-/

namespace NameBridge

open Json (Value Reader Fault)

/-! ## Formats -/

def Format.words : List (String × Format) := [("flat", .flat), ("retrace", .retrace)]

def Format.toJson (f : Format) : Value := .text f.word

def Format.reader : Reader Format := Reader.choice words

/-! ## Sources -/

namespace MappingSource

/-- The written form. Missing members are not written. -/
def toJson (s : MappingSource) : Value :=
  .object <| [("format", s.format.toJson), ("location", .text s.location)] ++
    (s.members.map fun m => ("members", Value.text m)).toList

/-- A source of which some entries have been read. -/
structure Draft where
  format : Option Format := none
  location : Option String := none
  members : Option (Option String) := none

namespace Draft

def entry (d : Draft) (key : String) : Except Fault (Reader Draft) :=
  if key = "format" then
    Reader.once d.format (Format.reader.map fun f => { d with format := some f })
  else if key = "location" then
    Reader.once d.location (Reader.text.map fun l => { d with location := some l })
  else if key = "members" then
    Reader.once d.members ((Reader.option Reader.text).map fun m => { d with members := some m })
  else .ok (Reader.skip.map fun _ => d)

/-- The finished source. Only the location must be there. -/
def finish (d : Draft) : Except Fault MappingSource := do
  return ⟨d.format.getD .flat, ← Reader.required d.location, d.members.getD none⟩

end Draft

/-- Read the items of a source that is given as a list. -/
def row : Reader MappingSource := fun cs => do
  let ⟨format, r₁, h₁⟩ ← Reader.itemOr (.ok .flat) Format.reader true cs
  let ⟨location, r₂, h₂⟩ ← Reader.itemOr (.error .mismatch) Reader.text false r₁
  let ⟨members, r₃, h₃⟩ ← Reader.itemOr (.ok none) (Reader.option Reader.text) false r₂
  return (← Reader.endOfList ⟨format, location, members⟩ r₃).widen (by omega)

def reader : Reader MappingSource := Reader.record Draft.entry {} Draft.finish row

end MappingSource

/-! ## Profiles -/

namespace Profile

def toJson (p : Profile) : Value :=
  .object [("id", .text p.id), ("community", p.community.toJson), ("canonical", p.canonical.toJson)]

structure Draft where
  id : Option String := none
  community : Option MappingSource := none
  canonical : Option MappingSource := none

namespace Draft

def entry (d : Draft) (key : String) : Except Fault (Reader Draft) :=
  if key = "id" then Reader.once d.id (Reader.text.map fun i => { d with id := some i })
  else if key = "community" then
    Reader.once d.community (MappingSource.reader.map fun s => { d with community := some s })
  else if key = "canonical" then
    Reader.once d.canonical (MappingSource.reader.map fun s => { d with canonical := some s })
  else .ok (Reader.skip.map fun _ => d)

def finish (d : Draft) : Except Fault Profile := do
  return { id := ← Reader.required d.id, community := ← Reader.required d.community,
           canonical := ← Reader.required d.canonical }

end Draft

/-- Read the items of a profile that is given as a list. -/
def row : Reader Profile := fun cs => do
  let ⟨id, r₁, h₁⟩ ← Reader.itemOr (.error .mismatch) Reader.text true cs
  let ⟨community, r₂, h₂⟩ ← Reader.itemOr (.error .mismatch) MappingSource.reader false r₁
  let ⟨canonical, r₃, h₃⟩ ← Reader.itemOr (.error .mismatch) MappingSource.reader false r₂
  return (← Reader.endOfList { id, community, canonical } r₃).widen (by omega)

def reader : Reader Profile := Reader.record Draft.entry {} Draft.finish row

end Profile

/-! ## Settings -/

namespace Settings

def toJson (s : Settings) : Value :=
  .object [("selected_profile", (s.selectedProfile.map Value.text).getD .null)]

/-- How an entry is read; the state is the selection, once it is known. -/
def entry (known : Option (Option String)) (key : String) :
    Except Fault (Reader (Option (Option String))) :=
  if key = "selected_profile" then Reader.once known ((Reader.option Reader.text).map some)
  else .ok (Reader.skip.map fun _ => known)

/-- Read the items of settings that are given as a list. -/
def row : Reader Settings := fun cs => do
  let ⟨selected, rest, h⟩ ← Reader.itemOr (.ok none) (Reader.option Reader.text) true cs
  return (← Reader.endOfList ⟨selected⟩ rest).widen h

def reader : Reader Settings := Reader.record entry none (fun known => .ok ⟨known.getD none⟩) row

end Settings

/-! ## Read options -/

def MalformedPolicy.words : List (String × MalformedPolicy) :=
  [("skip_record", .skipRecord), ("abort_file", .abortFile)]

def MalformedPolicy.word : MalformedPolicy → String
  | .skipRecord => "skip_record"
  | .abortFile => "abort_file"

namespace ReadOptions

def toJson (o : ReadOptions) : Value := .object [("on_malformed", .text o.onMalformed.word)]

/-- How an entry is read; the state is the policy, once it is known. -/
def entry (known : Option MalformedPolicy) (key : String) :
    Except Fault (Reader (Option MalformedPolicy)) :=
  if key = "on_malformed" then
    Reader.once known ((Reader.choice MalformedPolicy.words).map some)
  else .ok (Reader.skip.map fun _ => known)

/-- Read the items of options that are given as a list. -/
def row : Reader ReadOptions := fun cs => do
  let ⟨policy, rest, h⟩ ←
    Reader.itemOr (.ok .skipRecord) (Reader.choice MalformedPolicy.words) true cs
  return (← Reader.endOfList ⟨policy⟩ rest).widen h

def reader : Reader ReadOptions :=
  Reader.record entry none (fun known => .ok ⟨known.getD .skipRecord⟩) row

end ReadOptions

/-! ## Hierarchies -/

/-- Read an object from class names to lists of direct supertypes. -/
def Hierarchy.reader : Reader Hierarchy := Reader.afterSpace fun cs =>
  match cs with
  | '\x7b' :: rest =>
    (Reader.entries (fun h name => .ok ((Reader.list Reader.text).map (h.insert name))) true .empty
      rest).map (·.after)
  | _ => .error (Reader.refusal cs)

end NameBridge
