import CohortFilter.Fault
import CohortFilter.Json.Reader

namespace CohortFilter

inductive Source
  | text
  | value
deriving DecidableEq

namespace Shape

variable {α ρ τ ε : Type}

def found? : Document → Option Found
  | .null => some .null
  | .bool b => some (.bool b)
  | .number n => some (.number n)
  | .text s => some (.text s)
  | .array .. => some .sequence
  | .object .. => some .map
  | .refused | .broken => none

def mismatch (document : Document) (expected : Expected) : ShapeFault :=
  match found? document with
  | some found => .mismatch found expected
  | none => .unreadable

def text : Document → Except ShapeFault String
  | .text s => .ok s
  | other => .error (mismatch other .text)

def optionalText : Document → Except ShapeFault (Option String)
  | .null => .ok none
  | other => (text other).map some

def list (refuse : ShapeFault → ε) (item : Document → Except ε α) : Document → Except ε (List α)
  | .array items closed => do
    let values ← items.mapM item
    if closed then return values else throw (refuse .unreadable)
  | other => .error (refuse (mismatch other .sequence))

def texts : Document → Except ShapeFault (List String) := list id text

/-- The members of an object in which all have one shape, repeated ones too. A name that is none cannot
    be read. -/
def entries (refuse : ShapeFault → ε) (value : Document → Except ε α) :
    Document → Except ε (List (String × α))
  | .object members closed => do
    let pairs ← members.mapM fun (key, document) => do
      let some key := key | throw (refuse .unreadable)
      return (key, ← value document)
    if closed then return pairs else throw (refuse .unreadable)
  | other => .error (refuse (mismatch other .map))

structure Field (ρ ε : Type) where
  name : String
  put : Document → ρ → Except ε ρ

/-- How a record is read: from an object by the names of its fields, or from an array that has them in
    this order. `finish` gives the record, or the name of the first field that is due. -/
structure Record (ρ τ ε : Type) where
  name : String
  fields : List (Field ρ ε)
  blank : ρ
  finish : ρ → Except String τ
  refuse : ShapeFault → ε

namespace Record

def putMembers (record : Record ρ τ ε) (seen : List String) (draft : ρ) :
    List (Option String × Document) → Except ε ρ
  | [] => .ok draft
  | (none, _) :: _ => .error (record.refuse .unreadable)
  | (some key, document) :: rest =>
    match record.fields.find? (·.name == key) with
    | none =>
      if document.passed then putMembers record seen draft rest
      else .error (record.refuse .unreadable)
    | some field =>
      if key ∈ seen then .error (record.refuse (.duplicateField key))
      else match field.put document draft with
        | .ok draft => putMembers record (key :: seen) draft rest
        | .error fault => .error fault

def putItems (draft : ρ) : List (Field ρ ε) → List Document → Except ε (ρ × List Document)
  | field :: fields, item :: items => do putItems (← field.put item draft) fields items
  | _, items => .ok (draft, items)

def tooFew (record : Record ρ τ ε) (due : String) : ShapeFault :=
  .tooFewItems (record.fields.findIdx (·.name == due)) record.name record.fields.length

def tooMany (source : Source) (count : Nat) : ShapeFault :=
  match source with
  | .text => .unreadable
  | .value => .tooManyItems count

def read (record : Record ρ τ ε) (source : Source) : Document → Except ε τ
  | .object members closed => do
    let draft ← record.putMembers [] record.blank members
    unless closed do throw (record.refuse .unreadable)
    (record.finish draft).mapError fun due => record.refuse (.missingField due)
  | .array items closed => do
    let (draft, rest) ← putItems record.blank record.fields items
    if rest.isEmpty && !closed then throw (record.refuse .unreadable)
    let value ← (record.finish draft).mapError fun due => record.refuse (record.tooFew due)
    unless rest.isEmpty do throw (record.refuse (tooMany source items.length))
    return value
  | other => .error (record.refuse (mismatch other (.record record.name)))

end Record

def ofText (refuse : ShapeFault → ε) (decode : Source → Document → Except ε α) (text : String) :
    Except ε α := do
  let reading := Reading.ofText text
  let value ← decode .text reading.root
  if reading.trailing then throw (refuse .unreadable)
  return value

def ofJson (decode : Source → Document → Except ε α) (value : Json) : Except ε α :=
  decode .value (Document.ofJson value)

end Shape

end CohortFilter
