import CohortFilter.Json.Token

namespace CohortFilter

/-- An array or object that is not closed yet, its parts latest first. In `member` a name was read and
    its value is due. -/
inductive Frame
  | array (items : List Document)
  | object (members : List (Option String × Document))
  | member (members : List (Option String × Document)) (key : Option String)

/-- What may come next: a value, the first part of an array or object or its end, a name, the colon
    after a name, or what follows a value. -/
inductive Place
  | value
  | first
  | key
  | colon
  | after
deriving DecidableEq

structure Reading where
  root : Document
  trailing : Bool

def nestingLimit : Nat := 127

inductive Progress
  | within (stack : List Frame) (place : Place)
  | done (reading : Reading)

namespace Progress

def start : Progress := .within [] .value

def complete (value : Document) : List Frame → Progress
  | .array items :: outer => .within (.array (value :: items) :: outer) .after
  | .member members key :: outer => .within (.object ((key, value) :: members) :: outer) .after
  | .object members :: outer => .within (.object members :: outer) .after
  | [] => .done ⟨value, false⟩

def close (value : Document) (outer : List Frame) : Progress :=
  complete (if (outer.drop (nestingLimit - 1)).isEmpty then value else .refused) outer

def abandon (inner : Document) : List Frame → Document
  | [] => inner
  | .array items :: outer => abandon (.array (inner :: items).reverse false) outer
  | .member members key :: outer => abandon (.object ((key, inner) :: members).reverse false) outer
  | .object members :: outer => abandon (.object members.reverse false) outer

def step (progress : Progress) (token : Token) : Progress :=
  match progress with
  | .done reading => .done { reading with trailing := true }
  | .within stack place =>
    match place, token, stack with
    | .value, .scalar value, _ => complete value stack
    | .first, .scalar value, .array _ :: _ => complete value stack
    | .value, .text value, _ => complete ((value.map Document.text).getD .refused) stack
    | .first, .text value, .array _ :: _ => complete ((value.map Document.text).getD .refused) stack
    | .value, .openArray, _ => .within (.array [] :: stack) .first
    | .first, .openArray, .array _ :: _ => .within (.array [] :: stack) .first
    | .value, .openObject, _ => .within (.object [] :: stack) .first
    | .first, .openObject, .array _ :: _ => .within (.object [] :: stack) .first
    | .first, .closeArray, .array items :: outer => close (.array items.reverse true) outer
    | .after, .closeArray, .array items :: outer => close (.array items.reverse true) outer
    | .first, .closeObject, .object members :: outer => close (.object members.reverse true) outer
    | .after, .closeObject, .object members :: outer => close (.object members.reverse true) outer
    | .first, .text key, .object members :: outer => .within (.member members key :: outer) .colon
    | .key, .text key, .object members :: outer => .within (.member members key :: outer) .colon
    | .colon, .colon, _ => .within stack .value
    | .after, .comma, .array _ :: _ => .within stack .value
    | .after, .comma, .object _ :: _ => .within stack .key
    | _, _, _ => .done ⟨abandon .broken stack, true⟩

def finish : Progress → Reading
  | .done reading => reading
  | .within stack _ => ⟨abandon .broken stack, false⟩

end Progress

structure Reader where
  lexeme : Token.Lexeme
  progress : Progress

namespace Reader

def start : Reader := ⟨.blank, .start⟩

def step (reader : Reader) (c : Char) : Reader :=
  let (tokens, lexeme) := reader.lexeme.step c
  ⟨lexeme, tokens.foldl Progress.step reader.progress⟩

def finish (reader : Reader) : Reading :=
  (reader.lexeme.finish.foldl Progress.step reader.progress).finish

end Reader

namespace Reading

def ofText (text : String) : Reading := (text.toList.foldl Reader.step Reader.start).finish

end Reading

namespace Json

def parse? (text : String) : Option Json :=
  let reading := Reading.ofText text
  if reading.trailing then none else reading.root.value?

end Json

end CohortFilter
