import CohortFilter.Json.Value

namespace CohortFilter.Json

def escape (c : Char) : List Char :=
  match c with
  | '"' => ['\\', '"']
  | '\\' => ['\\', '\\']
  | '\x08' => ['\\', 'b']
  | '\t' => ['\\', 't']
  | '\n' => ['\\', 'n']
  | '\x0c' => ['\\', 'f']
  | '\r' => ['\\', 'r']
  | c =>
    if c.toNat < 32 then ['\\', 'u', '0', '0', Nat.digitChar (c.toNat / 16), Nat.digitChar (c.toNat % 16)]
    else [c]

def quoted (s : String) : List Char := '"' :: (s.toList.flatMap escape ++ ['"'])

mutual

def chars : Json → List Char
  | .null => ['n', 'u', 'l', 'l']
  | .bool true => ['t', 'r', 'u', 'e']
  | .bool false => ['f', 'a', 'l', 's', 'e']
  | .number n => n.chars
  | .text s => quoted s
  | .array [] => ['[', ']']
  | .array (item :: rest) => '[' :: (item.chars ++ itemsChars rest)
  | .object [] => ['{', '}']
  | .object ((key, value) :: rest) => '{' :: (quoted key ++ ':' :: (value.chars ++ membersChars rest))

def itemsChars : List Json → List Char
  | [] => [']']
  | item :: rest => ',' :: (item.chars ++ itemsChars rest)

def membersChars : List (String × Json) → List Char
  | [] => ['}']
  | (key, value) :: rest => ',' :: (quoted key ++ ':' :: (value.chars ++ membersChars rest))

end

def compact (v : Json) : String := String.ofList v.chars

def newLine (indent : Nat) : List Char := '\n' :: List.replicate (2 * indent) ' '

mutual

def prettyChars (indent : Nat) : Json → List Char
  | .array (item :: rest) =>
    '[' :: (newLine (indent + 1) ++ item.prettyChars (indent + 1) ++ prettyItems indent rest)
  | .object ((key, value) :: rest) =>
    '{' :: (newLine (indent + 1) ++ quoted key ++ ':' :: ' ' ::
      (value.prettyChars (indent + 1) ++ prettyMembers indent rest))
  | .array [] => ['[', ']']
  | .object [] => ['{', '}']
  | .null => ['n', 'u', 'l', 'l']
  | .bool true => ['t', 'r', 'u', 'e']
  | .bool false => ['f', 'a', 'l', 's', 'e']
  | .number n => n.chars
  | .text s => quoted s

def prettyItems (indent : Nat) : List Json → List Char
  | [] => newLine indent ++ [']']
  | item :: rest =>
    ',' :: (newLine (indent + 1) ++ item.prettyChars (indent + 1) ++ prettyItems indent rest)

def prettyMembers (indent : Nat) : List (String × Json) → List Char
  | [] => newLine indent ++ ['}']
  | (key, value) :: rest =>
    ',' :: (newLine (indent + 1) ++ quoted key ++ ':' :: ' ' ::
      (value.prettyChars (indent + 1) ++ prettyMembers indent rest))

end

def pretty (v : Json) : String := String.ofList (v.prettyChars 0)

end CohortFilter.Json
