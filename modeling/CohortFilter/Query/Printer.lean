import CohortFilter.Json.Printer
import CohortFilter.Query

namespace CohortFilter.Query

def entryChars (name : String) (value : List Char) : List Char :=
  '{' :: (Json.quoted name ++ ':' :: (value ++ ['}']))

def listChars : List (List Char) → List Char
  | [] => ['[', ']']
  | item :: rest => '[' :: (item ++ (rest.flatMap (',' :: ·) ++ [']']))

mutual

def chars : Query → List Char
  | .group mode clauses => entryChars mode.name (listChars (clauseChars clauses))
  | .matching mode field values => entryChars mode.name (entryChars field (listChars (values.map Json.quoted)))
  | .atLeast field bound => entryChars "GTE" (entryChars field bound.chars)
  | .atMost field bound => entryChars "LTE" (entryChars field bound.chars)
  | .nested path mode clauses =>
    entryChars "nested" ('{' :: (Json.quoted "path" ++ ':' :: (Json.quoted path ++ ',' ::
      (Json.quoted mode.name ++ ':' :: (listChars (clauseChars clauses) ++ ['}'])))))

def clauseChars : List Query → List (List Char)
  | [] => []
  | clause :: rest => clause.chars :: clauseChars rest

end

def text (query : Query) : String := String.ofList query.chars

end CohortFilter.Query
