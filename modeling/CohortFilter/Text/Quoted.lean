import CohortFilter.Text.Unprintable

namespace CohortFilter.Quoted

/-- A marked character joins the one before it, so it is escaped like an unprintable one. -/
def escape (c : Char) : List Char :=
  match c with
  | '"' => ['\\', '"']
  | '\\' => ['\\', '\\']
  | '\n' => ['\\', 'n']
  | '\r' => ['\\', 'r']
  | '\t' => ['\\', 't']
  | '\x00' => ['\\', '0']
  | c =>
    if Unprintable.contains c then '\\' :: 'u' :: '{' :: (Nat.toDigits 16 c.toNat ++ ['}'])
    else [c]

def shown (text : String) : String := String.ofList ('"' :: (text.toList.flatMap escape ++ ['"']))

end CohortFilter.Quoted
