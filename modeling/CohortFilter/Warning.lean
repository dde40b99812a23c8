namespace CohortFilter

inductive Warning
  | unanchoredFields (anchor : String) (fields : List String)
  | mainCollision (tab : String) (fields : Nat)
deriving DecidableEq

def Warning.message : Warning → String
  | .unanchoredFields .. => "anchored filter fields outside a nested path are ignored"
  | .mainCollision .. => "path group 'main' collides with the main group; fields stay unanchored"

/-- An outcome with the warnings given on the way to it, in order. A failure keeps those before it. -/
structure Warned (ε α : Type) where
  outcome : Except ε α
  warnings : List Warning

namespace Warned

variable {ε α β : Type}

def bind (first : Warned ε α) (next : α → Warned ε β) : Warned ε β :=
  match first.outcome with
  | .error error => ⟨.error error, first.warnings⟩
  | .ok value => ⟨(next value).outcome, first.warnings ++ (next value).warnings⟩

instance : Monad (Warned ε) where
  pure value := ⟨.ok value, []⟩
  bind := bind

instance : LawfulMonad (Warned ε) := LawfulMonad.mk' _
  (fun ⟨outcome, warnings⟩ => by cases outcome <;> simp [Functor.map, bind])
  (fun x f => by
    change bind ⟨.ok x, []⟩ f = f x
    simp [bind])
  (fun ⟨outcome, before⟩ f g => by
    change bind (bind ⟨outcome, before⟩ f) g = bind ⟨outcome, before⟩ fun y => bind (f y) g
    cases outcome with
    | error => rfl
    | ok value => cases middle : (f value).outcome <;> simp [bind, middle])

def ofExcept (outcome : Except ε α) : Warned ε α := ⟨outcome, []⟩

def fail (error : ε) : Warned ε α := ⟨.error error, []⟩

def warn (warning : Warning) : Warned ε Unit := ⟨.ok (), [warning]⟩

end Warned

end CohortFilter
