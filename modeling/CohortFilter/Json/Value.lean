import CohortFilter.Json.Number

namespace CohortFilter

inductive Json
  | null
  | bool (value : Bool)
  | number (value : Number)
  | text (value : String)
  | array (items : List Json)
  | object (members : List (String × Json))

namespace Json

def text? : Json → Option String
  | .text value => some value
  | _ => none

def texts (values : List String) : Json := .array (values.map .text)

@[elab_as_elim]
theorem induction {motive : Json → Prop} (null : motive .null) (bool : ∀ value, motive (.bool value))
    (number : ∀ value, motive (.number value)) (text : ∀ value, motive (.text value))
    (array : ∀ items, (∀ item ∈ items, motive item) → motive (.array items))
    (object : ∀ members, (∀ member ∈ members, motive member.2) → motive (.object members)) (value : Json) :
    motive value := by
  refine @Json.rec motive (fun items => ∀ item ∈ items, motive item)
    (fun members => ∀ member ∈ members, motive member.2) (fun member => motive member.2)
    null bool number text array object (fun _ member => nomatch member) ?_ (fun _ member => nomatch member) ?_
    (fun _ _ made => made) value
  · exact fun item rest head later => List.forall_mem_cons.mpr ⟨head, later⟩
  · exact fun member rest head later => List.forall_mem_cons.mpr ⟨head, later⟩

end Json

end CohortFilter
