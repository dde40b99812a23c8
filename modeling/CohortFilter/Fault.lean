import CohortFilter.Json.Printer
import CohortFilter.Text.Quoted

namespace CohortFilter

inductive Found
  | null
  | bool (value : Bool)
  | number (value : Number)
  | text (value : String)
  | sequence
  | map

namespace Found

def describe : Found → String
  | .null => "null"
  | .bool true => "boolean `true`"
  | .bool false => "boolean `false`"
  | .number (.integer value fits) => "integer `" ++ (Number.integer value fits).text ++ "`"
  | .number (.float value) => "floating point `" ++ (Number.float value).text ++ "`"
  | .text value => "string " ++ Quoted.shown value
  | .sequence => "sequence"
  | .map => "map"

end Found

inductive Expected
  | text
  | sequence
  | map
  | record (name : String)

namespace Expected

def describe : Expected → String
  | .text => "a string"
  | .sequence => "a sequence"
  | .map => "a map"
  | .record name => "struct " ++ name

end Expected

/-- A document that does not have the shape of what is read from it. `unreadable` is a text that is no
    document. -/
inductive ShapeFault
  | unreadable
  | mismatch (found : Found) (expected : Expected)
  | missingField (name : String)
  | duplicateField (name : String)
  | tooFewItems (count : Nat) (record : String) (fields : Nat)
  | tooManyItems (count : Nat)
  | unknownVariant (name : String) (variants : List String)

namespace ShapeFault

def ticked (name : String) : String := "`" ++ name ++ "`"

def alternatives : List String → String
  | [] => "there are no variants"
  | [one] => ticked one
  | [one, two] => ticked one ++ " or " ++ ticked two
  | many => "one of " ++ ", ".intercalate (many.map ticked)

def message : ShapeFault → String
  | .unreadable => "<syntax>"
  | .mismatch found expected => "invalid type: " ++ found.describe ++ ", expected " ++ expected.describe
  | .missingField name => "missing field " ++ ticked name
  | .duplicateField name => "duplicate field " ++ ticked name
  | .tooFewItems count record fields =>
    "invalid length " ++ toString count ++ ", expected struct " ++ record ++ " with " ++
      toString fields ++ " elements"
  | .tooManyItems count => "invalid length " ++ toString count ++ ", expected fewer elements in array"
  | .unknownVariant name variants =>
    "unknown variant " ++ ticked name ++ ", expected " ++ alternatives variants

end ShapeFault

inductive StateFault
  | notObject (found : Json)
  | unknownTag (tag : String)
  | unexpectedKey (key : String)
  | valueNotContainer (found : Json)
  | valueNotObject (kind : String) (found : Json)
  | membersNotArray (found : Json)
  | badReference (fault : ShapeFault)

namespace StateFault

def message : StateFault → String
  | .notObject found => "expected an object, got " ++ found.compact
  | .unknownTag tag => "unknown filter type '" ++ tag ++ "'"
  | .unexpectedKey key => "unexpected key '" ++ key ++ "' outside of 'value'"
  | .valueNotContainer found => "'value' must be an object or an array, got " ++ found.compact
  | .valueNotObject kind found => kind ++ " filter 'value' must be an object, got " ++ found.compact
  | .membersNotArray found => "composed filter 'value' must be an array, got " ++ found.compact
  | .badReference fault => "invalid filter-set reference: " ++ fault.message

end StateFault

inductive FilterError
  | invalidValue (key : String) (value : Json)
  | invalidState (fault : StateFault)
  | unknownFilterSet (id : String)
  | cyclicReference (id : String) (chain : List String)
  | depthExceeded (limit reached : Nat)
  | unresolvedReference (id : String)
  | invalidShape (fault : ShapeFault)

namespace FilterError

def message : FilterError → String
  | .invalidValue key value => "invalid filter value for key '" ++ key ++ "': " ++ value.compact
  | .invalidState fault => "invalid filter state: " ++ fault.message
  | .unknownFilterSet id => "filter-set '" ++ id ++ "' is not present in the workspace"
  | .cyclicReference _ chain => "cyclic filter-set reference: " ++ " -> ".intercalate chain
  | .depthExceeded limit reached =>
    "reference depth exceeded: reached " ++ toString reached ++ ", limit " ++ toString limit
  | .unresolvedReference id => "filter-set reference '" ++ id ++ "' must be dereferenced before compiling"
  | .invalidShape fault => "serialization/deserialization error: " ++ fault.message

end FilterError

inductive DecodeError
  | shape (fault : ShapeFault)
  | filter (error : FilterError)

namespace DecodeError

def message : DecodeError → String
  | .shape fault => fault.message
  | .filter error => error.message

end DecodeError

end CohortFilter
