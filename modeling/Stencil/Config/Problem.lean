import Stencil.Text.Quoted

/-!
# What can be wrong with a configuration file

A problem is a cause; its wording is the same whichever format the file has, but the word for
nothing differs between them.
-/

namespace Stencil

open Text

/-- What was found in place of what was expected. -/
inductive Found where
  /-- Nothing, by the word the format has for it. -/
  | nothing (word : String)
  | bool (b : Bool)
  /-- An integer by its digits. -/
  | integer (digits : String)
  /-- An integer of more than 64 bits by its digits and its width. -/
  | wideInteger (digits width : String)
  /-- A floating-point number by its digits. -/
  | float (digits : String)
  | string (s : String)
  | sequence
  | map
  deriving DecidableEq, Repr

/-- The wording of what was found. -/
def Found.text : Found → String
  | nothing word => word
  | bool b => if b then "boolean `true`" else "boolean `false`"
  | integer digits => s!"integer `{digits}`"
  | wideInteger digits width => s!"integer `{digits}` as {width}"
  | float digits => s!"floating point `{digits}`"
  | string s => s!"string {quoted s}"
  | sequence => "sequence"
  | map => "map"

/-- What was expected. -/
inductive Expected where
  | boolean
  | sequence
  | string
  | settings
  | fieldName
  | unit
  | stringOrMap
  | tag
  deriving DecidableEq, Repr

/-- The wording of what was expected. -/
def Expected.text : Expected → String
  | boolean => "a boolean"
  | sequence => "a sequence"
  | string => "a string"
  | settings => "struct EngineConfig"
  | fieldName => "field identifier"
  | unit => "unit"
  | stringOrMap => "string or map"
  | tag => "a YAML tag starting with '!'"

/-- What is wrong with a configuration. -/
inductive ConfigProblem where
  | unknownField (name : String)
  | unknownVariant (name : String)
  | duplicateField (name : String)
  | invalidType (found : Found) (expected : Expected)
  /-- A choice written as a map without exactly one key. -/
  | notOneKey
  /-- More settings in a row than there are. -/
  | tooMany (count : Nat)
  /-- The file cannot be read at all. -/
  | unreadable
  /-- The file holds more than one document. -/
  | severalDocuments
  deriving DecidableEq, Repr

/-- The wording of a problem. -/
def ConfigProblem.message : ConfigProblem → String
  | unknownField name => s!"unknown field `{name}`, expected one of " ++
      "`render_cache`, `allow_method_calls`, `allowed_accessors`"
  | unknownVariant name => s!"unknown variant `{name}`, expected one of " ++
      "`output`, `compiled`, `disabled`"
  | duplicateField name => s!"duplicate field `{name}`"
  | invalidType found expected => s!"invalid type: {found.text}, expected {expected.text}"
  | notOneKey => "invalid value: map, expected map with a single key"
  | tooMany count => s!"invalid length {count}, expected fewer elements in array"
  | unreadable => "the document cannot be read"
  | severalDocuments =>
    "deserializing from YAML containing more than one document is not supported"

end Stencil
