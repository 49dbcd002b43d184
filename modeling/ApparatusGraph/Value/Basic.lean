/-
# Values, type tags and records

A register holds a `Param`: a value and the type it is declared to have.  The
declared type is advice; only its `optional` flag is ever looked at.  A `Record` is
a map from vars to params, what an apparatus takes and gives back.

| value | type name | holds |
| --- | --- | --- |
| `text` | `text` | a text |
| `integer` | `integer` | a signed 64-bit integer |
| `float` | `float` | a double |
| `bool` | `bool` | a flag |
| `file` | `file` | an attachment |
| `data` | `json` | structured data |
-/

import ApparatusGraph.Json.Basic

namespace ApparatusGraph

/-- The name of a register. -/
abbrev Address := String

/-- The name of a field in a record that an apparatus takes or gives back. -/
abbrev Var := String

/-- A file that comes with an order. -/
structure Attachment where
  name : String
  mediaType : String
  bytes : List UInt8
  deriving DecidableEq

/-- A plain-text attachment with the bytes of a text. -/
def Attachment.plain (name content : String) : Attachment :=
  ⟨name, "text/plain", content.toUTF8.toList⟩

/-- A value that a register can hold. -/
inductive Value where
  | text (s : String)
  | integer (i : Int64)
  | float (f : Float)
  | bool (b : Bool)
  | file (a : Attachment)
  | data (d : Data)
  deriving BEq

namespace Value

/-- The name of the type of a value. -/
def typeName : Value → String
  | text _ => "text"
  | integer _ => "integer"
  | float _ => "float"
  | bool _ => "bool"
  | file _ => "file"
  | data _ => "json"

/-- The text of a value that is text. -/
def text? : Value → Option String
  | text s => some s
  | _ => none

/-- The integer of a value that is one. -/
def integer? : Value → Option Int64
  | integer i => some i
  | _ => none

/-- The flag of a value that is one. -/
def bool? : Value → Option Bool
  | bool b => some b
  | _ => none

/-- The attachment of a value that is one. -/
def file? : Value → Option Attachment
  | file a => some a
  | _ => none

end Value

/-- The declared type of a var or a register. -/
structure TypeTag where
  name : String
  /-- the var may be absent -/
  optional : Bool := false
  /-- what the var holds, for the reader of a manifest -/
  description : String := ""
  deriving DecidableEq

namespace TypeTag

/-- Text that must be there. -/
def text (description : String) : TypeTag := ⟨"text", false, description⟩

/-- An integer that must be there. -/
def integer (description : String) : TypeTag := ⟨"integer", false, description⟩

/-- A flag that must be there. -/
def bool (description : String) : TypeTag := ⟨"bool", false, description⟩

/-- A file that must be there. -/
def file (description : String) : TypeTag := ⟨"file", false, description⟩

/-- The same type, allowed to be absent. -/
def asOptional (t : TypeTag) : TypeTag := { t with optional := true }

/-- The name of the type, with a question mark when the value may be absent. -/
def display (t : TypeTag) : String := if t.optional then t.name ++ "?" else t.name

end TypeTag

/-- A value with its declared type. -/
structure Param where
  value : Value
  tag : TypeTag
  deriving BEq

namespace Param

/-- A value tagged with the name of its own type. -/
def ofValue (v : Value) : Param := ⟨v, { name := v.typeName }⟩

/-- A text as a param. -/
def text (s : String) : Param := ofValue (.text s)

/-- An integer as a param. -/
def integer (i : Int64) : Param := ofValue (.integer i)

/-- A flag as a param. -/
def bool (b : Bool) : Param := ofValue (.bool b)

/-- The text of a param that holds text. -/
def text? (p : Param) : Option String := p.value.text?

end Param

/-- What an apparatus takes and gives back: params by var. -/
abbrev Record := Named Param

/-- The types that one side of an apparatus declares. -/
abbrev Contract := Named TypeTag

/-- True when the contract declares the var and allows it to be absent. -/
def Contract.allowsAbsent (c : Contract) (var : Var) : Bool :=
  match c.get? var with
  | some tag => tag.optional
  | none => false

end ApparatusGraph
