/-
# JSON form of values

| type | form |
| --- | --- |
| value | `type` and `value` side by side |
| type tag | object of `name`, `optional`, `description`; the last two may be left out |
| param | object of `value` and `vtype` |
| attachment | object of `name`, `media_type`, `bytes` |
| record, contract | object with a member for each entry, in the order of the map |
-/

import ApparatusGraph.Value.Basic
import ApparatusGraph.Json.Reader

namespace ApparatusGraph

namespace Json

/-- A signed 64-bit integer. -/
def int64 (i : Int64) : Json :=
  .number (.int i.toInt ⟨Int64.le_toInt i, by have := Int64.toInt_lt i; omega⟩)

/-- An unsigned 64-bit integer. -/
def uint64 (n : UInt64) : Json :=
  .number (.int n.toNat (by have := n.toNat_lt; omega))

/-- A map, each value in its own form. -/
def ofNamed {α : Type} (f : α → Json) (m : Named α) : Json :=
  .object (m.entries.map fun (name, a) => (name, f a))

end Json

open Json (Source Result Shape Origin)

namespace Attachment

/-- The JSON form of an attachment. -/
def toJson (a : Attachment) : Json :=
  .object [("name", .text a.name), ("media_type", .text a.mediaType),
    ("bytes", .list (a.bytes.map fun b => .nat b.toNat))]

/-- The fields of an attachment. -/
def shape : Shape Attachment :=
  pure mk <*> .field "name" Json.readText <*> .field "media_type" Json.readText <*>
    .field "bytes" (Json.readList Json.readByte)

/-- Reads an attachment. -/
def read (origin : Origin) (source : Source) : Result Attachment :=
  shape.read "Attachment" origin source

end Attachment

namespace Value

/-- The types of values, as their tags name them. -/
inductive Kind where
  | text
  | integer
  | float
  | bool
  | file
  | data

/-- The tags of values in order of declaration. -/
def kinds : List (String × Kind) :=
  [("text", .text), ("integer", .integer), ("float", .float), ("bool", .bool), ("file", .file),
    ("json", .data)]

/-- The JSON form of what a value holds. -/
def contentJson : Value → Json
  | text s => .text s
  | integer i => .int64 i
  | float f => .number (.float f)
  | bool b => .bool b
  | file a => a.toJson
  | data d => d.json

/-- The JSON form of a value. -/
def toJson (v : Value) : Json :=
  .object [("type", .text v.typeName), ("value", v.contentJson)]

/-- Reads what a value of a type holds. -/
def readContent (origin : Origin) (kind : Kind) (source : Source) : Result Value :=
  match kind with
  | .text => text <$> Json.readText source
  | .integer => integer <$> Json.readInt64 source
  | .float => float <$> Json.readFloat source
  | .bool => bool <$> Json.readBool source
  | .file => file <$> Attachment.read origin source
  | .data => data <$> Json.readData source

/-- The two fields of a value. -/
def tagged : Json.Tagged Kind Value where
  title := "Value"
  tag := "type"
  content := "value"
  known := kinds
  read := readContent
  bare _ := none

/-- Reads a value. -/
def read (source : Source) : Result Value := tagged.readFrom source

end Value

namespace TypeTag

/-- The JSON form of a type tag. -/
def toJson (t : TypeTag) : Json :=
  .object [("name", .text t.name), ("optional", .bool t.optional),
    ("description", .text t.description)]

/-- The fields of a type tag. -/
def shape : Shape TypeTag :=
  pure mk <*> .field "name" Json.readText <*> .optional "optional" Json.readBool false <*>
    .optional "description" Json.readText ""

/-- Reads a type tag. -/
def read (source : Source) : Result TypeTag := shape.read "VirtualType" .direct source

end TypeTag

namespace Param

/-- The JSON form of a param. -/
def toJson (p : Param) : Json := .object [("value", p.value.toJson), ("vtype", p.tag.toJson)]

/-- The fields of a param. -/
def shape : Shape Param := pure mk <*> .field "value" Value.read <*> .field "vtype" TypeTag.read

/-- Reads a param. -/
def read (source : Source) : Result Param := shape.read "Param" .direct source

end Param

namespace Record

/-- The JSON form of a record. -/
def toJson (r : Record) : Json := .ofNamed Param.toJson r

/-- Reads a record. -/
def read (source : Source) : Result Record := Json.readMap Param.read source

end Record

/-- The JSON form of a contract. -/
def Contract.toJson (c : Contract) : Json := .ofNamed TypeTag.toJson c

end ApparatusGraph
