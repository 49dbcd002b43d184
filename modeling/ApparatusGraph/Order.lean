/-
# Orders and outputs

An order starts a run: a text and the files that come with it.  A run that reaches
an egress ends with an output, a map from the fields of that egress to values.
-/

import ApparatusGraph.Value.Json

namespace ApparatusGraph

open Json (Source Result Shape)

/-- The request that starts a run. -/
structure Order where
  text : String
  files : List Attachment := []
  deriving DecidableEq

namespace Order

/-- The JSON form of an order. -/
def toJson (o : Order) : Json :=
  .object [("text", .text o.text), ("files", .list (o.files.map Attachment.toJson))]

/-- The fields of an order. -/
def shape : Shape Order :=
  pure mk <*> .field "text" Json.readText <*>
    .optional "files" (Json.readList (Attachment.read .direct)) []

/-- Reads an order. -/
def read (source : Source) : Result Order := shape.read "Order" .direct source

end Order

/-- The values that an egress assembles, by field. -/
abbrev Output := Named Value

namespace Output

/-- The JSON form of an output. -/
def toJson (o : Output) : Json := .ofNamed Value.toJson o

/-- Reads an output. -/
def read (source : Source) : Result Output := Json.readMap Value.read source

end Output
end ApparatusGraph
