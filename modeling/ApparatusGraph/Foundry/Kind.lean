/-
# The two kinds of apparatus

A processor turns a record into a record; a switcher also decides a verdict.
-/

import ApparatusGraph.Json.Reader

namespace ApparatusGraph

/-- The kind of an apparatus. -/
inductive ApparatusKind where
  | processor
  | switcher
  deriving DecidableEq

namespace ApparatusKind

/-- The kind in words, which is also its JSON form. -/
def display : ApparatusKind → String
  | processor => "processor"
  | switcher => "switcher"

/-- The kinds by their words. -/
def all : List (String × ApparatusKind) := [("processor", processor), ("switcher", switcher)]

/-- The JSON form of a kind. -/
def toJson (k : ApparatusKind) : Json := .text k.display

/-- Reads a kind. -/
def read (source : Json.Source) : Json.Result ApparatusKind := Json.readVariant all source

end ApparatusKind
end ApparatusGraph
