/-
# The text catalogue

Ready-made apparatus over text.

| name | kind | inputs | outputs |
| --- | --- | --- | --- |
| `uppercase`, `lowercase`, `trim` | processor | `text` | `text` |
| `concat` | processor | `left`, `right`, `separator`? | `text` |
| `length` | processor | `text` | `length` |
| `is_empty` | switcher | `text` | on false: `text` |
| `contains` | switcher | `text`, `needle` | `text` |
| `longer_than_10` | switcher | `text` | `text` |

An input that must be there and is not, or is no text, is a failure.  Lengths count
characters.
-/

import ApparatusGraph.Foundry.Draft
import ApparatusGraph.Text.Case

namespace ApparatusGraph
namespace Catalogue

variable {σ : Type}

/-- The text of a var that must hold one. -/
def textVar (input : Record) (var : Var) : Except Failure String :=
  match (input.get? var).bind Param.text? with
  | some s => .ok s
  | none => .error ⟨s!"expected text in '{var}'", []⟩

/-- The text of a var, empty when it holds none. -/
def textVarOr (input : Record) (var : Var) (default : String) : String :=
  ((input.get? var).bind Param.text?).getD default

/-- The record of one var. -/
def single (var : Var) (p : Param) : Record := Named.ofList [(var, p)]

/-- A processor from a text to a text. -/
def textMap (name description : String) (f : String → String) :
    Except RegistryError (Processor σ) :=
  (Draft.ofSettings [
    .name name,
    .description description,
    .var .input "text" (.text "text to transform"),
    .var .output "text" (.text "transformed text"),
    .callable fun input => .answer do
      let s ← textVar input "text"
      .ok (single "text" (.text (f s)))]).toProcessor

/-- Text in upper case. -/
def uppercase : Except RegistryError (Processor σ) :=
  textMap "uppercase" "Convert text to upper case" Text.upper

/-- Text in lower case. -/
def lowercase : Except RegistryError (Processor σ) :=
  textMap "lowercase" "Convert text to lower case" Text.lower

/-- Text without blanks at its ends. -/
def trim : Except RegistryError (Processor σ) :=
  textMap "trim" "Strip leading and trailing whitespace" Text.trim

/-- Two texts in a row, with a third between them if there is one. -/
def concat : Except RegistryError (Processor σ) :=
  (Draft.ofSettings [
    .name "concat",
    .description "Join two texts, optionally with a separator",
    .var .input "left" (.text "leading text"),
    .var .input "right" (.text "trailing text"),
    .var .input "separator" (TypeTag.text "placed between the two").asOptional,
    .var .output "text" (.text "joined text"),
    .callable fun input => .answer do
      let left ← textVar input "left"
      let right ← textVar input "right"
      let separator := textVarOr input "separator" ""
      .ok (single "text" (.text (left ++ separator ++ right)))]).toProcessor

/-- The number of characters of a text; a failure when it does not fit in 63 bits. -/
def characterCount (s : String) : Except Failure Int64 :=
  if s.length < 0x8000000000000000 then .ok (.ofNat s.length)
  else .error ⟨"out of range integral type conversion attempted", []⟩

/-- The number of characters of a text. -/
def length : Except RegistryError (Processor σ) :=
  (Draft.ofSettings [
    .name "length",
    .description "Count the characters of a text",
    .var .input "text" (.text "text to measure"),
    .var .output "length" (.integer "number of characters"),
    .callable fun input => .answer do
      let s ← textVar input "text"
      let n ← characterCount s
      .ok (single "length" (.integer n))]).toProcessor

/-- True of blank texts, of which trimming leaves nothing (`Text.trim_eq_empty_iff`); passes on the
text that is not. -/
def isEmpty : Except RegistryError (Switcher σ) :=
  (Draft.ofSettings [
    .name "is_empty",
    .description "Check whether a text is blank",
    .var .input "text" (.text "text to check"),
    .contract .whenTrue ∅,
    .var .whenFalse "text" (.text "the non-blank text"),
    .callable fun input => .answer do
      let s ← textVar input "text"
      if Text.isBlankText s then .ok (true, ∅)
      else .ok (false, single "text" (.text s))]).toSwitcher

/-- True when the characters of `needle` stand in a row somewhere in the text. -/
def hasInfix (needle : List Char) : List Char → Bool
  | [] => needle.isEmpty
  | c :: rest => needle.isPrefixOf (c :: rest) || hasInfix needle rest

/-- True when a text contains another; passes the text on. -/
def contains : Except RegistryError (Switcher σ) :=
  (Draft.ofSettings [
    .name "contains",
    .description "Check whether a text contains a substring",
    .var .input "text" (.text "text to search"),
    .var .input "needle" (.text "substring to look for"),
    .var .whenTrue "text" (.text "the matching text"),
    .var .whenFalse "text" (.text "the non-matching text"),
    .callable fun input => .answer do
      let s ← textVar input "text"
      let needle ← textVar input "needle"
      .ok (hasInfix needle.toList s.toList, single "text" (.text s))]).toSwitcher

/-- True when a text has more than `limit` characters; passes the text on. -/
def longerThan (name : String) (limit : Nat) : Except RegistryError (Switcher σ) :=
  (Draft.ofSettings [
    .name name,
    .description s!"Check whether a text is longer than {limit} characters",
    .var .input "text" (.text "text to measure"),
    .var .whenTrue "text" (.text "the long text"),
    .var .whenFalse "text" (.text "the short text"),
    .callable fun input => .answer do
      let s ← textVar input "text"
      .ok (decide (limit < s.length), single "text" (.text s))]).toSwitcher

/-- The limit of the switcher `longer_than_10`. -/
def standardLengthLimit : Nat := 10

/-- The processors of the catalogue. -/
def processors : Except RegistryError (List (Processor σ)) := do
  .ok [← uppercase, ← lowercase, ← trim, ← concat, ← length]

/-- The switchers of the catalogue. -/
def switchers : Except RegistryError (List (Switcher σ)) := do
  .ok [← isEmpty, ← contains,
    ← longerThan s!"longer_than_{standardLengthLimit}" standardLengthLimit]

/-- The foundry of the whole catalogue. -/
def foundry : Except RegistryError (Foundry σ) := do
  Foundry.register (← processors) (← switchers)

end Catalogue
end ApparatusGraph
