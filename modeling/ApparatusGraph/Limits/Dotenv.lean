/-
# Environment files

An environment file sets variables line by line, `KEY=VALUE` with an optional
`export` before the key.  A value may be bare, between single quotes, where every
character stands for itself, or between double quotes.  Outside single quotes a
backslash escapes the next character and `$NAME` or `${NAME}` is replaced by the value
of a variable.  A quoted value may run over several lines, and a comment begins with
`#` after a blank or at the beginning of a line.

A variable that is set already keeps its value, so the first line for a key counts.
Reading stops without complaint at the first line that cannot be read.
-/

import ApparatusGraph.Named
import ApparatusGraph.Text.Blank
import ApparatusGraph.Text.WordTable

namespace ApparatusGraph
namespace Dotenv

/-! ## Lines -/

/-- What the end of a physical line falls into. -/
inductive Region where
  | plain
  | blank
  | escape
  | single
  | singleEscape
  | double
  | doubleEscape
  deriving DecidableEq

/-- The region after one more character; none when the character begins a comment. -/
def Region.next (region : Region) (c : Char) : Option Region :=
  match region with
  | .blank =>
    if c = '#' then none
    else some (if c = '\\' then .escape else if c = '"' then .double
      else if c = '\'' then .single else .plain)
  | .escape => some .plain
  | .plain =>
    some (if Text.isBlank c ∧ c ≠ '\n' ∧ c ≠ '\r' then .blank else if c = '\\' then .escape
      else if c = '"' then .double else if c = '\'' then .single else .plain)
  | .double => some (if c = '\\' then .doubleEscape else if c = '"' then .plain else .double)
  | .doubleEscape => some .double
  | .single => some (if c = '\\' then .singleEscape else if c = '\'' then .plain else .single)
  | .singleEscape => some .single

/-- The characters of a physical line before a comment, and the region at its end; no region when
there is a comment. -/
def scanLine (region : Region) : List Char → List Char × Option Region
  | [] => ([], some region)
  | c :: rest =>
    match region.next c with
    | none => ([], none)
    | some next =>
      let (kept, last) := scanLine next rest
      (c :: kept, last)

/-- The text cut after each line feed. -/
def physicalLines (current : List Char) : List Char → List (List Char)
  | [] => if current.isEmpty then [] else [current.reverse]
  | '\n' :: rest => ('\n' :: current).reverse :: physicalLines [] rest
  | c :: rest => physicalLines (c :: current) rest

/-- The line without the line feed, and the carriage return before it, at its end. -/
def chomp (cs : List Char) : List Char :=
  match cs.reverse with
  | '\n' :: '\r' :: rest => rest.reverse
  | '\n' :: rest => rest.reverse
  | _ => cs

/-- The lines that belong together, `pending` being open at `region`; none for one that is still
open at the end of the text. -/
def logicalLines (pending : List Char) (region : Region) :
    List (List Char) → List (Option (List Char))
  | [] => if region = .plain then [] else [none]
  | line :: rest =>
    if (Text.trimStart (pending ++ line)).head? = some '#' then
      some [] :: logicalLines [] .plain rest
    else
      match scanLine region line with
      | (kept, none) => some (pending ++ kept) :: logicalLines [] .plain rest
      | (_, some .plain) => some (chomp (pending ++ line)) :: logicalLines [] .plain rest
      | (_, some region) => logicalLines (pending ++ line) region rest

/-! ## Values -/

/-- Where in a value the reading is. -/
inductive Mode where
  | bare
  | single
  | double
  /-- after a value, where only blanks or a comment may come -/
  | ending

/-- The name of a variable being read: none, without braces, between braces. -/
inductive Naming where
  | off
  | plain (name : List Char)
  | braced (name : List Char)

/-- The reading of a value: characters so far, newest first. -/
structure ValueState where
  mode : Mode := .bare
  escaped : Bool := false
  naming : Naming := .off
  output : List Char := []

/-- Puts the value of a variable at the end of the output. -/
def ValueState.substitute (s : ValueState) (lookup : String → String) (name : List Char) :
    ValueState :=
  { s with naming := .off, output := (lookup (.ofList name.reverse)).toList.reverse ++ s.output }

/-- A character that a backslash may stand before. -/
def unescape? (c : Char) : Option Char :=
  if c = '\\' ∨ c = '\'' ∨ c = '"' ∨ c = '$' ∨ c = ' ' then some c
  else if c = 'n' then some '\n' else none

/-- The reading after a character outside of names, escapes and single quotes. -/
def ValueState.plainStep (s : ValueState) (c : Char) : ValueState :=
  if c = '$' then { s with naming := .plain [] }
  else
    match s.mode with
    | .double =>
      if c = '"' then { s with mode := .bare }
      else if c = '\\' then { s with escaped := true }
      else { s with output := c :: s.output }
    | _ =>
      if c = '\'' then { s with mode := .single }
      else if c = '"' then { s with mode := .double }
      else if c = '\\' then { s with escaped := true }
      else if c = ' ' ∨ c = '\t' then { s with mode := .ending }
      else { s with output := c :: s.output }

/-- The reading after a character of a name. -/
def ValueState.nameStep (s : ValueState) (lookup : String → String) (c : Char) : ValueState :=
  match s.naming with
  | .off => s
  | .plain name =>
    if Text.isWordChar c then { s with naming := .plain (c :: name) }
    else if c = '\x7b' ∧ name.isEmpty then { s with naming := .braced [] }
    else
      let s := s.substitute lookup name
      if c = '$' then { s with naming := .plain [] } else { s with output := c :: s.output }
  | .braced name =>
    if Text.isWordChar c then { s with naming := .braced (c :: name) }
    else if c = '\x7d' then s.substitute lookup name
    else { s with naming := .braced (c :: name) }

/-- The value of the characters after the equals sign. -/
def readValue (lookup : String → String) (s : ValueState) : List Char → Option (List Char)
  | [] =>
    match s.mode, s.naming with
    | .single, _ => none
    | .double, _ => none
    | _, .braced _ => none
    | _, .plain name => some (s.substitute lookup name).output.reverse
    | _, .off => some s.output.reverse
  | c :: rest =>
    match s.mode with
    | .ending =>
      if c = ' ' ∨ c = '\t' then readValue lookup s rest
      else if c = '#' then readValue lookup s []
      else none
    | .single =>
      if s.escaped then none
      else
        readValue lookup
          (if c = '\'' then { s with mode := .bare } else { s with output := c :: s.output }) rest
    | _ =>
      if s.escaped then
        match unescape? c with
        | some d => readValue lookup { s with escaped := false, output := d :: s.output } rest
        | none => none
      else
        match s.naming with
        | .off => readValue lookup (s.plainStep c) rest
        | _ => readValue lookup (s.nameStep lookup c) rest

/-! ## Files -/

/-- True of the characters that may begin a key. -/
def startsKey (c : Char) : Bool := c.isAlpha || c = '_'

/-- True of the characters that may stand in a key. -/
def inKey (c : Char) : Bool := c.isAlphanum || c = '_' || c = '.'

/-- The key at the beginning and what follows it, blanks skipped. -/
def readKey : List Char → Option (String × List Char)
  | c :: rest =>
    if startsKey c then
      some (.ofList (c :: rest.takeWhile inKey), Text.trimStart (rest.dropWhile inKey))
    else none
  | [] => none

/-- What follows the equals sign at the beginning, blanks skipped. -/
def afterEquals : List Char → Option (List Char)
  | '=' :: rest => some (Text.trimStart rest)
  | _ => none

/-- The key of a line and the characters of its value; `export` before the key is skipped unless it
is the key. -/
def readSides (cs : List Char) : Option (String × List Char) := do
  let (key, rest) ← readKey cs
  match afterEquals rest with
  | some value => some (key, value)
  | none =>
    if key = "export" then
      let (key, rest) ← readKey rest
      let value ← afterEquals rest
      some (key, value)
    else none

/-- Variables, and the values that the file has given so far. -/
structure Loading where
  env : Named String
  given : Named String := ∅

/-- The value that stands for a name: of the environment, or given before, or empty. -/
def Loading.lookup (l : Loading) (name : String) : String :=
  ((l.env.get? name).orElse fun _ => l.given.get? name).getD ""

/-- Takes a line over; none when it cannot be read. -/
def Loading.line (l : Loading) (cs : List Char) : Option Loading :=
  let cs := Text.trimStart (Text.trimEnd cs)
  if cs.isEmpty ∨ cs.head? = some '#' then some l
  else do
    let (key, value) ← readSides cs
    let text ← if value.isEmpty ∨ value.head? = some '#' then some []
      else readValue l.lookup {} value
    let text := String.ofList text
    some {
      env := if l.env.contains key then l.env else l.env.insert key text
      given := l.given.insert key text }

/-- Takes lines over up to the first that cannot be read. -/
def Loading.lines (l : Loading) : List (Option (List Char)) → Loading
  | some cs :: rest =>
    match l.line cs with
    | some l => l.lines rest
    | none => l
  | _ => l

/-- The text without a byte order mark at its beginning. -/
def withoutMark : List Char → List Char
  | '\uFEFF' :: rest => rest
  | cs => cs

/-- The variables after an environment file was read. -/
def load (env : Named String) (text : String) : Named String :=
  (Loading.lines ⟨env, ∅⟩
    (logicalLines [] .plain (physicalLines [] (withoutMark text.toList)))).env

end Dotenv
end ApparatusGraph
