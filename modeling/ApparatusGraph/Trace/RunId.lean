/-
# Run identifiers

A run identifier is a number of 128 bits, written as 32 hexadecimal digits in groups
of 8, 4, 4, 4 and 12.  The reader also takes the digits without hyphens, and the
grouped form between braces or after `urn:uuid:` in any case.
-/

import ApparatusGraph.Json.Token

namespace ApparatusGraph

/-- What all steps of one run have in common. -/
structure RunId where
  number : Nat
  number_lt : number < 0x100000000000000000000000000000000
  deriving DecidableEq

namespace RunId

/-- The identifier of a number, its low 128 bits. -/
def ofNat (n : Nat) : RunId := ⟨n % 0x100000000000000000000000000000000, Nat.mod_lt _ (by decide)⟩

/-- The last `count` hexadecimal digits of a number. -/
def hexDigits : Nat → Nat → List Char
  | 0, _ => []
  | count + 1, n => hexDigits count (n / 16) ++ [Nat.digitChar (n % 16)]

/-- The grouped form of an identifier. -/
def write (id : RunId) : String :=
  let ds := hexDigits 32 id.number
  .ofList (ds.take 8 ++ '-' :: (ds.drop 8).take 4 ++ '-' :: (ds.drop 12).take 4 ++
    '-' :: (ds.drop 16).take 4 ++ '-' :: ds.drop 20)

/-- Why a text is no identifier. -/
inductive Flaw where
  | badChar (c : Char) (position : Nat)
  | badLength (length : Nat)
  | groupCount (count : Nat)
  | groupLength (group expected length : Nat)
  deriving DecidableEq

/-- The wording of a flaw. -/
def Flaw.message : Flaw → String
  | badChar c position => s!"invalid character: found `{c}` at {position}"
  | badLength length => s!"invalid length: found {length}"
  | groupCount count => s!"invalid group count: expected 5, found {count}"
  | groupLength group expected length =>
    s!"invalid group length in group {group}: expected {expected}, found {length}"

/-- The number of a row of hexadecimal digits. -/
def hexNumber? (cs : List Char) : Option Nat :=
  cs.foldlM (fun n c => (16 * n + ·) <$> Json.hexValue? c) 0

/-- The identifier of 32 hexadecimal digits. -/
def ofDigits? (cs : List Char) : Option RunId :=
  if cs.length = 32 then ofNat <$> hexNumber? cs else none

/-- The identifier of the grouped form. -/
def ofGroups? (cs : List Char) : Option RunId :=
  if cs[8]? = some '-' ∧ cs[13]? = some '-' ∧ cs[18]? = some '-' ∧ cs[23]? = some '-' ∧
      cs.length = 36 then
    ofDigits? (cs.take 8 ++ (cs.drop 9).take 4 ++ (cs.drop 14).take 4 ++ (cs.drop 19).take 4 ++
      cs.drop 24)
  else none

/-- The sign that a grouped form follows; capitals are as good. -/
def sign : List Char := ['u', 'r', 'n', ':', 'u', 'u', 'i', 'd', ':']

/-- The text inside braces or after the sign, if it is wrapped in either. -/
def unwrap? (cs : List Char) : Option (List Char) :=
  match cs with
  | '\x7b' :: rest => if rest.getLast? = some '\x7d' then some rest.dropLast else none
  | cs => if (cs.take 9).map Char.toLower = sign then some (cs.drop 9) else none

/-- The first character that may not stand in an identifier, with its byte position. -/
def badChar? (position : Nat) : List Char → Option (Char × Nat)
  | [] => none
  | c :: rest =>
    if c = '-' ∨ (Json.hexValue? c).isSome then badChar? (position + c.utf8Size) rest
    else some (c, position)

/-- The positions of the hyphens. -/
def hyphens (position : Nat) : List Char → List Nat
  | [] => []
  | c :: rest =>
    if c = '-' then position :: hyphens (position + 1) rest else hyphens (position + 1) rest

/-- The first of the four group bounds that is not where it belongs. -/
def badGroup? : Nat → List (Nat × Nat × Nat) → Option Flaw
  | _, [] => none
  | group, (bound, start, expected) :: rest =>
    if bound = start + expected then badGroup? (group + 1) rest
    else some (.groupLength group expected (bound - start))

/-- Why a text that is no identifier is none.  No form has more than 45 bytes.  Within that, the
first character at fault is named; then hyphens are expected of what is wrapped or as long as the
grouped form, and of what has any. -/
def flawOf (s : String) : Flaw :=
  let wrapped := unwrap? s.toList
  let inner := wrapped.getD s.toList
  if 45 < s.utf8ByteSize then .badLength s.utf8ByteSize
  else
    match badChar? 0 inner with
    | some (c, position) => .badChar c position
    | none =>
      let bounds := hyphens 0 inner
      if bounds.isEmpty ∧ wrapped.isNone ∧ s.utf8ByteSize ≠ 36 then .badLength s.utf8ByteSize
      else if bounds.length ≠ 4 then .groupCount (bounds.length + 1)
      else
        (badGroup? 0 (bounds.zip [(0, 8), (9, 4), (14, 4), (19, 4)])).getD
          (.groupLength 4 12 (s.utf8ByteSize - 24))

/-- Reads an identifier. -/
def read (s : String) : Except Flaw RunId :=
  let cs := s.toList
  let found := if cs.length = 32 then ofDigits? cs else ofGroups? ((unwrap? cs).getD cs)
  match found with
  | some id => .ok id
  | none => .error (flawOf s)

end RunId
end ApparatusGraph
