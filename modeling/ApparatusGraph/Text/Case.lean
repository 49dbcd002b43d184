/-
# Upper and lower case

The case mappings of whole texts.  Each character is mapped on its own by the
tables of `CaseTable`, and a character may become several.  One mapping looks at
its neighbours: a capital sigma at the end of a word becomes the final small
sigma, where the end of a word means that, past the characters that case ignores,
a cased letter stands before it and none stands after it.
-/

import ApparatusGraph.Text.CaseTable

namespace ApparatusGraph
namespace Text

/-- True when a character lies in one of the ranges. -/
def inRanges (ranges : List (Nat × Nat)) (c : Char) : Bool :=
  ranges.any fun (first, last) => first ≤ c.toNat && c.toNat ≤ last

/-- True of letters that have case. -/
def isCased (c : Char) : Bool := inRanges casedRanges c

/-- True of the characters that are passed over when the end of a word is looked for. -/
def isCaseIgnorable (c : Char) : Bool := inRanges ignorableRanges c

/-- True when a run holds the character number `n`. -/
def CaseRun.holds (run : CaseRun) (n : Nat) : Bool :=
  run.first ≤ n && n ≤ run.last && (n - run.first) % run.stride = 0

/-- The image of a character: several characters, one at a shift, or the character itself. -/
def mapCase (runs : List CaseRun) (wide : List (Nat × List Nat)) (c : Char) : List Char :=
  match wide.lookup c.toNat with
  | some image => image.map Char.ofNat
  | none =>
    match runs.find? (·.holds c.toNat) with
    | some run => [Char.ofNat (Int.toNat (c.toNat + run.shift))]
    | none => [c]

/-- The upper-case form of a character. -/
def upperChar (c : Char) : List Char := mapCase upperRuns upperWide c

/-- The lower-case form of a character on its own. -/
def lowerChar (c : Char) : List Char := mapCase lowerRuns lowerWide c

/-- The text in upper case. -/
def upper (s : String) : String := .ofList (s.toList.flatMap upperChar)

/-- True when the first character that case does not ignore is a cased letter. -/
def meetsCased (cs : List Char) : Bool :=
  match cs.dropWhile isCaseIgnorable with
  | c :: _ => isCased c
  | [] => false

/-- Lower case of the characters after `before`, which holds what precedes them, nearest first. -/
def lowerAfter (before : List Char) : List Char → List Char
  | [] => []
  | 'Σ' :: rest =>
    (if meetsCased before && !meetsCased rest then 'ς' else 'σ') :: lowerAfter ('Σ' :: before) rest
  | c :: rest => lowerChar c ++ lowerAfter (c :: before) rest

/-- The text in lower case. -/
def lower (s : String) : String := .ofList (lowerAfter [] s.toList)

end Text
end ApparatusGraph
