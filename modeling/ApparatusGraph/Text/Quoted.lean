/-
# Quoted text

How a text is shown inside a message: between double quotes, with `\0 \t \r \n \\ \"`
for those characters and `\u{…}` with the number in hexadecimal for characters
that would not be seen.  Everything else stands as it is.
-/

import ApparatusGraph.Text.HiddenTable

namespace ApparatusGraph
namespace Text

/-- The hexadecimal digits of a number, small letters, no leading zeros. -/
def hexDigits (n : Nat) : String := .ofList (Nat.toDigits 16 n)

/-- True of the characters that would not be seen on their own. -/
def isHidden (c : Char) : Bool :=
  hiddenRanges.any fun (first, last) => first ≤ c.toNat && c.toNat ≤ last

/-- A character as it stands between quotes. -/
def quotedChar (c : Char) : String :=
  match c with
  | '\x00' => "\\0"
  | '\t' => "\\t"
  | '\r' => "\\r"
  | '\n' => "\\n"
  | '\\' => "\\\\"
  | '"' => "\\\""
  | c => if isHidden c then "\\u\x7b" ++ hexDigits c.toNat ++ "\x7d" else c.toString

/-- The text between double quotes. -/
def quoted (s : String) : String := "\"" ++ String.join (s.toList.map quotedChar) ++ "\""

end Text
end ApparatusGraph
