/-
# Blank characters and trimming

A character is blank when it has the property `White_Space`.  Trimming drops the
blank characters at both ends of a text and leaves those inside.
-/

namespace ApparatusGraph
namespace Text

/-- True of the characters with the property `White_Space`. -/
def isBlank (c : Char) : Bool :=
  let n := c.toNat
  (0x9 ≤ n && n ≤ 0xD) || n = 0x20 || n = 0x85 || n = 0xA0 || n = 0x1680 ||
    (0x2000 ≤ n && n ≤ 0x200A) || n = 0x2028 || n = 0x2029 || n = 0x202F || n = 0x205F || n = 0x3000

/-- The characters from the first that is not blank. -/
def trimStart (cs : List Char) : List Char := cs.dropWhile isBlank

/-- The characters up to the last that is not blank. -/
def trimEnd (cs : List Char) : List Char := (cs.reverse.dropWhile isBlank).reverse

/-- The text without the blank characters at its two ends. -/
def trim (s : String) : String := .ofList (trimEnd (trimStart s.toList))

/-- True of the texts with no character but blank ones, which are those of which trimming leaves
nothing (`Text.trim_eq_empty_iff`). -/
def isBlankText (s : String) : Bool := s.toList.all isBlank

end Text
end ApparatusGraph
