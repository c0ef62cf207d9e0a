/-!
# Blank characters

The white space that is cut from both ends of a text, and the slightly smaller set that may
surround a written integer: the four ASCII separators `FS`, `GS`, `RS` and `US` count as blank
around a text but not around an integer.
-/

namespace Sweep.Text

/-- White space: the ASCII controls and separators, the space, and the Unicode spaces. -/
def isBlank (c : Char) : Bool :=
  let n := c.toNat
  (9 ≤ n && n ≤ 13) || (28 ≤ n && n ≤ 32) || n == 0x85 || n == 0xA0 || n == 0x1680 ||
    (0x2000 ≤ n && n ≤ 0x200A) || n == 0x2028 || n == 0x2029 || n == 0x202F || n == 0x205F ||
    n == 0x3000

/-- White space that may surround a written integer. -/
def isIntegerBlank (c : Char) : Bool :=
  isBlank c && !(28 ≤ c.toNat && c.toNat ≤ 31)

/-- Cut the characters of a class from both ends. -/
def trim (p : Char → Bool) (cs : List Char) : List Char :=
  ((cs.dropWhile p).reverse.dropWhile p).reverse

/-- Cut white space from both ends. -/
def strip (cs : List Char) : List Char := trim isBlank cs

/-- Cut white space from both ends of a string. -/
def stripString (s : String) : String := String.ofList (strip s.toList)

end Sweep.Text
