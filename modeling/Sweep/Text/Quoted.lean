import Sweep.Text.Printable

/-!
# Quoted text

Two ways to write a text between quotes.

* `display` picks the quote that needs no escape (single, unless the text holds a single quote and
  no double one), writes printable characters as they are and the others as `\t`, `\n`, `\r`,
  `\xhh`, `\uhhhh` or `\Uhhhhhhhh`.
* `ascii` writes double quotes and ASCII only: a character beyond ASCII becomes one or two UTF-16
  units `\uhhhh`.
-/

namespace Sweep.Text

/-- A hexadecimal digit, in lower case. -/
def hexDigit (n : Nat) : Char :=
  if n < 10 then Char.ofNat (48 + n) else Char.ofNat (87 + n)

/-- The last `width` hexadecimal digits of a number. -/
def hex : (width : Nat) → Nat → List Char
  | 0, _ => []
  | w + 1, n => hex w (n / 16) ++ [hexDigit (n % 16)]

/-- One character between quotes, for reading by people. -/
def displayChar (quote c : Char) : List Char :=
  let n := c.toNat
  if c = quote ∨ c = '\\' then ['\\', c]
  else if c = '\t' then ['\\', 't']
  else if c = '\n' then ['\\', 'n']
  else if c = '\r' then ['\\', 'r']
  else if isPrintable c then [c]
  else if n < 0x100 then '\\' :: 'x' :: hex 2 n
  else if n < 0x10000 then '\\' :: 'u' :: hex 4 n
  else '\\' :: 'U' :: hex 8 n

/-- The quote that a text is shown in. -/
def quoteFor (cs : List Char) : Char :=
  if cs.contains '\'' && !cs.contains '"' then '"' else '\''

/-- A text between quotes, for reading by people. -/
def display (s : String) : String :=
  let q := quoteFor s.toList
  String.ofList (q :: s.toList.flatMap (displayChar q) ++ [q])

/-- A shown text with every character beyond ASCII escaped. -/
def inAscii (cs : List Char) : List Char :=
  cs.flatMap fun c =>
    let n := c.toNat
    if n < 0x80 then [c]
    else if n < 0x100 then '\\' :: 'x' :: hex 2 n
    else if n < 0x10000 then '\\' :: 'u' :: hex 4 n
    else '\\' :: 'U' :: hex 8 n

/-- One character between double quotes, in ASCII. -/
def asciiChar (c : Char) : List Char :=
  let n := c.toNat
  if c = '"' ∨ c = '\\' then ['\\', c]
  else if c = '\n' then ['\\', 'n']
  else if c = '\r' then ['\\', 'r']
  else if c = '\t' then ['\\', 't']
  else if n = 8 then ['\\', 'b']
  else if n = 12 then ['\\', 'f']
  else if 32 ≤ n ∧ n < 127 then [c]
  else if n < 0x10000 then '\\' :: 'u' :: hex 4 n
  else
    let m := n - 0x10000
    ('\\' :: 'u' :: hex 4 (0xD800 + m / 0x400)) ++ ('\\' :: 'u' :: hex 4 (0xDC00 + m % 0x400))

/-- A text between double quotes, in ASCII. -/
def ascii (s : String) : String :=
  String.ofList ('"' :: s.toList.flatMap asciiChar ++ ['"'])

end Sweep.Text
