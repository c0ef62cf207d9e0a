import Sweep.Document.Decoder
import Sweep.Text.Integer

/-!
# Reading documents

The text form of a document is JSON.  The reader is total: it is driven by a budget that starts at
the length of the text, and every call that spends budget has consumed a character.  A number
without fraction and exponent is an integer of any size; any other number is the floating point
number nearest to it, and three words stand for numbers that are not finite.  When a key is written
twice the last value counts and keeps the first place.  A text that is not a document is refused as a
whole.

The grammar leaves room for some settings (`Grammar`).  Documents in files are stricter: tabs are no
blanks, an exponent needs a point in front and a sign, or the number is only a text, and the colon
behind a key has to follow soon and on the same line.  On the other hand, their keys may be numbers,
truth values and null, if a blank or a bracket follows the colon.
-/

namespace Sweep

namespace Document

/-- The value of a hexadecimal digit. -/
def hexValue? (c : Char) : Option Nat :=
  if '0' ≤ c ∧ c ≤ '9' then some (c.toNat - 48)
  else if 'a' ≤ c ∧ c ≤ 'f' then some (c.toNat - 87)
  else if 'A' ≤ c ∧ c ≤ 'F' then some (c.toNat - 55)
  else none

/-- Four hexadecimal digits. -/
def hexUnit? : List Char → Option (Nat × List Char)
  | a :: b :: c :: d :: rest => do
    let n := ((← hexValue? a) * 16 + (← hexValue? b)) * 16 + (← hexValue? c)
    return (n * 16 + (← hexValue? d), rest)
  | _ => none

/-- The character of an escape of one letter. -/
def escapeChar? : Char → Option Char
  | '"' => some '"'
  | '\\' => some '\\'
  | '/' => some '/'
  | 'b' => some '\x08'
  | 'f' => some '\x0c'
  | 'n' => some '\n'
  | 'r' => some '\r'
  | 't' => some '\t'
  | _ => none

/-- The rest of a quoted text: what was read so far is kept newest first.  `high` is a first half
of a surrogate pair that waits for its second half. -/
def readText (budget : Nat) (acc : List Char) (cs : List Char) : Option (List Char × List Char) :=
  match budget with
  | 0 => none
  | budget + 1 =>
    match cs with
    | [] => none
    | '"' :: rest => some (acc.reverse, rest)
    | '\\' :: 'u' :: rest => do
      let (unit, rest) ← hexUnit? rest
      if 0xD800 ≤ unit ∧ unit < 0xDC00 then
        match rest with
        | '\\' :: 'u' :: rest' =>
          let (low, rest') ← hexUnit? rest'
          if 0xDC00 ≤ low ∧ low < 0xE000 then
            readText budget
              (Char.ofNat (0x10000 + (unit - 0xD800) * 0x400 + (low - 0xDC00)) :: acc) rest'
          else readText budget ('\uFFFD' :: acc) rest
        | _ => readText budget ('\uFFFD' :: acc) rest
      else if 0xDC00 ≤ unit ∧ unit < 0xE000 then readText budget ('\uFFFD' :: acc) rest
      else readText budget (Char.ofNat unit :: acc) rest
    | '\\' :: c :: rest => do readText budget ((← escapeChar? c) :: acc) rest
    | c :: rest => if c.toNat < 32 then none else readText budget (c :: acc) rest

/-- A natural number from ASCII digits. -/
def digitsValue (ds : List Char) : Nat := ds.foldl (fun acc c => 10 * acc + (c.toNat - 48)) 0

/-- A floating point number from a whole number and a power of ten.  Powers far outside the range
are settled without computing them: a number with `k` digits, the first of them not zero, lies
between `10^(k-1)` and `10^k`. -/
def scaled (negative : Bool) (digits : List Char) (exponent : Int) : Binary64 :=
  let digits := digits.dropWhile (· = '0')
  let n := digitsValue digits
  if n = 0 then .finite negative 0 Binary64.minExponent
  else if 400 < exponent + digits.length then .infinite negative
  else if exponent + digits.length < -400 then .finite negative 0 Binary64.minExponent
  else if 0 ≤ exponent then Binary64.ofFraction negative (n * Nat.pow 10 exponent.toNat) 1
  else Binary64.ofFraction negative n (Nat.pow 10 (-exponent).toNat)

/-- The fraction of a number, if one is written. -/
def readFraction : List Char → Option (Option (List Char) × List Char)
  | '.' :: rest =>
    match rest.takeWhile Char.isDigit with
    | [] => none
    | ds => some (some ds, rest.dropWhile Char.isDigit)
  | cs => some (none, cs)

/-- The exponent of a number, if one is written. -/
def readExponent (cs : List Char) : Option (Option Int × List Char) :=
  match cs with
  | e :: rest =>
    if e = 'e' ∨ e = 'E' then
      let (negative, rest) := match rest with
        | '-' :: r => (true, r)
        | '+' :: r => (false, r)
        | r => (false, r)
      match rest.takeWhile Char.isDigit with
      | [] => none
      | ds =>
        let n := (digitsValue ds : Int)
        some (some (if negative then -n else n), rest.dropWhile Char.isDigit)
    else some (none, cs)
  | [] => some (none, [])

/-- A number that is not finite, if one is written. -/
def readWord? : List Char → Option (Document × List Char)
  | 'N' :: 'a' :: 'N' :: rest => some (.float .undefined, rest)
  | 'I' :: 'n' :: 'f' :: 'i' :: 'n' :: 'i' :: 't' :: 'y' :: rest => some (.float (.infinite false), rest)
  | '-' :: 'I' :: 'n' :: 'f' :: 'i' :: 'n' :: 'i' :: 't' :: 'y' :: rest =>
    some (.float (.infinite true), rest)
  | _ => none

/-- A finite number; a leading zero stands alone. -/
def readFinite (cs : List Char) : Option (Document × List Char) := do
  let (negative, cs) := match cs with
    | '-' :: r => (true, r)
    | r => (false, r)
  let whole := cs.takeWhile Char.isDigit
  let rest := cs.dropWhile Char.isDigit
  match whole with
  | [] => none
  | '0' :: _ :: _ => none
  | _ =>
    let (fraction, rest) ← readFraction rest
    let (exponent, rest) ← readExponent rest
    match fraction, exponent with
    | none, none =>
      let n := (digitsValue whole : Int)
      return (.int (if negative then -n else n), rest)
    | _, _ =>
      let f := fraction.getD []
      return (.float (scaled negative (whole ++ f) (exponent.getD 0 - f.length)), rest)

/-- A number, or one of the words for what is no finite number. -/
def readNumber (cs : List Char) : Option (Document × List Char) := readWord? cs <|> readFinite cs

/-- The characters between a text and what is left of it. -/
def upTo (cs rest : List Char) : List Char := cs.take (cs.length - rest.length)

/-- An exponent is written in full: behind a point and with a sign. -/
def isFullExponent (cs : List Char) : Bool :=
  match cs.dropWhile fun c => c ≠ 'e' ∧ c ≠ 'E' with
  | [] => true
  | _ :: rest => cs.contains '.' && (rest.head? = some '+' || rest.head? = some '-')

/-- A number in a file; one with a shortened exponent is a text. -/
def readPlain (cs : List Char) : Option (Document × List Char) := do
  let (d, rest) ← readFinite cs
  let written := upTo cs rest
  return (if isFullExponent written then d else .text (String.ofList written), rest)

/-- What may differ from one kind of document to another. -/
structure Grammar where
  /-- Blank characters between tokens. -/
  isSpace : Char → Bool
  number : List Char → Option (Document × List Char)
  /-- The colon follows the beginning of a key after at most so many characters of one line. -/
  keyLimit : Option Nat
  /-- Keys need not be texts. -/
  plainKeys : Bool

namespace Grammar

/-- Documents of a single line. -/
def line : Grammar where
  isSpace c := c = ' ' || c = '\t' || c = '\n' || c = '\r'
  number := readNumber
  keyLimit := none
  plainKeys := false

/-- Documents in files. -/
def file : Grammar where
  isSpace c := c = ' ' || c = '\n' || c = '\r'
  number := readPlain
  keyLimit := some 1024
  plainKeys := true

def skipSpace (g : Grammar) (cs : List Char) : List Char := cs.dropWhile g.isSpace

/-- What stands between the beginning of a key and its colon is a key. -/
def admitsKey (g : Grammar) (written : List Char) : Bool :=
  match g.keyLimit with
  | none => true
  | some n => written.length ≤ n && !written.any fun c => c = '\n' || c = '\r'

/-- A key that is not quoted. -/
def readPlainKey (g : Grammar) : List Char → Option (Key × List Char)
  | 'n' :: 'u' :: 'l' :: 'l' :: rest => some (.null, rest)
  | 't' :: 'r' :: 'u' :: 'e' :: rest => some (.bool true, rest)
  | 'f' :: 'a' :: 'l' :: 's' :: 'e' :: rest => some (.bool false, rest)
  | cs =>
    match g.number cs with
    | some (.int n, rest) => some (.int n, rest)
    | some (.float x, rest) => some (.float x, rest)
    | some (.text s, rest) => some (.text s, rest)
    | _ => none

/-- A key with what follows its colon. -/
def readKey (g : Grammar) : List Char → Option (Key × List Char)
  | '"' :: rest => do
    let (s, after) ← readText (rest.length + 1) [] rest
    match g.skipSpace after with
    | ':' :: behind =>
      if g.admitsKey ('"' :: upTo rest (':' :: behind)) then
        return (.text (String.ofList s), behind)
      else none
    | _ => none
  | cs => do
    if !g.plainKeys then none
    let (key, after) ← g.readPlainKey cs
    match g.skipSpace after with
    | ':' :: c :: behind =>
      let ends := g.isSpace c || c = '[' || c = '\x7b'
      if ends && g.admitsKey (upTo cs (':' :: c :: behind)) then return (key, c :: behind) else none
    | _ => none

end Grammar

/-- The value of a key that is a finite number; truth counts as one or zero. -/
def keyValue? : Key → Option Rat
  | .bool b => some (if b then 1 else 0)
  | .int n => some n
  | .float (.finite negative m e) => some (Binary64.finite negative m e).toRat
  | _ => none

/-- Write an entry.  A key that is equal as a number keeps its place and its form. -/
def setEntry (key : Key) (value : Document) (entries : List (Key × Document)) :
    List (Key × Document) :=
  let isEqual (k : Key) : Bool := (keyValue? k).isSome && keyValue? k == keyValue? key
  Assoc.set (((entries.map Prod.fst).find? isEqual).getD key) value entries

mutual

/-- One value. -/
def readValue (g : Grammar) : (budget : Nat) → List Char → Option (Document × List Char)
  | 0, _ => none
  | budget + 1, cs =>
    match g.skipSpace cs with
    | 'n' :: 'u' :: 'l' :: 'l' :: rest => some (.null, rest)
    | 't' :: 'r' :: 'u' :: 'e' :: rest => some (.bool true, rest)
    | 'f' :: 'a' :: 'l' :: 's' :: 'e' :: rest => some (.bool false, rest)
    | '"' :: rest => do
      let (s, rest) ← readText (rest.length + 1) [] rest
      return (.text (String.ofList s), rest)
    | '[' :: rest =>
      match g.skipSpace rest with
      | ']' :: rest => some (.list [], rest)
      | rest => do
        let (items, rest) ← readItems g budget rest
        return (.list items, rest)
    | '\x7b' :: rest =>
      match g.skipSpace rest with
      | '\x7d' :: rest => some (.mapping [], rest)
      | rest => do
        let (entries, rest) ← readEntries g budget [] rest
        return (.mapping entries, rest)
    | rest => g.number rest

/-- The items of a list, up to its end. -/
def readItems (g : Grammar) : (budget : Nat) → List Char → Option (List Document × List Char)
  | 0, _ => none
  | budget + 1, cs => do
    let (item, rest) ← readValue g budget cs
    match g.skipSpace rest with
    | ']' :: rest => return ([item], rest)
    | ',' :: rest =>
      let (items, rest) ← readItems g budget rest
      return (item :: items, rest)
    | _ => none

/-- The entries of a mapping, up to its end. -/
def readEntries (g : Grammar) : (budget : Nat) → List (Key × Document) → List Char →
    Option (List (Key × Document) × List Char)
  | 0, _, _ => none
  | budget + 1, acc, cs => do
    let (key, behind) ← g.readKey (g.skipSpace cs)
    let (value, rest) ← readValue g budget behind
    let acc := setEntry key value acc
    match g.skipSpace rest with
    | '\x7d' :: rest => return (acc, rest)
    | ',' :: rest => readEntries g budget acc rest
    | _ => none

end

/-- Read a whole text as one document. -/
def readBy? (g : Grammar) (cs : List Char) : Option Document :=
  match readValue g (cs.length + 1) cs with
  | some (d, rest) => if g.skipSpace rest = [] then some d else none
  | none => none

/-- Read a text of one line as a document. -/
def read? (cs : List Char) : Option Document := readBy? .line cs

mutual

/-- The largest number of digits of an integer in a document. -/
def integerWidth : Document → Nat
  | .int n => (toString n.natAbs).length
  | .list items => widthOfItems items
  | .mapping entries => widthOfEntries entries
  | _ => 0

def widthOfItems : List Document → Nat
  | [] => 0
  | d :: rest => max (integerWidth d) (widthOfItems rest)

def widthOfEntries : List (Key × Document) → Nat
  | [] => 0
  | (.int n, d) :: rest => max (toString n.natAbs).length (max (integerWidth d) (widthOfEntries rest))
  | (_, d) :: rest => max (integerWidth d) (widthOfEntries rest)

end

/-- The text of a file has only characters that can be shown. -/
def isShown (c : Char) : Bool :=
  let n := c.toNat
  n = 9 || n = 10 || n = 13 || (32 ≤ n && n ≤ 126) || n = 0x85 ||
    (0xA0 ≤ n && n ≠ 0xFFFE && n ≠ 0xFFFF)

/-- A text without the mark that may open a file. -/
def withoutMark : List Char → List Char
  | '\uFEFF' :: rest => rest
  | cs => cs

/-- What is said about a text that is not a document: where it comes from. -/
def malformedText : String := "<yaml>\n"

/-- The failure of reading an integer with so many digits. -/
def longInteger (digits : Nat) : Foreign := ⟨"ValueError", Text.longIntegerText digits⟩

/-- Read the text of a file as one document; an empty file is null. -/
def ofFile : Decoder := fun s =>
  let cs := withoutMark s.toList
  if !cs.all isShown then .error (.malformed malformedText)
  else if Grammar.file.skipSpace cs = [] then .ok .null
  else
    match readBy? .file cs with
    | none => .error (.malformed malformedText)
    | some d =>
      if Text.digitLimit < integerWidth d then .error (.foreign (longInteger (integerWidth d)))
      else .ok d

end Document

end Sweep
