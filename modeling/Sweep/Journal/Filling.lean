import Sweep.Journal
import Sweep.Number.Fixed

/-!
# Messages with places

A message may have places for arguments.  A place is a percent sign and a letter that says how its
argument is written; between them may stand, in this order, the key of an entry in parentheses,
flags, a width, a precision and a size that means nothing.  Two percent signs stand for one.

A message is cut into pieces first (`Piece.ofChars`), whatever its arguments are.  A piece keeps
what is wrong with it, so that filling the pieces from left to right meets all mistakes in order.

Arguments are a queue.  Every argument of a queue has to be used.  When the only argument is a
mapping with entries, a place may ask for an entry by its key; that entry becomes the queue, and it
has to be used by that place.
-/

namespace Sweep

/-- Why arguments cannot be put into a message. -/
inductive FillError where
  /-- Too few or too many arguments, or one of the wrong kind. -/
  | arguments
  /-- A place that is not understood. -/
  | directive
  | noEntry (key : String)
  | number (e : NumberError)
  /-- A width, a precision or the number of a character is out of range. -/
  | outOfRange
  deriving DecidableEq, Repr

namespace Filling

/-- A width or a precision. -/
inductive Measure where
  | none
  | fixed (n : Nat)
  /-- The next argument says how much. -/
  | argument
  deriving DecidableEq, Repr

/-- The key of a place. -/
inductive SlotKey where
  | none
  | named (key : String)
  | unclosed
  deriving DecidableEq, Repr

/-- What stands between a percent sign and its letter, and the letter. -/
structure Slot where
  key : SlotKey
  flags : List Char
  width : Measure
  precision : Measure
  /-- Nothing when the message ends too early. -/
  letter : Option Char
  deriving DecidableEq, Repr

/-- A piece of a message. -/
inductive Piece where
  | char (c : Char)
  | slot (p : Slot)
  deriving DecidableEq, Repr

namespace Slot

/-- The characters that are flags. -/
def isFlag (c : Char) : Bool := "-+ #0".toList.contains c

/-- The rest of a key behind its opening parenthesis, where parentheses may be nested `depth` deep:
the key, if it is closed, and what follows it. -/
def readKey (newestFirst : List Char) (depth : Nat) : List Char → Option (List Char) × List Char
  | [] => (none, [])
  | ')' :: rest =>
    match depth with
    | 0 => (some newestFirst.reverse, rest)
    | depth + 1 => readKey (')' :: newestFirst) depth rest
  | '(' :: rest => readKey ('(' :: newestFirst) (depth + 1) rest
  | c :: rest => readKey (c :: newestFirst) depth rest

/-- The number that ASCII digits show. -/
def number (ds : List Char) : Nat := ds.foldl (fun n c => 10 * n + (c.toNat - 48)) 0

/-- A width or a precision; without digits it is as given. -/
def readMeasure (empty : Measure) : List Char → Measure × List Char
  | '*' :: rest => (.argument, rest)
  | cs =>
    match cs.takeWhile Char.isDigit with
    | [] => (empty, cs)
    | ds => (.fixed (number ds), cs.dropWhile Char.isDigit)

/-- A place behind its percent sign, and what follows it. -/
def read (cs : List Char) : Slot × List Char :=
  let (key, cs) := match cs with
    | '(' :: rest =>
      match readKey [] 0 rest with
      | (some key, rest) => (SlotKey.named (String.ofList key), rest)
      | (none, rest) => (.unclosed, rest)
    | cs => (.none, cs)
  let flags := cs.takeWhile isFlag
  let (width, cs) := readMeasure .none (cs.dropWhile isFlag)
  let (precision, cs) := match cs with
    | '.' :: rest => readMeasure (.fixed 0) rest
    | cs => (.none, cs)
  let cs := match cs with
    | 'h' :: rest | 'l' :: rest | 'L' :: rest => rest
    | cs => cs
  (⟨key, flags, width, precision, cs.head?⟩, cs.tail)

end Slot

/-- The pieces of a message; the budget is the number of its characters. -/
def Piece.within : (budget : Nat) → List Char → List Piece
  | 0, _ => []
  | _, [] => []
  | budget + 1, '%' :: '%' :: rest => .char '%' :: within budget rest
  | budget + 1, '%' :: rest =>
    let (p, rest) := Slot.read rest
    .slot p :: within budget rest
  | budget + 1, c :: rest => .char c :: within budget rest

/-- The pieces of a message. -/
def Piece.ofChars (cs : List Char) : List Piece := within cs.length cs

/-- The arguments that are left. -/
structure Arguments where
  queue : List Document
  /-- The entries that places may ask for. -/
  entries : Option (List (Key × Document)) := none

namespace Arguments

/-- Arguments as they are given. -/
def ofList : List Document → Arguments
  | [.mapping (e :: es)] => ⟨[.mapping (e :: es)], some (e :: es)⟩
  | args => ⟨args, none⟩

/-- The next argument. -/
def next (a : Arguments) : Except FillError (Document × Arguments) :=
  match a.queue with
  | [] => .error .arguments
  | d :: rest => .ok (d, { a with queue := rest })

/-- Turn to the entry that a key asks for. -/
def select (a : Arguments) : SlotKey → Except FillError Arguments
  | .none => .ok a
  | key =>
    match a.entries, key with
    | some entries, .named k =>
      match Document.entryAt? entries k with
      | some d => .ok { a with queue := [d] }
      | none => .error (.noEntry k)
    | some _, _ => .error .directive
    | none, _ => .error .arguments

/-- A number for a measure below a limit; only integers will do. -/
def measure (limit : Nat) (a : Arguments) : Measure → Except FillError (Option Int × Arguments)
  | .none => .ok (none, a)
  | .fixed n => if n < limit then .ok (some n, a) else .error .directive
  | .argument => do
    let (d, a) ← a.next
    let n ← match d with
      | .int n => pure n
      | .bool b => pure (if b then 1 else 0)
      | _ => throw .arguments
    if n < limit ∧ -limit ≤ n then return (some n, a) else throw .outOfRange

end Arguments

/-- How a place lays out what is written there. -/
structure SlotStyle where
  left : Bool
  plus : Bool
  blank : Bool
  alternate : Bool
  zeros : Bool
  width : Nat
  precision : Option Nat

namespace SlotStyle

/-- The flags, width and precision of a place; a negative width asks for the left side, and a
negative precision counts as zero. -/
def ofSlot (p : Slot) (width precision : Option Int) : SlotStyle where
  left := p.flags.contains '-' || width.any (· < 0)
  plus := p.flags.contains '+'
  blank := p.flags.contains ' '
  alternate := p.flags.contains '#'
  zeros := p.flags.contains '0'
  width := (width.map Int.natAbs).getD 0
  precision := precision.map Int.toNat

/-- A text in its width. -/
def text (l : SlotStyle) (cs : List Char) : List Char :=
  let room := List.replicate (l.width - cs.length) ' '
  if l.left then cs ++ room else room ++ cs

/-- The sign of a number. -/
def sign (l : SlotStyle) (negative : Bool) : List Char :=
  if negative then ['-'] else if l.plus then ['+'] else if l.blank then [' '] else []

/-- A number in its width: sign, the mark of its base, digits.  Zeros fill the width between the
mark and the digits. -/
def number (l : SlotStyle) (negative : Bool) (mark : String) (digits : List Char) : List Char :=
  let front := l.sign negative ++ mark.toList
  if l.zeros && !l.left then
    front ++ List.replicate (l.width - (front.length + digits.length)) '0' ++ digits
  else l.text (front ++ digits)

/-- Digits with zeros in front up to the precision. -/
def extended (l : SlotStyle) (digits : List Char) : List Char :=
  List.replicate (l.precision.getD 0 - digits.length) '0' ++ digits

/-- The part of a text that the precision shows. -/
def shown (l : SlotStyle) (cs : List Char) : List Char :=
  match l.precision with
  | some n => cs.take n
  | none => cs

end SlotStyle

namespace Piece

/-- The integer that an argument stands for; fractions are cut off. -/
def wholeOf (d : Document) : Except FillError Int :=
  match d.quantity? with
  | some (.whole n) => .ok n
  | some (.real x) => x.integerPart.mapError .number
  | none => .error .arguments

/-- The integer that an argument is. -/
def integerOf (d : Document) : Except FillError Int :=
  match d.quantity? with
  | some (.whole n) => .ok n
  | _ => .error .arguments

/-- The floating point number that an argument stands for. -/
def realOf (d : Document) : Except FillError Binary64 :=
  match d.quantity? with
  | some q => q.rounded.mapError .number
  | none => .error .arguments

/-- The number of characters there could be. -/
def characterLimit : Int := 0x110000

/-- The character that an argument stands for: a text of one character, or the number of one. -/
def characterOf (d : Document) : Except FillError Char :=
  match d with
  | .text s =>
    match s.toList with
    | [c] => .ok c
    | _ => .error .arguments
  | d => do
    let n ← integerOf d
    if 0 ≤ n ∧ n < characterLimit then return Char.ofNat n.toNat else throw .outOfRange

/-- The letters of the forms of a floating point number. -/
def digitForm? (letter : Char) : Option DigitForm :=
  if letter = 'f' ∨ letter = 'F' then some .places
  else if letter = 'e' ∨ letter = 'E' then some .exponent
  else if letter = 'g' ∨ letter = 'G' then some .general
  else none

/-- In capitals if the letter of the place is one. -/
def capitalized (letter : Char) (cs : List Char) : List Char :=
  if letter.isUpper then cs.map Char.toUpper else cs

/-- Digits behind the point when no precision is given. -/
def usualPrecision : Nat := 6

/-- The base of an integer and its mark. -/
def base? (letter : Char) : Option (Nat × String) :=
  if letter = 'x' ∨ letter = 'X' then some (16, "0x")
  else if letter = 'o' then some (8, "0o")
  else none

/-- Write an argument by the letter of its place. -/
def write (l : SlotStyle) (letter : Char) (d : Document) : Except FillError (List Char) :=
  if letter = 's' then .ok (l.text (l.shown d.display.toList))
  else if letter = 'r' then .ok (l.text (l.shown d.quoted.toList))
  else if letter = 'a' then .ok (l.text (l.shown (Text.inAscii d.quoted.toList)))
  else if letter = 'c' then do return l.text [← characterOf d]
  else if letter = 'd' ∨ letter = 'i' ∨ letter = 'u' then do
    let n ← wholeOf d
    return l.number (n < 0) "" (l.extended (toString n.natAbs).toList)
  else
    match base? letter, digitForm? letter with
    | some (base, mark), _ => do
      let n ← integerOf d
      let digits := capitalized letter (l.extended (Nat.toDigits base n.natAbs))
      let mark := String.ofList (capitalized letter mark.toList)
      return l.number (n < 0) (if l.alternate then mark else "") digits
    | none, some form => do
      let x ← realOf d
      let count := l.precision.getD usualPrecision
      return l.number x.isNegative "" (capitalized letter (form.write count l.alternate x).toList)
    | none, none => .error .directive

/-- Widths have to be below this. -/
def widthLimit : Nat := Nat.pow 2 63

/-- Precisions have to be below this. -/
def precisionLimit : Nat := Nat.pow 2 31

/-- Fill a place: what it asks for, in the order in which it is written. -/
def fillSlot (p : Slot) (a : Arguments) : Except FillError (List Char × Arguments) := do
  let a ← a.select p.key
  let (width, a) ← a.measure widthLimit p.width
  let (precision, a) ← a.measure precisionLimit p.precision
  match p.letter with
  | none => throw .directive
  | some letter =>
    let (d, a) ← a.next
    let cs ← write (.ofSlot p width precision) letter d
    if a.entries.isSome && !a.queue.isEmpty then throw .arguments
    return (cs, a)

/-- Fill the places of a message; all arguments have to be used. -/
def fill : List Piece → Arguments → Except FillError (List Char)
  | [], a => if a.entries.isNone && !a.queue.isEmpty then .error .arguments else .ok []
  | char c :: rest, a => do return c :: (← fill rest a)
  | slot p :: rest, a => do
    let (cs, a) ← fillSlot p a
    return cs ++ (← fill rest a)

end Piece

end Filling

/-- A message with its arguments; without arguments the message stands as it is. -/
def Record.messageOf (template : String) (args : List Document) : Except FillError String :=
  if args.isEmpty then .ok template
  else String.ofList <$> Filling.Piece.fill (Filling.Piece.ofChars template.toList) (.ofList args)

end Sweep
