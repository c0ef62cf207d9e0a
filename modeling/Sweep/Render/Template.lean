import Sweep.Text.Blank
import Sweep.Text.Digit
import Sweep.Text.Identifier
import Sweep.Text.Quoted

/-!
# Templates

A template is text with values in double braces.  A value is a name, or a name with attributes
after dots.  An unknown name stands for nothing, but nothing has no attributes; what has a value has
attributes, and none of them has a value.  A brace with a percent sign opens a directive, and
directives are not understood; between a brace and a number sign stand comments.

Some names mean the same in every template: the constants, and the name for the template itself.
Others do so as long as nothing else has their name.

Every line end of a template becomes a line feed.  Values are put in as they are, and with the
characters that mean something in HTML escaped when the file to be rendered is HTML.
-/

namespace Sweep

/-- A piece of a template. -/
inductive TemplatePiece where
  | text (chars : List Char)
  | value (name : String) (attributes : List String)
  deriving Repr, DecidableEq

/-- A template that was understood. -/
abbrev Template := List TemplatePiece

/-- What is wrong with a template, or with the values that it asks for. -/
inductive TemplateError where
  /-- Nothing stands where a value is due. -/
  | noValue (end_ : String)
  /-- Something else stands where a value is due. -/
  | unexpected (token : String)
  /-- Something stands behind a value. -/
  | extra (token : String)
  /-- Something else stands where an attribute is due. -/
  | attributeForm
  | badWord
  | badChar (c : Char) (position : Nat)
  | unclosedValue
  | unclosedComment
  | noTag
  | unknownTag (name : String)
  /-- An attribute of an unknown name. -/
  | undefinedName (name : String)
  /-- An attribute of an attribute without a value. -/
  | undefinedAttribute (kind name : String)
  deriving Repr, DecidableEq

namespace TemplateError

/-- The end of a value, as messages call it. -/
def valueEnd : String := "end of print statement"

/-- The end of a directive, as messages call it. -/
def directiveEnd : String := "end of statement block"

/-- The wording of an error. -/
def message : TemplateError → String
  | noValue end_ => "Expected an expression, got " ++ Text.display end_
  | unexpected token => "unexpected " ++ Text.display token
  | extra token => "expected token " ++ Text.display valueEnd ++ ", got " ++ Text.display token
  | attributeForm => "expected name or number"
  | badWord => "Invalid character in identifier"
  | badChar c position =>
    "unexpected char " ++ Text.display c.toString ++ " at " ++ toString position
  | unclosedValue => "unexpected end of template, expected " ++ Text.display valueEnd ++ "."
  | unclosedComment => "Missing end of comment tag"
  | noTag => "tag name expected"
  | unknownTag name => "Encountered unknown tag " ++ Text.display name ++ "."
  | undefinedName name => Text.display name ++ " is undefined"
  | undefinedAttribute kind name => Text.display kind ++ " has no attribute " ++ Text.display name

end TemplateError

namespace Template

/-- Every line end becomes a line feed. -/
def lineFeeds : List Char → List Char
  | [] => []
  | '\r' :: '\n' :: rest => '\n' :: lineFeeds rest
  | '\r' :: rest => '\n' :: lineFeeds rest
  | c :: rest => c :: lineFeeds rest

/-! ### Values -/

/-- What stands between double braces. -/
inductive Token where
  | word (name : String)
  | sign (c : Char)
  deriving Repr, DecidableEq

/-- A token as messages show it. -/
def Token.text : Token → String
  | word name => name
  | sign c => c.toString

/-- The characters that words are made of, whether or not they are identifiers. -/
def isWordChar (c : Char) : Bool :=
  Text.continuesIdentifier c || Text.isLetter c || Text.isDigit c

/-- Characters that mean something besides words and blanks. -/
def signs : List Char := "+-/*%~[]()\x7b\x7d=!<>.:|,;".toList

/-- The first token and the characters behind it; nothing if only blanks are left.  `position` is
that of the first character. -/
def nextToken (position : Nat) (cs : List Char) : Except TemplateError (Option (Token × List Char)) :=
  let blanks := cs.takeWhile Text.isBlank
  match cs.dropWhile Text.isBlank with
  | [] => .ok none
  | c :: rest =>
    if isWordChar c then
      let word := c :: rest.takeWhile isWordChar
      if Text.isIdentifier word then
        .ok (some (.word (String.ofList word), rest.dropWhile isWordChar))
      else .error .badWord
    else if signs.contains c then .ok (some (.sign c, rest))
    else .error (.badChar c (position + blanks.length))

/-- The attributes behind a name, up to the end of a value; the budget is the number of
characters. -/
def attributes (stop position : Nat) : (budget : Nat) → List Char → Except TemplateError (List String)
  | 0, _ => .ok []
  | budget + 1, cs => do
    match ← nextToken (position + (stop - cs.length)) cs with
    | none => return []
    | some (.sign '.', rest) =>
      match ← nextToken (position + (stop - rest.length)) rest with
      | some (.word name, rest) => return name :: (← attributes stop position budget rest)
      | _ => throw .attributeForm
    | some (token, _) => throw (.extra token.text)

/-- What stands between double braces: a name and its attributes.  The word that turns a value into
its opposite is no name. -/
def value? (position : Nat) (cs : List Char) : Except TemplateError TemplatePiece := do
  match ← nextToken position cs with
  | none => throw (.noValue TemplateError.valueEnd)
  | some (.sign c, _) => throw (.unexpected c.toString)
  | some (.word name, rest) =>
    if name = "not" then
      match ← nextToken (position + (cs.length - rest.length)) rest with
      | none => throw (.unexpected TemplateError.valueEnd)
      | some (token, _) => throw (.unexpected token.text)
    else return .value name (← attributes cs.length position cs.length rest)

/-! ### Directives -/

/-- Directives that go on with a value. -/
def valueTags : List String := ["if", "for", "set"]

/-- Why a directive is not understood. -/
def directiveError (cs : List Char) : TemplateError :=
  match nextToken 0 cs with
  | .error e => e
  | .ok (some (.word name, _)) =>
    if valueTags.contains name then .noValue TemplateError.directiveEnd else .unknownTag name
  | .ok _ => .noTag

/-! ### Pieces -/

/-- Text in front of other pieces, unless it is empty.  The characters come newest first. -/
def textThen (newestFirst : List Char) (rest : Template) : Template :=
  if newestFirst = [] then rest else .text newestFirst.reverse :: rest

mutual

/-- Cut a template into pieces; `at_` is the position of the next character, and `lit` is the text so
far, newest first. -/
def outside (at_ : Nat) (lit : List Char) : List Char → Except TemplateError Template
  | [] => .ok (textThen lit [])
  | '\x7b' :: '\x7b' :: rest => inside (at_ + 2) lit [] rest
  | '\x7b' :: '%' :: rest => .error (directiveError rest)
  | '\x7b' :: '#' :: rest => comment (at_ + 2) lit rest
  | c :: rest => outside (at_ + 1) (c :: lit) rest
termination_by structural cs => cs

/-- Between double braces; `inner` is what stands there so far, newest first. -/
def inside (at_ : Nat) (lit inner : List Char) : List Char → Except TemplateError Template
  | [] => do
    let _ ← value? (at_ - inner.length) inner.reverse
    throw .unclosedValue
  | '\x7d' :: '\x7d' :: rest => do
    let v ← value? (at_ - inner.length) inner.reverse
    return textThen lit (v :: (← outside (at_ + 2) [] rest))
  | c :: rest => inside (at_ + 1) lit (c :: inner) rest
termination_by structural cs => cs

/-- In a comment. -/
def comment (at_ : Nat) (lit : List Char) : List Char → Except TemplateError Template
  | [] => .error .unclosedComment
  | '#' :: '\x7d' :: rest => outside (at_ + 2) lit rest
  | _ :: rest => comment (at_ + 1) lit rest
termination_by structural cs => cs

end

/-- Understand the text of a template. -/
def ofString (text : String) : Except TemplateError Template := outside 0 [] (lineFeeds text.toList)

/-! ### Meaning -/

/-- What a name stands for: a text, and what kind of thing it is the text of. -/
structure Meaning where
  text : String
  kind : String
  deriving Repr, DecidableEq

namespace Meaning

def ofText (s : String) : Meaning := ⟨s, "str object"⟩

/-- Truth and nothing have names of their own, in two spellings. -/
def constant? (name : String) : Option Meaning :=
  if name = "true" ∨ name = "True" then some ⟨"True", "bool object"⟩
  else if name = "false" ∨ name = "False" then some ⟨"False", "bool object"⟩
  else if name = "none" ∨ name = "None" then some ⟨"None", "None"⟩
  else none

/-- The template itself, under its name. -/
def ofTemplate (name : String) : Meaning :=
  ⟨"<TemplateReference " ++ Text.display name ++ ">", "jinja2.runtime.TemplateReference object"⟩

/-- The kinds of things that every template can make. -/
def classes : List (String × String) :=
  [("range", "range"), ("dict", "dict"), ("cycler", "jinja2.utils.Cycler"),
    ("joiner", "jinja2.utils.Joiner"), ("namespace", "jinja2.utils.Namespace")]

/-- A kind of things that every template can make. -/
def class? (name : String) : Option Meaning :=
  (classes.find? (·.1 == name)).map fun c => ⟨"<class " ++ Text.display c.2 ++ ">", "type object"⟩

/-- What a name stands for in a template, with the values of the names that are known there. -/
def find? (template : String) (values : String → Option String) (name : String) : Option Meaning :=
  match constant? name with
  | some m => some m
  | none =>
    if name = "self" then some (ofTemplate template)
    else
      match values name with
      | some s => some (ofText s)
      | none => class? name

end Meaning

/-- Escape a character that means something in HTML. -/
def escapeChar : Char → List Char
  | '&' => "&amp;".toList
  | '<' => "&lt;".toList
  | '>' => "&gt;".toList
  | '\'' => "&#39;".toList
  | '"' => "&#34;".toList
  | c => [c]

/-- A value as it is written, with or without escapes. -/
def written (escaped : Bool) (value : String) : List Char :=
  if escaped then value.toList.flatMap escapeChar else value.toList

/-- The text of a piece. -/
def renderPiece (escaped : Bool) (meaning : String → Option Meaning) :
    TemplatePiece → Except TemplateError (List Char)
  | .text chars => .ok chars
  | .value name attributes =>
    match meaning name, attributes with
    | some m, [] => .ok (written escaped m.text)
    | none, [] | some _, [_] => .ok []
    | none, _ :: _ => .error (.undefinedName name)
    | some m, first :: _ => .error (.undefinedAttribute m.kind first)

/-- The endings of names of HTML files. -/
def htmlEndings : List (List Char) := [".html".toList, ".htm".toList]

/-- Whether a name ends like that of an HTML file, in letters of either case. -/
def isHtml (name : String) : Bool :=
  htmlEndings.any fun e => e.isSuffixOf (name.toList.map Char.toLower)

/-- The text of a template with a name, for the values of the names that it uses. -/
def render (name : String) (values : String → Option String) (t : Template) :
    Except TemplateError String := do
  let pieces ← t.mapM (renderPiece (isHtml name) (Meaning.find? name values))
  return String.ofList pieces.flatten

end Template

end Sweep
