/-!
# File names

A file name is an anchor and a list of parts.  Reading a name drops empty parts and single dots and
keeps double dots; a name without parts and anchor is a dot.  The working directory has an anchor
of its own, written `<ROOT>`, so that absolute names below it do not depend on where it is.
-/

namespace Sweep

/-- Where a file name starts. -/
inductive Anchor where
  /-- In whatever directory the name is looked up. -/
  | relative
  /-- At the root of the file system. -/
  | root
  /-- At the root, written with two slashes. -/
  | doubleRoot
  /-- In the working directory. -/
  | workspace
  deriving DecidableEq, Repr, Inhabited

/-- A NUL character in a text. -/
def hasNul (s : String) : Bool := s.toList.contains '\x00'

/-- A file name. -/
structure Pathname where
  anchor : Anchor := .relative
  parts : List String := []
  deriving DecidableEq, Repr, Inhabited

/-- The home directories that are known, by the name of their owner; the empty name is whoever asks. -/
abbrev Homes := String → Option Pathname

/-- Why a home directory cannot be found. -/
inductive HomeError where
  | unknown
  /-- The owner is written with a NUL character. -/
  | nulInOwner
  deriving DecidableEq, Repr

/-- The wording of a home directory that cannot be found. -/
def HomeError.message : HomeError → String
  | unknown => "Could not determine home directory."
  | nulInOwner => "embedded null byte"

namespace Pathname

/-- Cut a text at slashes. -/
def splitSlash : List Char → List (List Char)
  | [] => [[]]
  | c :: cs =>
    match splitSlash cs with
    | [] => [[]]
    | part :: rest => if c = '/' then [] :: part :: rest else (c :: part) :: rest

/-- Read a text as a file name. -/
def ofString (s : String) : Pathname :=
  let cs := s.toList
  let anchor := match cs with
    | '/' :: '/' :: '/' :: _ => .root
    | '/' :: '/' :: _ => .doubleRoot
    | '/' :: _ => .root
    | _ => .relative
  ⟨anchor, ((splitSlash cs).filter fun p => p ≠ [] ∧ p ≠ ['.']).map String.ofList⟩

/-- The working directory. -/
def workspace : Pathname := ⟨.workspace, []⟩

def isAbsolute (p : Pathname) : Bool := p.anchor ≠ .relative

/-- The text of a file name. -/
def text (p : Pathname) : String :=
  let body := "/".intercalate p.parts
  match p.anchor with
  | .relative => if p.parts.isEmpty then "." else body
  | .root => "/" ++ body
  | .doubleRoot => "//" ++ body
  | .workspace => if p.parts.isEmpty then "<ROOT>" else "<ROOT>/" ++ body

/-- A name inside a directory; an absolute name stands for itself. -/
def join (directory p : Pathname) : Pathname :=
  if p.isAbsolute then p else ⟨directory.anchor, directory.parts ++ p.parts⟩

/-- The directory of a name; a bare anchor is its own directory. -/
def parent (p : Pathname) : Pathname := { p with parts := p.parts.dropLast }

/-- The last part of a name. -/
def name (p : Pathname) : String := p.parts.getLast?.getD ""

/-- A NUL character in a file name. -/
def hasNul (p : Pathname) : Bool := p.parts.any Sweep.hasNul

/-- The owner that is named behind a leading tilde. -/
def owner? (p : Pathname) : Option String :=
  match p.anchor, p.parts with
  | .relative, first :: _ =>
    match first.toList with
    | '~' :: owner => some (String.ofList owner)
    | _ => none
  | _, _ => none

/-- Replace a leading tilde and owner by a home directory. -/
def expandHome (home : Homes) (p : Pathname) : Except HomeError Pathname :=
  match p.owner? with
  | none => .ok p
  | some owner =>
    if Sweep.hasNul owner then .error .nulInOwner
    else
      match home owner with
      | some h => .ok ⟨h.anchor, h.parts ++ p.parts.tail⟩
      | none => .error .unknown

/-- Go up one directory: above the root is the root, and above the working directory are directories
without a name. -/
def up (p : Pathname) : Pathname :=
  if p.anchor = .root ∨ (p.parts ≠ [] ∧ p.name ≠ "..") then p.parent
  else { p with parts := p.parts ++ [".."] }

/-- Go down to a name, or up at a double dot. -/
def follow (p : Pathname) (part : String) : Pathname :=
  if part = ".." then p.up else { p with parts := p.parts ++ [part] }

/-- The absolute name; double dots are gone, except for those above the working directory. -/
def absolute (p : Pathname) : Pathname :=
  let start : Pathname := match p.anchor with
    | .root | .doubleRoot => ⟨.root, []⟩
    | .relative | .workspace => workspace
  p.parts.foldl follow start

end Pathname

end Sweep
