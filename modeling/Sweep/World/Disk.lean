import Sweep.Assoc
import Sweep.Pathname
import Sweep.Text.Quoted
import Sweep.Text.Utf8

/-!
# Files

The disk is a list of files and directories under their absolute names.  The root, the working
directory and the devices exist without being listed.  A name is followed part by part: every part
but the last has to be a directory, and a double dot goes up from a directory.  Neither a part nor a
whole name may be too long.

Two devices behave in their own way: one takes every byte and keeps none, and one refuses every
byte.
-/

namespace Sweep

open Text (Bytes)

/-- A refusal of the system: a number and a text. -/
structure SystemError where
  code : Int
  text : String
  deriving DecidableEq, Repr, Inhabited

namespace SystemError

/-- The text of a refusal. -/
def message (e : SystemError) : String := "[Errno " ++ toString e.code ++ "] " ++ e.text

/-- A refusal that names a file. -/
def about (code : Int) (text : String) (p : Pathname) : SystemError :=
  ⟨code, text ++ ": " ++ Text.display p.text⟩

def notFound (p : Pathname) : SystemError := about 2 "No such file or directory" p
def exists_ (p : Pathname) : SystemError := about 17 "File exists" p
def notDirectory (p : Pathname) : SystemError := about 20 "Not a directory" p
def isDirectory (p : Pathname) : SystemError := about 21 "Is a directory" p
def nameTooLong (p : Pathname) : SystemError := about 36 "File name too long" p
def full : SystemError := ⟨28, "No space left on device"⟩

end SystemError

/-- What a name stands for. -/
inductive Entry where
  | file (bytes : Bytes)
  | directory
  /-- Takes every byte and keeps none. -/
  | sink
  /-- Refuses every byte. -/
  | fullDevice
  deriving DecidableEq, Repr

/-- Files and directories under their absolute names. -/
abbrev Disk := List (Pathname × Entry)

namespace Disk

/-- What exists without being listed. -/
def given? (p : Pathname) : Option Entry :=
  match p.anchor, p.parts with
  | _, [] => some .directory
  | .root, ["dev"] => some .directory
  | .root, ["dev", "null"] => some .sink
  | .root, ["dev", "full"] => some .fullDevice
  | .workspace, parts => if parts.all (· = "..") then some .directory else none
  | _, _ => none

/-- What is under an absolute name without double dots. -/
def entryAt? (d : Disk) (p : Pathname) : Option Entry :=
  match given? p with
  | some e => some e
  | none => Assoc.get? p d

/-- Why a name cannot be followed. -/
inductive Blocked where
  | missing
  | notADirectory
  | tooLong
  deriving DecidableEq, Repr

/-- The largest number of bytes of a part of a name. -/
def partLimit : Nat := 255

/-- A whole name has fewer bytes than this. -/
def nameLimit : Nat := 4096

/-- Follow the parts of a name from a directory, up to the last part. -/
def follow (d : Disk) (at_ : Pathname) : List String → Except Blocked Pathname
  | [] => .ok at_
  | part :: rest =>
    match d.entryAt? at_ with
    | some .directory =>
      if part.utf8ByteSize ≤ partLimit then d.follow (at_.follow part) rest else .error .tooLong
    | none => .error .missing
    | some _ => .error .notADirectory

/-- The absolute name that a name stands for, whether or not something is there. -/
def locate (d : Disk) (p : Pathname) : Except Blocked Pathname :=
  if nameLimit ≤ p.text.utf8ByteSize then .error .tooLong
  else
    let start : Pathname := match p.anchor with
      | .root | .doubleRoot => ⟨.root, []⟩
      | _ => .workspace
    d.follow start p.parts

/-- What a name stands for, if anything. -/
def find? (d : Disk) (p : Pathname) : Option Entry :=
  match d.locate p with
  | .ok q => d.entryAt? q
  | .error _ => none

/-- The refusal of an operation on a name that cannot be followed. -/
def blocked (p : Pathname) : Blocked → SystemError
  | .missing => .notFound p
  | .notADirectory => .notDirectory p
  | .tooLong => .nameTooLong p

/-- Whether a name stands for anything; whether a name that is too long does cannot be told. -/
def has (d : Disk) (p : Pathname) : Except SystemError Bool :=
  match d.locate p with
  | .error .tooLong => .error (.nameTooLong p)
  | _ => .ok (d.find? p).isSome

/-- Make one directory. -/
def makeDirectory (d : Disk) (p : Pathname) : Except SystemError Disk :=
  match d.locate p with
  | .error b => .error (blocked p b)
  | .ok q =>
    match d.entryAt? q with
    | some _ => .error (.exists_ p)
    | none => .ok (Assoc.set q .directory d)

/-- Whether a refusal says that something is missing. -/
def isMissing (e : SystemError) : Bool := e.code = 2

/-- Make a directory and the directories above it; an existing directory will do.  Directories
that were made before a refusal stay.  `depth` bounds the number of directories above. -/
def makeDirectoriesWithin (d : Disk) (p : Pathname) : (depth : Nat) → Except SystemError Unit × Disk
  | 0 => (.error (.notFound p), d)
  | depth + 1 =>
    match d.makeDirectory p with
    | .ok d => (.ok (), d)
    | .error e =>
      if isMissing e then
        if p.parent = p then (.error e, d)
        else
          match makeDirectoriesWithin d p.parent depth with
          | (.error e, d) => (.error e, d)
          | (.ok (), d) =>
            match d.makeDirectory p with
            | .ok d => (.ok (), d)
            | .error e => if d.find? p = some .directory then (.ok (), d) else (.error e, d)
      else if d.find? p = some .directory then (.ok (), d)
      else (.error e, d)

/-- Make a directory and the directories above it. -/
def makeDirectories (d : Disk) (p : Pathname) : Except SystemError Unit × Disk :=
  d.makeDirectoriesWithin p (p.parts.length + 1)

/-- A file that is open for writing. -/
structure Handle where
  name : Pathname
  device : Entry
  deriving DecidableEq, Repr

/-- Open a file for writing at its end; a new file is empty, and an old one is emptied on demand. -/
def openFile (d : Disk) (p : Pathname) (emptied : Bool) : Except SystemError (Handle × Disk) :=
  match d.locate p with
  | .error b => .error (blocked p b)
  | .ok q =>
    match d.entryAt? q with
    | some .directory => .error (.isDirectory p)
    | some (.file bytes) =>
      .ok (⟨q, .file []⟩, if emptied then Assoc.set q (.file []) d else Assoc.set q (.file bytes) d)
    | some device => .ok (⟨q, device⟩, d)
    | none => .ok (⟨q, .file []⟩, Assoc.set q (.file []) d)

/-- The bytes of a file by its absolute name; nothing for what is no file. -/
def bytesAt (d : Disk) (q : Pathname) : Bytes :=
  match Assoc.get? q d with
  | some (.file bytes) => bytes
  | _ => []

/-- Write at the end of an open file. -/
def appendTo (d : Disk) (h : Handle) (bytes : Bytes) : Except SystemError Disk :=
  match h.device with
  | .fullDevice => if bytes = [] then .ok d else .error .full
  | .sink => .ok d
  | _ => .ok (Assoc.set h.name (.file (d.bytesAt h.name ++ bytes)) d)

/-- Write from the beginning of an open file over what is there; older bytes beyond the end of the
new ones become blanks, and the file never shrinks. -/
def overwrite (d : Disk) (h : Handle) (bytes : Bytes) : Except SystemError Disk :=
  match h.device with
  | .fullDevice => if bytes = [] then .ok d else .error .full
  | .sink => .ok d
  | _ =>
    let old := (d.bytesAt h.name).length
    .ok (Assoc.set h.name (.file (bytes ++ List.replicate (old - bytes.length) 32)) d)

/-- Read a whole file. -/
def read (d : Disk) (p : Pathname) : Except SystemError Bytes :=
  match d.locate p with
  | .error b => .error (blocked p b)
  | .ok q =>
    match d.entryAt? q with
    | some (.file bytes) => .ok bytes
    | some .directory => .error (.isDirectory p)
    | some _ => .ok []
    | none => .error (.notFound p)

/-- A disk with a file, and the directories above it. -/
def addFile (d : Disk) (p : Pathname) (bytes : Bytes) : Disk :=
  let q := p.absolute
  let (_, d) := d.makeDirectories q.parent
  Assoc.set q (.file bytes) d

/-- A disk with a directory, and the directories above it. -/
def addDirectory (d : Disk) (p : Pathname) : Disk := (d.makeDirectories p.absolute).2

/-- The files below the working directory that are new or changed since an earlier disk. -/
def changedSince (d earlier : Disk) : List (String × Bytes) :=
  d.filterMap fun (p, e) =>
    match p.anchor, e with
    | .workspace, .file bytes =>
      if p.parts.contains ".." || Assoc.get? p earlier = some (.file bytes) then none
      else some ("/".intercalate p.parts, bytes)
    | _, _ => none

end Disk

end Sweep
