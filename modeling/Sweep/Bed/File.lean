import Sweep.Bed
import Sweep.Document.Decoder
import Sweep.Text.DecodeFault
import Sweep.World.Disk

/-!
# Beds in files

A bed is read from a file that holds one document.  Relative directories of the bed are taken inside
the directory of the file, under its absolute name.
-/

namespace Sweep

/-- Why a bed cannot be read from a file. -/
inductive BedFileError where
  | flawed (e : BedError)
  /-- A file that is not text. -/
  | notText (f : Text.DecodeFault)
  /-- A file that makes its decoder fail. -/
  | foreign (e : Foreign)
  | unreadable (e : SystemError)
  deriving DecidableEq, Repr

def BedFileError.message : BedFileError → String
  | flawed e => e.message
  | notText f => f.message
  | foreign e => e.text
  | unreadable e => e.message

namespace Bed

/-- Read a bed from a file. -/
def ofFile (decode : Decoder) (home : Homes) (disk : Disk) (p : Pathname) :
    Except BedFileError Bed := do
  let flaw (f : Flaw) : BedFileError := .flawed (.refused (.flaw p.text f))
  if !(← (disk.has p).mapError .unreadable) then throw (flaw .fileMissing)
  let text ← (Text.ofPieces (← (disk.read p).mapError .unreadable)).mapError .notText
  match decode text with
  | .error (.malformed cause) => throw (flaw (.notADocument cause))
  | .error (.foreign e) => throw (.foreign e)
  | .ok d => (Bed.ofDocument ⟨p.absolute.parent, home⟩ d).mapError .flawed

end Bed

end Sweep
