import Sweep.Journal
import Sweep.World.Disk

/-!
# Records in a file

A logbook is an open file that keeps the records of at least some level.  A record is written at the
end of the file at the moment at which it is made, so that what others write to the same file in the
meantime stands between the records.  The file holds lines of JSON, or plain lines.
-/

namespace Sweep

/-- A file that keeps records. -/
structure Logbook where
  handle : Disk.Handle
  structured : Bool
  least : Level
  deriving DecidableEq, Repr

/-- A record is important enough. -/
def Level.admits (least : Level) (r : Record) : Bool :=
  match Level.ofName? r.level with
  | some level => least.rank ≤ level.rank
  | none => false

namespace Logbook

/-- The stamp that stands for the time of a record. -/
def stamp : String := "<TS>"

/-- The line of a record. -/
def line (b : Logbook) (r : Record) : String :=
  (if b.structured then r.structured stamp else r.plain stamp) ++ "\n"

/-- Keep a record, if it is important enough and the file takes it. -/
def keep (b : Logbook) (r : Record) (d : Disk) : Disk :=
  if b.least.admits r then (d.appendTo b.handle (Text.utf8 (b.line r))).toOption.getD d else d

end Logbook

end Sweep
