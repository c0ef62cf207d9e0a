import Sweep.Document.Display

/-!
# The journal

Everything noteworthy of a run becomes a record with a level, the part of the program that wrote
it, a message, and labels such as the event or the child it is about.  Records are written in three
forms: as one line of JSON with the labels, as a plain line with a time stamp, or as level and
message alone.
-/

namespace Sweep

/-- How important a record is. -/
inductive Level where
  | debug
  | info
  | warning
  | error
  | critical
  deriving DecidableEq, Repr

namespace Level

def name : Level → String
  | debug => "DEBUG"
  | info => "INFO"
  | warning => "WARNING"
  | error => "ERROR"
  | critical => "CRITICAL"

/-- Levels in order of importance. -/
def rank : Level → Nat
  | debug => 10
  | info => 20
  | warning => 30
  | error => 40
  | critical => 50

def all : List Level := [debug, info, warning, error, critical]

/-- The level with a name. -/
def ofName? (name : String) : Option Level := all.find? (·.name == name)

/-- Two levels have a second, shorter name. -/
def fullName (name : String) : String :=
  if name = "WARN" then warning.name else if name = "FATAL" then critical.name else name

end Level

/-- A record of the journal.  The level is kept by name, the labels in any order. -/
structure Record where
  level : String
  source : String
  message : String
  labels : List (String × Document) := []
  deriving Repr

/-! The parts of the program that write records. -/

namespace Source

def beds : String := "benchbed.loader"
def machine : String := "benchbed.program"
def children : String := "benchbed.process"
def supervision : String := "benchbed.supervisor"
def rendering : String := "benchbed.templates"
def session : String := "benchbed.testbed"

end Source

namespace Record

/-- The labels that are written, in this order. -/
def shownLabels : List String := ["program", "event", "pid"]

/-- One line of JSON. -/
def structured (stamp : String) (r : Record) : String :=
  let labels := shownLabels.filterMap fun key => (Assoc.get? key r.labels).map (key, ·)
  (Document.ofFields ([("timestamp", .text stamp), ("level", .text r.level), ("logger", .text r.source),
    ("message", .text r.message)] ++ labels)).ascii .line

/-- A plain line with a time stamp. -/
def plain (stamp : String) (r : Record) : String :=
  " - ".intercalate [stamp, r.source, r.level, r.message]

/-- Level and message alone. -/
def brief (r : Record) : String := r.level ++ ": " ++ r.message

end Record

end Sweep
