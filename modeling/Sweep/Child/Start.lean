import Sweep.Child.Lifecycle

/-!
# Starting children and routing their output

Starting a child makes a status line for it and routes its two streams, standard output first.  A
stream goes to the status line, where its latest line is shown, or to a file, without carriage
returns.  A file that cannot be opened or written is no reason to stop: the stream is shown on the
line instead, and the line is flagged.

A stream is read in pieces of at most 8192 bytes, and empty pieces are skipped.
-/

namespace Sweep

open Text (Bytes LineTracker)

/-- The largest piece that is read at once. -/
def pieceSize : Nat := 8192

/-- Cut bytes into pieces of limited size; the budget is the number of bytes. -/
def cutPieces : (budget : Nat) → Bytes → List Bytes
  | 0, _ => []
  | _, [] => []
  | budget + 1, bytes => bytes.take pieceSize :: cutPieces budget (bytes.drop pieceSize)

/-- What the reads of a stream give, one after the other. -/
def reads (chunks : List Chunk) : List Chunk :=
  chunks.flatMap fun
    | .data bytes => (cutPieces bytes.length bytes).map .data
    | .fault e => [.fault e]

/-- What is said about a NUL character in a name. -/
def nulMessage : String := "embedded null byte"

/-- How an attempt to start a child ends. -/
inductive StartResult where
  | started (child : Nat)
  /-- No child was started. -/
  | refused (reason : String)
  /-- A child was started, but one of its streams has nowhere to go. -/
  | unrouted (child : Nat) (reason : String)
  deriving DecidableEq, Repr

namespace World

/-- Show a stream on the status line. -/
def showStream (i : Nat) (tracker : LineTracker) : List Chunk → World → World
  | [], w =>
    let last := tracker.close.line
    if last.isEmpty then w else w.modifyLine i (·.say last)
  | .fault e :: _, w => w.modifyLine i (·.say ("Error: " ++ e.message))
  | .data bytes :: rest, w =>
    let tracker := tracker.feed bytes
    showStream i tracker rest (w.modifyLine i (·.say tracker.line))

/-- The bytes that go to a file: all but the carriage returns. -/
def savedBytes (bytes : Bytes) : Bytes := bytes.filter (· ≠ 13)

/-- Copy a stream to an open file; after a refusal the rest is shown on the status line. -/
def saveStream (i : Nat) (channel : Channel) (path : Pathname) (h : Disk.Handle) :
    List Chunk → World → World
  | [], w => w
  | .fault _ :: _, w => w
  | .data bytes :: rest, w =>
    match w.disk.appendTo h (savedBytes bytes) with
    | .ok disk => saveStream i channel path h rest { w with disk }
    | .error e =>
      let w := w.record .warning Source.children ("Write failed " ++ path.text ++ ": " ++ e.message)
      showStream i {} rest (w.modifyLine i (·.flag channel))

/-- Route a stream to a file, or to the status line if the file cannot be opened.  Gives false if
the name of the file is none. -/
def routeToFile (i : Nat) (channel : Channel) (path : Pathname) (emptied : Bool)
    (stream : List Chunk) (w : World) : Bool × World :=
  if path.parent.hasNul then (false, w)
  else
    let (made, disk) := w.disk.makeDirectories path.parent
    let w := { w with disk }
    if made.toOption.isSome && path.hasNul then (false, w)
    else
      match made.bind fun _ => disk.openFile path emptied with
      | .ok (h, disk) => (true, saveStream i channel path h (reads stream) { w with disk })
      | .error e =>
        let w := w.record .warning Source.children
          ("Cannot open " ++ path.text ++ " for " ++ channel.name ++ ", showing it live: " ++ e.message)
        (true, showStream i {} (reads stream) (w.modifyLine i (·.flag channel)))

/-- Route a stream of a child. -/
def route (i : Nat) (channel : Channel) (stream : List Chunk) (w : World) :
    Routing Pathname → Bool × World
  | .print => (true, showStream i {} (reads stream) w)
  | .create path => w.routeToFile i channel path true stream
  | .append path => w.routeToFile i channel path false stream

/-- Why the system does not start a child, if it does not. -/
def startFault? (o : Order) (script : Script) : Option String :=
  if hasNul o.command || o.arguments.any hasNul || o.directory.any (·.hasNul) then some nulMessage
  else script.startFault.map (·.message)

/-- Leave a child alone whose streams cannot be routed. -/
def leaveUnrouted (i : Nat) (w : World) : StartResult × World :=
  (.unrouted i nulMessage, w.modifyChild i fun c => { c with routed := false })

/-- The first process number, less one. -/
def pidBase : Nat := 1000

/-- Start a child and route its streams; `shown` says how many arguments its label shows. -/
def start (o : Order) (shown : Option Int) (w : World) : StartResult × World :=
  let script := (w.scripts[w.attempts]?).getD {}
  let w := w.happen (.spawn o)
  let w := { w with attempts := w.attempts + 1 }
  match startFault? o script with
  | some reason => (.refused reason, w)
  | none =>
    let i := w.children.size
    let pid := pidBase + w.attempts
    let child : Child :=
      { order := o, pid, script, started := w.now, line := { label := o.label shown } }
    let w := { w with children := w.children.push child }
    match w.route i .stdout script.stdout o.stdout with
    | (false, w) => w.leaveUnrouted i
    | (true, w) =>
      match w.route i .stderr script.stderr o.stderr with
      | (false, w) => w.leaveUnrouted i
      | (true, w) =>
        (.started i, w.record .info Source.children
          ("Spawned " ++ o.label none ++ " (pid " ++ toString pid ++ ")") (childLabels "spawn" pid))

end World

end Sweep
