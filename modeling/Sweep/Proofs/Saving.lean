import Sweep.Proofs.Showing
import Sweep.Proofs.Starting

/-!
# What a stream leaves in its file

A stream that is routed to a file is copied piece by piece, without the carriage returns.  The law is about
the stream as a whole: what the file holds at the end is what it held before, or nothing, and then all bytes
that were read, however they were cut.

* `MoreDirectories` — making directories touches no bytes, and names that could be followed lead where they
  led;
* `Opened`, `Opened.written` — what was opened, and what writing to it changes;
* `appendTo_append` — two writes, one after the other, are one;
* `Opening` — how opening the file of a stream ends, and the disk that this leaves;
* `received`, `received_reads` — the bytes that are read of a stream until it fails or ends, in pieces of
  whatever size;
* `saveStream_eq` — copying a stream is one write of all that is received;
* `routeToFile_of_opened`, `routeToFile_of_unopened` — a stream whose file opens, and one whose file does not;
* `routed_to_file` — both together, for every stream and every way to read it.
-/

namespace Sweep

open Text (Bytes)

namespace Disk

variable {d d' d₁ d₂ : Disk} {handle : Handle} {p path q : Pathname} {emptied : Bool} {bytes : Bytes}
  {e : SystemError}

/-! ### Bytes of a disk -/

@[simp] theorem bytesAt_set_file (q : Pathname) (bytes : Bytes) (d : Disk) :
    bytesAt (Assoc.set q (.file bytes) d) q = bytes := by
  rw [bytesAt, Assoc.get?_set, if_pos rfl]

theorem bytesAt_set_directory (q : Pathname) (d : Disk) :
    bytesAt (Assoc.set q .directory d) q = [] := by
  rw [bytesAt, Assoc.get?_set, if_pos rfl]

theorem bytesAt_set_of_ne {e : Entry} {other : Pathname} (h : other ≠ q) :
    bytesAt (Assoc.set q e d) other = bytesAt d other := by
  rw [bytesAt, Assoc.get?_set, if_neg h, bytesAt]

/-- A name under which nothing is has no bytes. -/
theorem bytesAt_of_entry_eq_none (h : d.entryAt? q = none) : d.bytesAt q = [] := by
  unfold entryAt? at h
  split at h
  · cases h
  · rw [bytesAt, h]

/-- Nothing that exists without being listed is a file. -/
theorem given?_ne_file (q : Pathname) (bytes : Bytes) : given? q ≠ some (.file bytes) := by
  rw [given?]
  split <;> try split
  all_goals exact fun h => nomatch h

theorem listed_of_entry_eq_none (h : d.entryAt? q = none) : given? q = none := by
  unfold entryAt? at h
  split at h
  · cases h
  · assumption

theorem entry_eq_file (h : d.entryAt? q = some (.file bytes)) :
    given? q = none ∧ Assoc.get? q d = some (.file bytes) := by
  unfold entryAt? at h
  split at h
  · next given => exact absurd (given.trans h) (given?_ne_file q bytes)
  · next given => exact ⟨given, h⟩

theorem bytesAt_of_entry (h : d.entryAt? q = some (.file bytes)) : d.bytesAt q = bytes := by
  rw [bytesAt, (entry_eq_file h).2]

theorem entry_set_of_ne {e : Entry} {other : Pathname} (h : other ≠ q) :
    entryAt? (Assoc.set q e d) other = d.entryAt? other := by
  unfold entryAt?
  rw [Assoc.get?_set, if_neg h]

theorem entry_set {e : Entry} (h : given? q = none) : entryAt? (Assoc.set q e d) q = some e := by
  unfold entryAt?
  rw [h, Assoc.get?_set, if_pos rfl]

theorem entry_of_listed (listed : given? q = none) : d.entryAt? q = Assoc.get? q d := by
  unfold entryAt?
  rw [listed]

/-- What is read of a file that is listed are its bytes. -/
theorem bytesAt_of_read (located : d.locate p = .ok q) (listed : given? q = none)
    (h : d.read p = .ok bytes) : d.bytesAt q = bytes := by
  rw [read, located] at h
  dsimp only at h
  rw [entry_of_listed listed] at h
  rw [bytesAt]
  cases entry : Assoc.get? q d with
  | none =>
    rw [entry] at h
    cases h
  | some e =>
    rw [entry] at h
    cases e with
    | file bytes => exact Except.ok.inj h
    | directory => cases h
    | sink => exact Except.ok.inj h
    | fullDevice => exact Except.ok.inj h

/-! ### Directories -/

/-- The directories of one disk are on another. -/
def KeepsDirectories (d d' : Disk) : Prop :=
  ∀ q, d.entryAt? q = some .directory → d'.entryAt? q = some .directory

theorem KeepsDirectories.follow (keeps : d.KeepsDirectories d') (at_ : Pathname) (parts : List String)
    (h : d.follow at_ parts = .ok q) : d'.follow at_ parts = .ok q := by
  induction parts generalizing at_ with
  | nil => exact h
  | cons part rest ih =>
    rw [Disk.follow] at h ⊢
    split at h
    · next directory =>
      rw [keeps at_ directory]
      split at h
      · next short =>
        dsimp only
        rw [if_pos short]
        exact ih _ h
      · cases h
    · cases h
    · cases h

/-- A name that can be followed stands for the same place on a disk with more directories. -/
theorem KeepsDirectories.locate (keeps : d.KeepsDirectories d') (h : d.locate p = .ok q) :
    d'.locate p = .ok q := by
  rw [Disk.locate] at h ⊢
  split at h
  · cases h
  · next short =>
    rw [if_neg short]
    exact keeps.follow _ _ h

theorem keepsDirectories_set {e : Entry} (h : d.entryAt? q ≠ some .directory) :
    d.KeepsDirectories (Assoc.set q e d) := by
  intro other directory
  have other_ne : other ≠ q := by
    rintro rfl
    exact h directory
  rw [entry_set_of_ne other_ne, directory]

/-- A disk with more directories, and the same bytes in all files. -/
structure MoreDirectories (d d' : Disk) : Prop where
  keeps : d.KeepsDirectories d'
  bytes : ∀ q, d'.bytesAt q = d.bytesAt q

theorem MoreDirectories.refl (d : Disk) : d.MoreDirectories d := ⟨fun _ h => h, fun _ => rfl⟩

theorem MoreDirectories.trans (h : d.MoreDirectories d₁) (h' : d₁.MoreDirectories d₂) :
    d.MoreDirectories d₂ :=
  ⟨fun q directory => h'.keeps q (h.keeps q directory), fun q => (h'.bytes q).trans (h.bytes q)⟩

theorem moreDirectories_makeDirectory (h : d.makeDirectory p = .ok d') : d.MoreDirectories d' := by
  rw [makeDirectory] at h
  split at h
  · cases h
  · next q located =>
    split at h
    · cases h
    · next nothing =>
      obtain rfl := Except.ok.inj h
      refine ⟨keepsDirectories_set (by rw [nothing]; exact fun h => nomatch h), fun other => ?_⟩
      by_cases same : other = q
      · rw [same, bytesAt_set_directory, bytesAt_of_entry_eq_none nothing]
      · exact bytesAt_set_of_ne same

theorem moreDirectories_makeDirectoriesWithin (d : Disk) (p : Pathname) (depth : Nat) :
    d.MoreDirectories (d.makeDirectoriesWithin p depth).2 := by
  induction depth generalizing d p with
  | zero => exact .refl d
  | succ depth ih =>
    rw [makeDirectoriesWithin]
    split
    · next made => exact moreDirectories_makeDirectory made
    · split
      · split
        · exact .refl d
        · have above := ih d p.parent
          split
          · next parents => rwa [parents] at above
          · next parents =>
            rw [parents] at above
            split
            · next made => exact above.trans (moreDirectories_makeDirectory made)
            · split <;> exact above
      · split <;> exact .refl d

/-- Making directories touches no file. -/
theorem moreDirectories_makeDirectories (d : Disk) (p : Pathname) :
    d.MoreDirectories (d.makeDirectories p).2 := moreDirectories_makeDirectoriesWithin d p _

/-! ### Open files -/

/-- What opening leaves of the bytes of a file. -/
def keptBytes (emptied : Bool) (bytes : Bytes) : Bytes := if emptied then [] else bytes

/-- A name was opened: a file, which is there now whether or not it was before, or a device, about which
nothing changes. -/
inductive Opened (d : Disk) (p : Pathname) (emptied : Bool) : Handle → Disk → Prop
  | file {q : Pathname} (located : d.locate p = .ok q) (listed : given? q = none)
      (free : d.entryAt? q ≠ some .directory) :
      Opened d p emptied ⟨q, .file []⟩ (Assoc.set q (.file (keptBytes emptied (d.bytesAt q))) d)
  | sink {q : Pathname} (located : d.locate p = .ok q) : Opened d p emptied ⟨q, .sink⟩ d
  | fullDevice {q : Pathname} (located : d.locate p = .ok q) :
      Opened d p emptied ⟨q, .fullDevice⟩ d

theorem opened_of_openFile (h : d.openFile p emptied = .ok (handle, d')) : d.Opened p emptied handle d' := by
  rw [openFile] at h
  split at h
  · cases h
  · next q located =>
    split at h
    · cases h
    · next bytes entry =>
      obtain ⟨rfl, rfl⟩ := Prod.mk.inj (Except.ok.inj h)
      have opened : d.Opened p emptied _ _ := .file located (entry_eq_file entry).1
        (by rw [entry]; exact fun h => nomatch h)
      rw [bytesAt_of_entry entry] at opened
      cases emptied <;> exact opened
    · next device not_directory not_file entry =>
      obtain ⟨rfl, rfl⟩ := Prod.mk.inj (Except.ok.inj h)
      cases device with
      | file bytes => exact absurd rfl (not_file bytes)
      | directory => exact absurd rfl not_directory
      | sink => exact .sink located
      | fullDevice => exact .fullDevice located
    · next entry =>
      obtain ⟨rfl, rfl⟩ := Prod.mk.inj (Except.ok.inj h)
      have opened : d.Opened p emptied _ _ := .file located (listed_of_entry_eq_none entry)
        (by rw [entry]; exact fun h => nomatch h)
      rw [bytesAt_of_entry_eq_none entry] at opened
      cases emptied <;> exact opened

/-- What was opened takes nothing at once. -/
theorem Opened.ready (opened : d.Opened p emptied handle d') : d'.appendTo handle [] = .ok d' := by
  cases opened with
  | file => simp [appendTo]
  | sink => rfl
  | fullDevice => rfl

/-- Two writes, one after the other, are one. -/
theorem appendTo_append (d : Disk) (handle : Handle) (first second : Bytes) :
    d.appendTo handle (first ++ second) =
      (d.appendTo handle first).bind fun d => d.appendTo handle second := by
  obtain ⟨q, device⟩ := handle
  cases device with
  | sink => rfl
  | fullDevice => cases first <;> rfl
  | file _ => simp [appendTo, Except.bind, List.append_assoc]
  | directory => simp [appendTo, Except.bind, List.append_assoc]

/-- Writing to what was opened changes this file alone, and the file holds what was kept and then what was
written. -/
theorem Opened.written (opened : d.Opened p emptied handle d₁)
    (accepted : d₁.appendTo handle bytes = .ok d') :
    (∀ q, q ≠ handle.name → d'.bytesAt q = d.bytesAt q) ∧
    (handle.device = .file [] → d'.read p = .ok (keptBytes emptied (d.bytesAt handle.name) ++ bytes)) := by
  cases opened with
  | @file q located listed free =>
    obtain rfl := Except.ok.inj accepted
    rw [bytesAt_set_file, Assoc.set_set]
    refine ⟨fun other other_ne => bytesAt_set_of_ne other_ne, fun _ => ?_⟩
    rw [read, (keepsDirectories_set free).locate located]
    dsimp only
    rw [entry_set listed]
  | sink =>
    obtain rfl := Except.ok.inj accepted
    exact ⟨fun _ _ => rfl, fun device => nomatch device⟩
  | fullDevice =>
    change (if bytes = [] then Except.ok d else .error SystemError.full) = .ok d' at accepted
    split at accepted
    · obtain rfl := Except.ok.inj accepted
      exact ⟨fun _ _ => rfl, fun device => nomatch device⟩
    · cases accepted

/-- What was read of a file before, on a disk with fewer directories, are the bytes that it had. -/
theorem Opened.bytesAt_of_read (opened : d₁.Opened p emptied handle d₂) (more : d.MoreDirectories d₁)
    (plain : handle.device = .file []) (h : d.read p = .ok bytes) : d.bytesAt handle.name = bytes := by
  cases opened with
  | @file q located listed free =>
    cases before : d.locate p with
    | error b =>
      rw [read, before] at h
      cases h
    | ok q' =>
      obtain rfl := Except.ok.inj ((more.keeps.locate before).symm.trans located)
      exact Disk.bytesAt_of_read before listed h
  | sink => cases plain
  | fullDevice => cases plain

/-- How opening the file of a stream ends, and the disk that this leaves: first the directories are made,
then the file is opened.  A name with a NUL is refused otherwise. -/
inductive Opening (d : Disk) (path : Pathname) (emptied : Bool) : Except SystemError Handle → Disk → Prop
  | opened {d₁ d₂ : Disk} {handle : Handle} (named : path.hasNul = false)
      (made : d.makeDirectories path.parent = (.ok (), d₁))
      (file : d₁.openFile path emptied = .ok (handle, d₂)) : Opening d path emptied (.ok handle) d₂
  | undirected {d₁ : Disk} {e : SystemError} (named : path.parent.hasNul = false)
      (made : d.makeDirectories path.parent = (.error e, d₁)) : Opening d path emptied (.error e) d₁
  | unopened {d₁ : Disk} {e : SystemError} (named : path.hasNul = false)
      (made : d.makeDirectories path.parent = (.ok (), d₁))
      (file : d₁.openFile path emptied = .error e) : Opening d path emptied (.error e) d₁

theorem Opening.opened_file (opening : d.Opening path emptied (.ok handle) d₂) :
    ∃ d₁, d.MoreDirectories d₁ ∧ d₁.Opened path emptied handle d₂ := by
  cases opening with
  | opened named made file =>
    have more := d.moreDirectories_makeDirectories path.parent
    rw [made] at more
    exact ⟨_, more, opened_of_openFile file⟩

end Disk

/-! ### Copying a stream -/

/-- The bytes that are read of a stream until it fails or ends. -/
def received : List Chunk → Bytes
  | [] => []
  | .fault _ :: _ => []
  | .data bytes :: rest => bytes ++ received rest

theorem received_append_data (pieces : List Bytes) (rest : List Chunk) :
    received (pieces.map .data ++ rest) = pieces.flatten ++ received rest := by
  induction pieces with
  | nil => rfl
  | cons piece pieces ih =>
    rw [List.map_cons, List.cons_append, received, ih, List.flatten_cons, List.append_assoc]

/-- Reading in pieces of limited size changes nothing about what is received. -/
theorem received_reads (stream : List Chunk) : received (reads stream) = received stream := by
  induction stream with
  | nil => rfl
  | cons chunk rest ih =>
    rw [reads, List.flatMap_cons, ← reads]
    cases chunk with
    | fault e => rfl
    | data bytes => rw [received_append_data, flatten_cutPieces _ _ (Nat.le_refl _), ih, received]

namespace World

theorem savedBytes_append (first second : Bytes) :
    savedBytes (first ++ second) = savedBytes first ++ savedBytes second := List.filter_append ..

/-- Copying a stream to an open file is one write of all that is received, if the file takes it. -/
theorem saveStream_eq {d d' : Disk} {handle : Disk.Handle} (i : Nat) (channel : Channel) (path : Pathname)
    (stream : List Chunk) (w : World) (ready : d.appendTo handle [] = .ok d)
    (accepted : d.appendTo handle (savedBytes (received stream)) = .ok d') :
    saveStream i channel path handle stream { w with disk := d } = { w with disk := d' } := by
  induction stream generalizing d with
  | nil =>
    obtain rfl := Except.ok.inj (ready.symm.trans accepted)
    rfl
  | cons chunk rest ih =>
    cases chunk with
    | fault e =>
      obtain rfl := Except.ok.inj (ready.symm.trans accepted)
      rfl
    | data bytes =>
      rw [received, savedBytes_append, Disk.appendTo_append] at accepted
      rw [saveStream]
      cases taken : d.appendTo handle (savedBytes bytes) with
      | error e =>
        rw [taken] at accepted
        cases accepted
      | ok d₁ =>
        rw [taken] at accepted
        have ready₁ := Disk.appendTo_append d handle (savedBytes bytes) []
        rw [List.append_nil, taken] at ready₁
        exact ih ready₁.symm accepted

theorem hasNul_parent {path : Pathname} (h : path.hasNul = false) : path.parent.hasNul = false :=
  Bool.eq_false_iff.2 fun parent => Bool.eq_false_iff.1 h (Pathname.hasNul_of_parent parent)

variable {w : World} {path : Pathname} {emptied : Bool} {d d' : Disk} {handle : Disk.Handle}

/-- A stream whose file opens is copied to it. -/
theorem routeToFile_of_opened (i : Nat) (channel : Channel) (stream : List Chunk)
    (opening : w.disk.Opening path emptied (.ok handle) d) :
    w.routeToFile i channel path emptied stream =
      (true, saveStream i channel path handle (reads stream) { w with disk := d }) := by
  cases opening with
  | opened named made file =>
    rw [routeToFile, if_neg (Bool.eq_false_iff.1 (hasNul_parent named)), made, named]
    dsimp only [Except.bind]
    rw [Bool.and_false, if_neg Bool.false_ne_true, file]

/-- The world in which a file could not be opened: the directories that could be made are there, and the
refusal is on record. -/
def unopened (w : World) (channel : Channel) (path : Pathname) (e : SystemError) (d : Disk) : World :=
  { w with disk := d }.record .warning Source.children
    ("Cannot open " ++ path.text ++ " for " ++ channel.name ++ ", showing it live: " ++ e.message)

/-- A stream whose file does not open is flagged and shown. -/
theorem routeToFile_of_unopened {e : SystemError} (i : Nat) (channel : Channel) (stream : List Chunk)
    (opening : w.disk.Opening path emptied (.error e) d) :
    w.routeToFile i channel path emptied stream =
      (true, ((w.unopened channel path e d).modifyLine i (·.flag channel)).tell i
        (messages {} (reads stream))) := by
  rw [← showStream_eq]
  cases opening with
  | undirected named made =>
    rw [routeToFile, if_neg (Bool.eq_false_iff.1 named), made]
    rfl
  | unopened named made file =>
    rw [routeToFile, if_neg (Bool.eq_false_iff.1 (hasNul_parent named)), made, named]
    dsimp only [Except.bind]
    rw [Bool.and_false, if_neg Bool.false_ne_true, file]
    rfl

theorem children_unopened (w : World) (channel : Channel) (path : Pathname) (e : SystemError) (d : Disk) :
    (w.unopened channel path e d).children = w.children := by
  rw [unopened]
  generalize
    "Cannot open " ++ path.text ++ " for " ++ channel.name ++ ", showing it live: " ++ e.message = text
  obtain ⟨r, disk, eq⟩ := record_eq { w with disk := d } .warning Source.children text []
  rw [eq]
  rfl

end World

/-- The routing to a file. -/
def Routing.toFile (emptied : Bool) (path : Pathname) : Routing Pathname :=
  if emptied then .create path else .append path

theorem World.route_toFile (w : World) (i : Nat) (channel : Channel) (path : Pathname) (emptied : Bool)
    (stream : List Chunk) :
    w.route i channel stream (.toFile emptied path) = w.routeToFile i channel path emptied stream := by
  cases emptied <;> rfl

open World (savedBytes saveStream)

/-- **A file neither loses nor invents bytes of its stream.**  If the file opens and takes what is received,
then this is all that happens, however the stream was cut: nothing on any status line, nothing about any other
file, and a plain file, which takes everything, holds what it held before, unless it was emptied, and then all
that was received but the carriage returns.  If it does not open, the stream is flagged and says just what it
says when it is shown. -/
theorem routed_to_file (w : World) (i : Nat) (channel : Channel) (path : Pathname) (emptied : Bool)
    (stream : List Chunk) :
    (∀ handle d, w.disk.Opening path emptied (.ok handle) d →
      (handle.device = .file [] →
        (d.appendTo handle (savedBytes (received stream))).toOption.isSome = true) ∧
      ∀ d', d.appendTo handle (savedBytes (received stream)) = .ok d' →
        w.route i channel stream (.toFile emptied path) = (true, { w with disk := d' }) ∧
        (∀ pieces, received pieces = received stream →
          saveStream i channel path handle pieces { w with disk := d } = { w with disk := d' }) ∧
        (∀ q, q ≠ handle.name → d'.bytesAt q = w.disk.bytesAt q) ∧
        (handle.device = .file [] →
          (∀ old, w.disk.read path = .ok old → w.disk.bytesAt handle.name = old) ∧
          d'.read path = .ok
            (Disk.keptBytes emptied (w.disk.bytesAt handle.name) ++ savedBytes (received stream)))) ∧
    (∀ e d, w.disk.Opening path emptied (.error e) d → ∃ w₀ : World, w₀.children = w.children ∧
      w.route i channel stream (.toFile emptied path) =
        (true, (w₀.modifyLine i (·.flag channel)).tell i (messages {} (reads stream)))) ∧
    w.route i channel stream .print = (true, w.tell i (messages {} (reads stream))) := by
  refine ⟨fun handle d opening => ⟨fun plain => ?_, fun d' accepted => ?_⟩,
    fun e d opening => ⟨_, World.children_unopened w channel path e d, ?_⟩, ?_⟩
  · rw [Disk.appendTo, plain]
    rfl
  · obtain ⟨d₁, more, opened⟩ := opening.opened_file
    have copied (pieces : List Chunk) (same : received pieces = received stream) :
        saveStream i channel path handle pieces { w with disk := d } = { w with disk := d' } :=
      World.saveStream_eq i channel path pieces w opened.ready (same ▸ accepted)
    obtain ⟨others, contents⟩ := opened.written accepted
    refine ⟨?_, copied, fun q other => (others q other).trans (more.bytes q), fun plain =>
      ⟨fun old => opened.bytesAt_of_read more plain, ?_⟩⟩
    · rw [World.route_toFile, World.routeToFile_of_opened i channel stream opening,
        copied _ (received_reads stream)]
    · rw [contents plain, more.bytes]
  · rw [World.route_toFile, World.routeToFile_of_unopened i channel stream opening]
  · rw [World.route, World.showStream_eq]

theorem routed_to_file_log :
    let w : World := { disk := [(⟨.workspace, ["log"]⟩, .file [0x61, 0x0A])] }
    let stream : List Chunk := [.data [0x62, 0x0D], .data [0x0D, 0x0A], .fault ⟨5, "fault"⟩, .data [0x63]]
    let log : Pathname := ⟨.relative, ["log"]⟩
    let inside : Pathname := ⟨.relative, ["log", "inside", "file"]⟩
    (∃ d d', w.disk.Opening log false (.ok ⟨⟨.workspace, ["log"]⟩, .file []⟩) d ∧
      d.appendTo ⟨⟨.workspace, ["log"]⟩, .file []⟩ (savedBytes (received stream)) = .ok d' ∧
      w.route 0 .stdout stream (.toFile false log) = (true, { w with disk := d' }) ∧
      d'.read log = .ok [0x61, 0x0A, 0x62, 0x0A]) ∧
    (w.disk.Opening inside true (.error (.notDirectory ⟨.relative, ["log", "inside"]⟩)) w.disk ∧
      ∃ w₀ : World, w₀.children = w.children ∧
        w.route 0 .stderr stream (.toFile true inside) =
          (true, (w₀.modifyLine 0 (·.flag .stderr)).tell 0 ["b", "b", "Error: [Errno 5] fault"])) := by
  intro w stream log inside
  have made : w.disk.makeDirectories log.parent = (.ok (), w.disk) := by decide +kernel
  have opening : w.disk.Opening log false (.ok ⟨⟨.workspace, ["log"]⟩, .file []⟩) w.disk :=
    .opened (by decide +kernel) made (by decide +kernel)
  have unopened :
      w.disk.Opening inside true (.error (.notDirectory ⟨.relative, ["log", "inside"]⟩)) w.disk :=
    .undirected (by decide +kernel) (by decide +kernel)
  obtain ⟨-, routed⟩ := (routed_to_file w 0 .stdout log false stream).1 _ _ opening
  obtain ⟨route, -, -, contents⟩ := routed _ rfl
  have said : messages {} (reads stream) = ["b", "b", "Error: [Errno 5] fault"] := by decide +kernel
  refine ⟨⟨_, _, opening, rfl, route, (contents rfl).2.trans (by decide +kernel)⟩, unopened, ?_⟩
  exact said ▸ (routed_to_file w 0 .stderr inside true stream).2.1 _ _ unopened

end Sweep
