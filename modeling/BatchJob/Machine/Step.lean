import BatchJob.Job.Basic
import BatchJob.Machine.Process

/-!
# Steps of processes

One step of a process: it takes the next call of its task, or a signal that waits for it. A call that has to
wait is no step. An end of a pipe is closed when the last process that holds it closes it or ends.
-/

namespace BatchJob.Machine

/-- The processes together with what they share with the supervisor. -/
abbrev World := Job.Shared Machine

namespace World

/-- Replaces a process. -/
def put (w : World) (p : Process) : World :=
  { w with host := w.host.put p }

/-- Closes an entry that no process holds. -/
def settleEntry (w : World) (number : Nat) : World :=
  match w.host.entry? number with
  | none => w
  | some entry =>
    if w.host.isHeld (.file number) then w
    else
      { w with
        files := w.files.close entry.file
        host := { w.host with entries := w.host.entries.setIfInBounds number none } }

/-- Closes what no process holds any more. -/
def settle (w : World) : World :=
  let ended : List (Descriptor × Plumbing.Action) :=
    [(.input, .endInput), (.output .stdout, .endOutput .stdout), (.output .stderr, .endOutput .stderr)]
  let w := ended.foldl (fun w (descriptor, action) =>
    if w.host.isHeld descriptor then w else { w with plumbing := w.plumbing.perform action }) w
  (List.range w.host.entries.size).foldl settleEntry w

/-- What becomes of a child of a process that has ended. -/
def orphan? (parent : Pid) (p : Process) : Option Process :=
  if p.parent = parent then if p.isLive then some { p with parent := orphanage } else none else some p

/-- Ends a process. The supervisor's handler collects a child of its own, records the status and posts the
shutdown signal. -/
def finish (w : World) (p : Process) (status : ChildStatus) : World :=
  let m := w.host.put { p with status := some status, descriptors := [], pending := [] }
  let m := { m with processes := m.processes.filterMap (orphan? p.pid) }
  let m := if p.parent = orphanage then m.remove p.pid else m
  let w := settle { w with host := m }
  if p.parent = supervisor && m.collectsExits then
    { w with
      host := w.host.remove p.pid
      exits := w.exits.record p.pid status
      plumbing := w.plumbing.perform .post }
  else w

/-- Delivers a signal. -/
def deliver (w : World) (p : Process) (signal : Signal) : World :=
  let p := { p with pending := p.pending.erase signal, isStopped := p.isStopped && signal ≠ Signal.cont }
  match p.regards.lookup signal, disposition signal with
  | some .noted, _ => w.put { p with noted := p.noted ++ [signal] }
  | some .ignored, _ | none, .ignore | none, .resume => w.put p
  | none, .terminate => w.finish p (.signaled signal)
  | none, .stop => w.put { p with isStopped := true }

/-- How many bytes a process reads at a time. -/
def chunk : Nat := 65536

/-- The error number of a failure. -/
def errno : IoError → Errno
  | .os e => e
  | _ => .io

/-- Reads from what a descriptor stands for. -/
def read (w : World) (n : Nat) : Descriptor → Attempt Errno Bytes × World
  | .input =>
    let stdin := w.plumbing.stdin
    if stdin.queue.isEmpty then (if stdin.hasWriter then .blocked else .done [], w)
    else (.done (stdin.queue.take n).1, { w with plumbing := w.plumbing.perform (.take n) })
  | .output _ => (.failed .badf, w)
  | .file number =>
    match w.host.entry? number with
    | none => (.failed .badf, w)
    | some entry =>
      let (result, file, files) := w.files.read entry.file n
      let entries := w.host.entries.setIfInBounds number (some { entry with file })
      (result.mapError errno, { w with files, host := { w.host with entries } })

/-- The regular file that a descriptor stands for, if it is one. -/
def standing? (w : World) : Descriptor → Option Standing
  | .file number =>
    (w.host.entry? number).bind fun entry =>
      match w.files.node entry.file.node with
      | .file _ content => some ⟨entry.file.node, entry.file.offset, content.size⟩
      | _ => none
  | _ => none

/-- Goes to another position in the regular file that a descriptor stands for, given the present one. -/
def reposition (w : World) (position : Nat → Nat) (descriptor : Descriptor) : World :=
  match descriptor, w.standing? descriptor with
  | .file number, some _ =>
    let moved (entry : Entry) : Entry :=
      { entry with file := { entry.file with offset := position entry.file.offset } }
    { w with host := { w.host with entries := w.host.entries.modify number (·.map moved) } }
  | _, _ => w

/-- Where the next write of an entry goes. -/
def positioned (w : World) (entry : Entry) : OpenFile :=
  match entry.appends, w.files.node entry.file.node with
  | true, .file _ content => { entry.file with offset := content.size }
  | _, _ => entry.file

/-- Offers bytes to what a descriptor stands for. -/
def offer (w : World) (bytes : Bytes) : Descriptor → Attempt Errno Nat × World
  | .input => (.failed .badf, w)
  | .output channel =>
    let pipe := w.plumbing.output channel
    if !pipe.hasReader then (.failed .pipe, w)
    else if pipe.room = 0 then (.blocked, w)
    else
      (.done (min bytes.length pipe.room), { w with plumbing := w.plumbing.perform (.emit channel bytes) })
  | .file number =>
    match w.host.entry? number with
    | none => (.failed .badf, w)
    | some entry =>
      let (result, file, files) := w.files.write (w.positioned entry) bytes
      let entries := w.host.entries.setIfInBounds number (some { entry with file })
      (result.mapError errno, { w with files, host := { w.host with entries } })

/-- Opens a path, with given permissions where that makes a new file. -/
def openAt (w : World) (path : String) (manner : OpenManner) (mode : Nat) : Except Errno (Descriptor × World) :=
  let whole (access : Access) : Except IoError (OpenFile × FileSystem) :=
    match w.files.lookup path with
    | .ok (.directory _) => .error (.os .isdir)
    | .ok _ => w.files.openExisting path access
    | .error _ => (w.files.openCreate path mode).map fun (file, files) => ({ file with access }, files)
  let opened : Except IoError (OpenFile × FileSystem) :=
    match manner with
    | .read => w.files.openExisting path .read
    | .truncate => w.files.openCreate path mode
    | .append => whole .write
    | .readWrite => whole .readWrite
  match opened with
  | .error e => .error (errno e)
  | .ok (file, files) =>
    let (descriptor, host) := w.host.addEntry { file, appends := manner = .append }
    .ok (descriptor, { w with host, files })

/-- The number of the descriptor that a path stands for. -/
def descriptorNumber? (path : String) : Option Nat :=
  match path with
  | "/dev/stdin" => some Task.standardInput
  | "/dev/stdout" => some Task.standardOutput
  | "/dev/stderr" => some Task.standardError
  | _ => if path.startsWith "/dev/fd/" then (String.ofList (path.toList.drop 8)).toNat? else none

/-- Opens what one of the own descriptors stands for once more: a regular file from its start, anything else as the
same. -/
def reopen (w : World) (p : Process) (number : Nat) (manner : OpenManner) : Except Errno (Descriptor × World) :=
  match p.descriptors.lookup number with
  | none => .error .noent
  | some descriptor =>
    match w.standing? descriptor with
    | none => .ok (descriptor, w)
    | some standing =>
      let access : Access := match manner with
        | .read => .read
        | .truncate | .append => .write
        | .readWrite => .readWrite
      let files := match manner, w.files.node standing.node with
        | .truncate, .file mode _ => w.files.setNode standing.node (.file mode .empty)
        | _, _ => w.files
      let (file, files) := files.openNode standing.node access
      let (descriptor, host) := w.host.addEntry { file, appends := manner = .append }
      .ok (descriptor, { w with host, files })

/-- Opens a path for a process. -/
def openFor (w : World) (p : Process) (path : String) (manner : OpenManner) : Except Errno (Descriptor × World) :=
  match descriptorNumber? path with
  | some number => w.reopen p number manner
  | none => w.openAt (Text.ofOctets path) manner (0o666 - (0o666 &&& p.mask))

/-- Opens both ends of a new pipe. -/
def connect (w : World) : Descriptor × Descriptor × World :=
  let (node, files) := w.files.addNode (.channel { readOpen := false, writeOpen := false })
  let (reader, files) := files.openNode node .read
  let (writer, files) := files.openNode node .write
  let (readEnd, host) := w.host.addEntry { file := reader }
  let (writeEnd, host) := host.addEntry { file := writer }
  (readEnd, writeEnd, { w with host, files })

/-- The descriptors that stay open when a process becomes another program: all but those that a shell has put aside. -/
def inherited (descriptors : List (Nat × Descriptor)) : List (Nat × Descriptor) :=
  descriptors.filter fun (number, _) => number < Shell.firstAside || Shell.lastAside < number

/-- Takes the next call of a task; absent while it has to wait. A signal that is noted ends a wait only if no process
can do anything else. -/
def call? (w : World) (isIdle : Bool) (p : Process) : Option World :=
  let goOn (w : World) (p : Process) (task : Task) : Option World := some (w.put { p with task })
  let withDescriptor (number : Nat) (missing : Task) (use : Descriptor → Option World) : Option World :=
    match p.descriptors.lookup number with
    | none => goOn w p missing
    | some descriptor => use descriptor
  match p.task with
  | .exit code => some (w.finish p (.exited (Int32.ofNat code)))
  | .emit number bytes next =>
    if bytes.isEmpty then goOn w p (next none)
    else withDescriptor number (next (some .badf)) fun descriptor =>
      match w.offer bytes descriptor with
      | (.done n, w) => goOn w p (if n = bytes.length then next none else .emit number (bytes.drop n) next)
      | (.failed .pipe, w) =>
        if p.regards.lookup .pipe = some .ignored then goOn w p (next (some .pipe))
        else some (w.finish p (.signaled .pipe))
      | (.failed e, w) => goOn w p (next (some e))
      | (.blocked, _) => none
  | .convert source target noted turn next =>
    withDescriptor source (next (some (.read .badf)) noted) fun descriptor =>
      match w.read chunk descriptor with
      | (.done [], w) => goOn w p (next none noted)
      | (.done bytes, w) =>
        let (noted, bytes) := turn noted bytes
        goOn w p (.emit target bytes fun
          | none => .convert source target noted turn next
          | some e => next (some (.write e)) noted)
      | (.failed e, w) => goOn w p (next (some (.read e)) noted)
      | (.blocked, _) => none
  | .gather number before isEnough next =>
    withDescriptor number (next (.error .badf)) fun descriptor =>
      match w.read chunk descriptor with
      | (.done [], w) => goOn w p (next (.ok before.reverse.flatten))
      | (.done bytes, w) =>
        let chunks := bytes :: before
        goOn w p (if isEnough chunks then next (.ok chunks.reverse.flatten)
          else .gather number chunks isEnough next)
      | (.failed e, w) => goOn w p (next (.error e))
      | (.blocked, _) => none
  | .readBytes number before isEnough next =>
    withDescriptor number (next before.reverse false) fun descriptor =>
      match w.read 1 descriptor with
      | (.done (b :: _), w) =>
        let bytes := b :: before
        goOn w p (if isEnough bytes then next bytes.reverse true else .readBytes number bytes isEnough next)
      | (.done [], w) | (.failed _, w) => goOn w p (next before.reverse false)
      | (.blocked, _) => none
  | .flood number bytes next =>
    goOn w p (.emit number bytes fun
      | none => .flood number bytes next
      | some e => next e)
  | .pause duration next =>
    match p.wakesAt with
    | none => some (w.put { p with wakesAt := some (w.host.clock + duration) })
    | some time => if time ≤ w.host.clock then goOn w { p with wakesAt := none } next else none
  | .openAt number path manner next =>
    match w.openFor p path manner with
    | .error e => goOn w p (next (some e))
    | .ok (descriptor, w) => (goOn w (p.bind number descriptor) (next none)).map settle
  | .duplicate source target next =>
    withDescriptor source (next false) fun descriptor =>
      (goOn w (p.bind target descriptor) (next true)).map settle
  | .close number next => (goOn w (p.unbind number) next).map settle
  | .connect reader writer next =>
    let (readEnd, writeEnd, w) := w.connect
    goOn w ((p.bind reader readEnd).bind writer writeEnd) next
  | .fork child next =>
    let (pid, host) := w.host.add fun pid =>
      { pid, parent := p.pid, group := p.group, descriptors := p.descriptors, task := child
        regards := p.inheritedRegards, directory := p.directory, mask := p.mask }
    goOn { w with host } p (next pid)
  | .await pid next =>
    match w.host.processes.find? fun q => q.pid = pid ∧ q.parent = p.pid with
    | none => goOn w p (next (.exited 127))
    | some child =>
      match child.status with
      | none => none
      | some status => goOn { w with host := w.host.remove pid } p (next status)
  | .awaitOrNotice pid next =>
    match w.host.processes.find? fun q => q.pid = pid ∧ q.parent = p.pid with
    | none => goOn w p (next (some (.exited 127)))
    | some child =>
      match child.status with
      | some status => goOn { w with host := w.host.remove pid } p (next (some status))
      | none => if isIdle && !p.noted.isEmpty then goOn w p (next none) else none
  | .poll pid next =>
    match w.host.processes.find? fun q => q.pid = pid ∧ q.parent = p.pid with
    | none => goOn w p (next (some (.exited 127)))
    | some child =>
      match child.status with
      | some status => goOn { w with host := w.host.remove pid } p (next (some status))
      | none => goOn w p (next none)
  | .regard signal regard next => goOn w (p.setRegard signal regard) next
  | .takeNoted next => goOn w { p with noted := p.noted.drop 1 } (next p.noted.head?)
  | .execute path arguments environment next =>
    match Image.load w.files path arguments environment with
    | .error e => goOn w p (next e)
    | .ok image =>
      let task := Programs.task image.program (image.arguments.headD "") (image.arguments.drop 1) environment
      let descriptors := inherited p.descriptors
      (goOn w { p with descriptors, regards := p.inheritedRegards, noted := [] } task).map settle
  | .send target signal next =>
    let (isThere, host) := w.host.signal (if target = 0 then -p.group else target) signal
    let p := (host.process? p.pid).getD p
    goOn { w with host } p (next isThere)
  | .look next => goOn w p (next w.files p.pid p.parent)
  | .enter path next =>
    match w.files.locate (Text.ofOctets path) with
    | .ok (.node name id) =>
      if w.files.isDirectory id then goOn w { p with directory := some name } (next none)
      else goOn w p (next (some .notdir))
    | .ok (.absent _) => goOn w p (next (some .noent))
    | .error e => goOn w p (next (some (errno e)))
  | .alter change next =>
    match change w.files with
    | .error e => goOn w p (next (some e))
    | .ok files => goOn { w with files } p (next none)
  | .rewind number n next =>
    match p.descriptors.lookup number with
    | some descriptor => goOn (w.reposition (· - n) descriptor) p next
    | none => goOn w p next
  | .seek number position next =>
    match p.descriptors.lookup number with
    | some descriptor =>
      goOn (w.reposition (fun _ => position) descriptor) p (next (w.standing? descriptor).isSome)
    | none => goOn w p (next false)
  | .measure number next => goOn w p (next ((p.descriptors.lookup number).bind w.standing?))
  | .detach next =>
    if p.group = p.pid then goOn w p (next false) else goOn w { p with group := p.pid } (next true)
  | .mask bits next => goOn w { p with mask := bits } (next p.mask)

/-- Sees paths from another working directory. -/
def within (w : World) (directory : List String) : World :=
  { w with files := { w.files with workingDirectory := directory } }

/-- A step of one process; absent when it has ended, is stopped or has to wait. -/
def stepOf? (w : World) (isIdle : Bool) (p : Process) : Option World :=
  let home := w.files.workingDirectory
  match p.nextSignal? with
  | some signal => some (w.deliver p signal)
  | none =>
    if p.isLive && !p.isStopped then ((w.within (p.directory.getD home)).call? isIdle p).map (·.within home) else none

/-- A step of the first process that can take one. -/
def step? (w : World) : Option World :=
  match w.host.processes.findSome? (w.stepOf? false) with
  | some w => some w
  | none => w.host.processes.findSome? (w.stepOf? true)

end World

/-- Lets time pass up to the first end of a pause; absent when no process is in one. -/
def pass? (m : Machine) : Option Machine :=
  let times := (m.processes.filter fun p => p.isLive && !p.isStopped).filterMap (·.wakesAt)
  times.min?.map fun time => { m with clock := max m.clock time }

end BatchJob.Machine
