import Assay.FileTree.Access
import Assay.Text.Raw

/-! # The machine -/

namespace Assay

structure Access where
  (reads writes appends : Bool := false)

inductive Stream where
  | source (xs : Bytes)
  | sink (pieces : List Bytes) (room : Nat) (overflows : Bool)
  | reader (pipe : Nat)
  | writer (pipe : Nat)
  | file (place : Place) (off : Nat) (access : Access)
  | orphan (content : Bytes) (off : Nat) (access : Access)
  | device (device : Device)

structure Pipe where
  front : Bytes := []
  back : List Bytes := []
  size : Nat := 0

structure Job where
  (pid parent : Nat)
  cwd : Place
  environment : List (Raw × Raw) := []
  descriptors : List (Nat × Nat) := []
  (saved ignored caught : List Nat := [])
  stopped : Bool := false
  umask : Nat := 0o022
  niceness : Int := 0
  limits : List ((Char × Bool) × Option Nat) := []
  busy : Nat := 0

inductive Ending where
  | exited (code : Nat)
  | killed (signal : Nat)
  deriving DecidableEq

structure Ended where
  (pid parent : Nat)
  ending : Ending

structure Note where
  changed : Int := 0
  accessed : Option Int := none
  (owner group : Nat := 0)

structure Addition where
  place : Place
  pieces : List Bytes
  size : Nat

structure Machine where
  files : FileTree
  addition : Option Addition := none
  notes : List (Place × Note) := []
  twins : List (List Place) := []
  clock : Nat := 0
  steps : Nat
  streams : Array Stream := #[]
  pipes : Array Pipe := #[]
  fifos : List (Place × Nat) := []
  nextPid : Nat := 1000
  jobs : List Job := []
  ended : List Ended := []
  signals : List (Nat × Nat) := []

namespace Job

variable (job : Job)

def stream? (fd : Nat) : Option Nat := job.descriptors.lookup fd

def connect (fd stream : Nat) : Job :=
  { job with
    descriptors := (fd, stream) :: job.descriptors.filter fun q => q.1 ≠ fd }

def connectInput (stream : Nat) : Job := job.connect 0 stream

def disconnect (fd : Nat) : Job :=
  { job with descriptors := job.descriptors.filter fun q => q.1 ≠ fd }

def streams : List Nat := job.descriptors.map (·.2) ++ job.saved

def limit? (c : Char) (isHighest : Bool) : Option Nat := (job.limits.lookup (c, isHighest)).join

def busyLimit? : Option (Nat × Nat) := do
  let limit ← job.limit? 't' false
  let sig := if job.limit? 't' true = some limit then 9 else 24
  some (max limit 1 * 1000000, sig)

def fromEnvironment? (name : String) : Option Raw := job.environment.lookup name.toList

end Job

namespace Pipe

def capacity : Nat := 65536

def push (pipe : Pipe) (bs : Bytes) (k : Nat) : Pipe :=
  { pipe with back := bs :: pipe.back, size := pipe.size + k }

def pull (pipe : Pipe) (k : Nat) : Bytes × Pipe :=
  let front := pipe.front ++ pipe.back.reverse.flatten
  (front.take k, { front := front.drop k, back := [], size := pipe.size - k })

end Pipe

namespace Machine

/-! ## Notes -/

variable (m : Machine) (place : Place)

def note : Note := (m.notes.lookup place).getD {}

def setNote (note : Note) : Machine :=
  { m with notes := (place, note) :: m.notes.filter fun q => q.1 ≠ place }

def twinsOf : List Place := (m.twins.find? (·.contains place)).getD [place]

def tree (m : Machine) : FileTree :=
  match m.addition with
  | none => m.files
  | some added =>
    match m.files.get? added.place with
    | some (.file content mode) =>
      let e := Entry.file (content ++ added.pieces.reverse.flatten) mode
      (m.twinsOf added.place).foldl (fun tree place => tree.put place e) m.files
    | _ => m.files

def settled : Machine :=
  match m.addition with
  | none => m
  | some _ => { m with files := m.tree, addition := none }

/-! ## Jobs -/

variable (pid : Nat)

def job? : Option Job := m.jobs.find? (·.pid = pid)

def changeJob (change : Job → Job) : Machine :=
  { m with jobs := m.jobs.map fun job => if job.pid = pid then change job else job }

def addJob (model : Job) : Nat × Machine :=
  (m.nextPid, { m with
    nextPid := m.nextPid + 1
    jobs := { model with pid := m.nextPid, parent := model.pid, busy := 0 } :: m.jobs })

def finish (ending : Ending) : Machine :=
  let m := m.settled
  match m.job? pid with
  | none => m
  | some job =>
    let others := m.jobs.filter (·.pid ≠ pid)
    { m with
      jobs := others.map fun y => if y.parent = pid then { y with parent := 1 } else y
      ended := (m.ended.filter (·.parent ≠ pid)) ++ [{ pid, parent := job.parent, ending }]
      signals := m.signals.filter fun q => q.1 ≠ pid }

def takeEnded? : Option (Ending × Machine) :=
  (m.ended.find? (·.pid = pid)).map fun hit =>
    (hit.ending, { m with ended := m.ended.filter (·.pid ≠ pid) })

def takeChild? (parent : Nat) : Option (Ended × Machine) :=
  (m.ended.find? (·.parent = parent)).map fun hit =>
    (hit, { m with ended := m.ended.filter (·.pid ≠ hit.pid) })

def signal (pid n : Nat) : Bool × Machine :=
  match m.job? pid with
  | none => (m.ended.any (·.pid = pid), m)
  | some job =>
    if n = 0 || (job.ignored.contains n && n ≠ 9 && n ≠ 19) then (true, m)
    else if n = 18 then
      (true, { m.changeJob pid ({ · with stopped := false }) with
        signals := m.signals ++ [(pid, n)] })
    else (true, { m with signals := m.signals ++ [(pid, n)] })

def takeSignals : List Nat × Machine :=
  let (mine, others) := m.signals.partition (·.1 = pid)
  (mine.map (·.2), { m with signals := others })

/-! ## Changing files -/

def isSame (l r : Place) : Bool := l = r || (m.twinsOf l).contains r

def stamp (time : Int) : Machine :=
  (m.twinsOf place).foldl (fun m place => m.setNote place { m.note place with changed := time }) m

def putFile (e : Entry) : Machine :=
  let isNew := (m.tree.get? place).isNone
  let m := { m with
    files := (m.twinsOf place).foldl (fun t place => t.put place e) m.tree
    addition := none }
  let m := m.stamp place m.clock
  if isNew then m.stamp place.dropLast m.clock else m

def setMode (m : Machine) (place : Place) (mode : Nat) : Machine :=
  match m.tree.get? place with
  | some (.file content _) =>
    { m with
      files := (m.twinsOf place).foldl (fun t place => t.put place (.file content mode)) m.tree
      addition := none }
  | some .directory | some (.device _) => { m with files := m.files.setMode place mode }
  | _ => m

def extend (bs : Bytes) (size : Nat) : Machine :=
  let m := match m.addition with
    | some added =>
      if added.place = place then
        { m with addition := some { added with pieces := bs :: added.pieces, size } }
      else
        { m with
          files := m.tree
          addition := some { place, pieces := [bs], size } }
    | none => { m with addition := some { place, pieces := [bs], size } }
  m.stamp place m.clock

def addTwin (src t : Place) (e : Entry) : Machine :=
  let grp := t :: m.twinsOf src
  let note := m.note src
  { m.putFile t e with
    twins := grp :: m.twins.filter fun places => !places.contains src }.setNote t note

/-! ## Streams -/

def addStream (stream : Stream) : Nat × Machine :=
  (m.streams.size, { m with streams := m.streams.push stream })

variable (i : Nat)

def setStream (stream : Stream) : Machine := { m with streams := m.streams.setIfInBounds i stream }

def addPipe : (Nat × Nat) × Machine :=
  let pipe := m.pipes.size
  let m := { m with pipes := m.pipes.push {} }
  let (src, m) := m.addStream (.reader pipe)
  let (t, m) := m.addStream (.writer pipe)
  ((src, t), m)

def isHeld (test : Stream → Bool) : Bool :=
  m.jobs.any fun job => job.streams.any fun i => m.streams[i]?.any test

def hasWriter (pipe : Nat) : Bool :=
  m.isHeld fun
    | .writer y => y = pipe
    | _ => false

def hasReader (pipe : Nat) : Bool :=
  m.isHeld fun
    | .reader y => y = pipe
    | _ => false

def fileSlice (content : Bytes) (off k : Nat) : Bytes := (content.drop off).take k

def readNow? (i k : Nat) : Option (Except SysFault Bytes × Machine) :=
  match m.streams[i]? with
  | some (.source xs) => some (.ok (xs.take k), m.setStream i (.source (xs.drop k)))
  | some (.reader pipe) =>
    let held := m.pipes[pipe]?.getD {}
    if held.size > 0 then
      let (bs, held) := held.pull k
      some (.ok bs, { m with pipes := m.pipes.setIfInBounds pipe held })
    else if m.hasWriter pipe then none
    else some (.ok [], m)
  | some (.file place off access) =>
    if !access.reads then some (.error .badDescriptor, m)
    else
      let m := m.settled
      match m.files.get? place with
      | some .directory => some (.error .isDirectory, m)
      | some (.file content _) =>
        let bs := fileSlice content off k
        some (.ok bs, m.setStream i (.file place (off + bs.length) access))
      | _ => some (.ok [], m)
  | some (.orphan content off access) =>
    if !access.reads then some (.error .badDescriptor, m)
    else
      let bs := fileSlice content off k
      some (.ok bs, m.setStream i (.orphan content (off + bs.length) access))
  | some (.device .zero) | some (.device .full) => some (.ok (List.replicate k 0), m)
  | some (.device _) => some (.ok [], m)
  | some (.sink _ _ _) | some (.writer _) | none => some (.error .badDescriptor, m)

def patch (content : Bytes) (off : Nat) (bs : Bytes) : Bytes :=
  let gap := List.replicate (off - content.length) 0
  content.take off ++ gap ++ bs ++ content.drop (off + bs.length)

def writeNow? (bs : Bytes) : Option (Except SysFault Bytes × Machine) :=
  match m.streams[i]? with
  | some (.sink ps room overflows) =>
    if room = 0 then some (.ok [], m.setStream i (.sink ps 0 (overflows || !bs.isEmpty)))
    else
      let kept := bs.take room
      let k := kept.length
      some (.ok [], m.setStream i
        (.sink (kept :: ps) (room - k) (overflows || (k = room && !(bs.drop room).isEmpty))))
  | some (.writer pipe) =>
    let held := m.pipes[pipe]?.getD {}
    if !m.hasReader pipe then some (.error .brokenPipe, m)
    else if held.size ≥ Pipe.capacity then none
    else
      let room := Pipe.capacity - held.size
      let taken := bs.take room
      some (.ok (bs.drop room), { m with
        pipes := m.pipes.setIfInBounds pipe (held.push taken taken.length) })
  | some (.file place off access) =>
    if !access.writes then some (.error .badDescriptor, m)
    else
      let added? := (m.addition.filter (·.place = place)).map (·.size)
      match added?.filter fun k => access.appends || off = k with
      | some start =>
        let k := start + bs.length
        some (.ok [], (m.extend place bs k).setStream i (.file place k access))
      | none =>
        match m.tree.get? place with
        | some (.file content mode) =>
          let len := content.length
          let start := if access.appends then len else off
          let k := start + bs.length
          let m := if start = len then m.extend place bs k
            else m.putFile place (.file (patch content start bs) mode)
          some (.ok [], m.setStream i (.file place k access))
        | _ => some (.ok [], m)
  | some (.orphan content off access) =>
    if !access.writes then some (.error .badDescriptor, m)
    else
      let start := if access.appends then content.length else off
      some (.ok [], m.setStream i (.orphan (patch content start bs) (start + bs.length) access))
  | some (.device .full) => some (if bs.isEmpty then .ok [] else .error .noSpace, m)
  | some (.device _) => some (.ok [], m)
  | some (.source _) | some (.reader _) | none => some (.error .badDescriptor, m)

variable (job : Job)

def fileRoom? (i : Nat) : Option Nat := do
  let limit ← job.limit? 'f' false
  match m.streams[i]? with
  | some (.file place off access) =>
    let start := if access.appends then
      match m.tree.get? place with
        | some (.file content _) => content.length
        | _ => off
      else off
    some (limit - start)
  | _ => none

def unread (i k : Nat) : Machine :=
  match m.streams[i]? with
  | some (.file place off access) => m.setStream i (.file place (off - k) access)
  | some (.orphan content off access) => m.setStream i (.orphan content (off - k) access)
  | _ => m

def written : Bytes × Bool :=
  match m.streams[i]? with
  | some (.sink ps _ overflows) => (ps.reverse.flatten, overflows)
  | _ => ([], false)

/-! ## Files -/

def eraseFiles : Machine :=
  let stays (y : Place) : Bool := !place.isPrefixOf y
  let post : Machine := { m with
    files := m.tree.erase place
    addition := none
    notes := m.notes.filter fun q => stays q.1
    twins := (m.twins.map (·.filter stays)).filter (·.length > 1)
    streams := m.streams.map fun stream =>
      match stream with
      | .file y off access =>
        if stays y then stream
        else
          match (m.twinsOf y).find? stays with
          | some twin => .file twin off access
          | none =>
            let content := match m.tree.get? y with
              | some (.file content _) => content
              | _ => []
            .orphan content off access
      | stream => stream }
  post.stamp place.dropLast m.clock

def moveFiles (src t : Place) : Machine :=
  let m := if src = t then m else m.eraseFiles t
  let move (place : Place) : Place :=
    if src.isPrefixOf place then t ++ place.drop src.length else place
  { m with
    files := m.tree.moveAll move
    addition := none
    notes := m.notes.map fun (place, note) => (move place, note)
    twins := m.twins.map (·.map move)
    streams := m.streams.map fun stream =>
      match stream with
      | .file place off access => .file (move place) off access
      | stream => stream }

structure Opening where
  access : Access
  (creates truncates excludes : Bool := false)

namespace Opening

def toRead : Opening := { access := { reads := true } }

def toWrite : Opening := { access := { writes := true }, creates := true, truncates := true }

def toAppend : Opening := { access := { writes := true, appends := true }, creates := true }

def toChange : Opening := { access := { reads := true, writes := true }, creates := true }

end Opening

def fifo : Nat × Machine :=
  match m.fifos.lookup place with
  | some pipe => (pipe, m)
  | none =>
    (m.pipes.size, { m with
      pipes := m.pipes.push {}
      fifos := (place, m.pipes.size) :: m.fifos })

def seen? (e : Entry) : Option Entry :=
  match e with
  | .device (.descriptor n) => do
    match ← m.streams[← job.stream? n]? with
    | .file place _ _ => m.tree.get? place
    | .orphan content _ _ => some (.file content Entry.plainMode)
    | .device device => some (.device device)
    | _ => some (.device .fifo)
  | e => some e

def openPlace (opening : Opening) (place : Place)
    (e : Entry) : Except SysFault (Nat × Machine) :=
  match e with
  | .directory =>
    if opening.access.writes then .error .isDirectory
    else if !m.files.allows place 0o400 then .error .denied
    else .ok (m.addStream (.file place 0 opening.access))
  | .link _ => .error .tooManyLinks
  | .file _ mode =>
    let m := if opening.truncates then m.putFile place (.file [] mode) else m
    .ok (m.addStream (.file place 0 opening.access))
  | .device (.descriptor n) =>
    match job.stream? n with
    | none => .error .notFound
    | some i =>
      match m.streams[i]? with
      | some (.file place _ _) =>
        let m := match opening.truncates, m.tree.get? place with
          | true, some (.file _ mode) => m.putFile place (.file [] mode)
          | _, _ => m
        .ok (m.addStream (.file place 0 opening.access))
      | _ => .ok (i, m)
  | .device .fifo =>
    let (pipe, m) := m.fifo place
    .ok (m.addStream (if opening.access.writes then .writer pipe else .reader pipe))
  | .device device => .ok (m.addStream (.device device))

def openPath (opening : Opening) (p : Path) : Except SysFault (Nat × Machine) := do
  let m := m.settled
  let t ← if opening.creates then m.files.resolveOrMake job.cwd p
    else m.files.resolve .follow job.cwd p
  match t with
  | .found place e =>
    let bits := (if opening.access.reads then 0o400 else 0)
      + (if opening.access.writes then 0o200 else 0)
    if opening.excludes && e.isRegular then .error .exists
    else if e ≠ .directory && !m.files.permits place bits e then .error .denied
    else m.openPlace job opening place e
  | .absent dir name =>
    if !opening.creates then .error .notFound
    else if !m.files.allows dir 0o200 then .error .denied
    else
      let place := dir ++ [name]
      let mode := 0o666 &&& (0o777 ^^^ job.umask)
      .ok ((m.putFile place (.file [] mode)).addStream (.file place 0 opening.access))

end Machine

end Assay
