import ByteStreams.Input.Reader
import ByteStreams.Input.Scripted
import ByteStreams.Input.View

/-!
# Streams that refer to each other

Streams live under names in a list, the newest first. A stream refers by name only to streams that
were there before it, so that a name inside a stream is looked up in the rest of the list and every
operation is a recursion on the list. Beside readers, scripted files and views there are decorators
that draw a delay before each read (`slow`), and shared files, which count the handles that
are held on them.

* `isClosed` and `copiesNothing` ask a stream about itself;
* `call` answers any call and gives the streams after it, with the clocks that were drawn from.
-/

namespace ByteStreams

/-- One stream. -/
inductive Node where
  | reader (r : Reader)
  | scripted (f : ScriptedFile)
  /-- A file on which so many handles are held. -/
  | shared (file : Nat) (handles : Nat)
  /-- A view, which holds a handle on a shared file until it is closed. -/
  | view (v : View)
  /-- A stream whose reads wait for a delay drawn from a clock. -/
  | slow (inner clock : Nat)

/-- Streams under their names, the newest first. -/
abbrev Streams := List (Nat × Node)

/-- Why a call has no answer. -/
inductive Fault where
  /-- The stream failed. -/
  | error (e : Error)
  /-- A position left the range of positions, and the call broke off there. -/
  | overflow
  deriving DecidableEq, Repr

/-- The same fault, an error told as one of another operation. -/
def Fault.during (context : Context) : Fault → Fault
  | error e => error (e.withContext context)
  | overflow => overflow

/-- What comes of a call: its result, the streams after it, and the clocks drawn from, in order. -/
structure Served (α : Type) where
  result : Except Fault α
  streams : Streams
  draws : List Nat := []

namespace Served

variable {α β : Type}

/-- A stream's own answer, with no draws. -/
def ofResult (result : Except Error α) (streams : Streams) : Served α :=
  ⟨result.mapError .error, streams, []⟩

/-- The same with a newer stream before the others. -/
def under (s : Served α) (entry : Nat × Node) : Served α :=
  { s with streams := entry :: s.streams }

/-- The same after a draw from a clock. -/
def after (s : Served α) (clock : Nat) : Served α := { s with draws := clock :: s.draws }

/-- What a view makes of its file's answer; a fault leaves the view as it was. -/
def through (s : Served β) (key : Nat) (v : View) (resume : β → Option (α × View)) : Served α :=
  match s.result with
  | .error fault => ⟨.error fault, (key, .view v) :: s.streams, s.draws⟩
  | .ok b =>
    match resume b with
    | some (a, next) => ⟨.ok a, (key, .view next) :: s.streams, s.draws⟩
    | none => ⟨.error .overflow, (key, .view v) :: s.streams, s.draws⟩

/-- The same with another answer. -/
def map (s : Served α) (f : α → β) : Served β :=
  { s with result := s.result.map f }

end Served

namespace Streams

/-- The stream of a name. -/
def find? : Streams → Nat → Option Node
  | [], _ => none
  | (key, node) :: rest, name => if key = name then some node else find? rest name

/-- Whether a stream is closed. A name that stands for nothing is a closed stream. -/
def isClosed : Streams → Nat → Bool
  | [], _ => true
  | (key, node) :: rest, name =>
    if key = name then
      match node with
      | .reader r => r.closed
      | .scripted f => f.closed
      | .shared file _ => isClosed rest file
      | .view v => match v.file with
        | none => true
        | some file => isClosed rest file
      | .slow inner _ => isClosed rest inner
    else isClosed rest name

/-- Whether a stream answers reads with slices of memory that is there already. -/
def copiesNothing : Streams → Nat → Bool
  | [], _ => false
  | (key, node) :: rest, name =>
    if key = name then
      match node with
      | .reader _ => true
      | .scripted _ => false
      | .shared file _ => copiesNothing rest file
      | .view v => match v.file with
        | none => false
        | some file => copiesNothing rest file
      | .slow inner _ => copiesNothing rest inner
    else copiesNothing rest name

/-- The streams with another stream under a name that is in use. -/
def replace : Streams → Nat → Node → Streams
  | [], _, _ => []
  | (key, old) :: rest, name, new =>
    if key = name then (key, new) :: rest else (key, old) :: replace rest name new

/-- The number of handles held on a shared file. -/
def handles (streams : Streams) (name : Nat) : Nat :=
  match streams.find? name with
  | some (.shared _ count) => count
  | _ => 0

/-- The streams with the number of handles on a shared file changed. -/
def setHandles (change : Nat → Nat) : Streams → Nat → Streams
  | [], _ => []
  | (key, node) :: rest, name =>
    if key = name then
      match node with
      | .shared file count => (key, .shared file (change count)) :: rest
      | _ => (key, node) :: rest
    else (key, node) :: setHandles change rest name

/-- One more handle on a shared file. -/
def retain (streams : Streams) (name : Nat) : Streams := setHandles (· + 1) streams name

/-- One handle less on a shared file, which stays as it is even if that was the last. -/
def release (streams : Streams) (name : Nat) : Streams := setHandles (· - 1) streams name

/-- The answer to a call on the stream of a name.

A shared file hands every call on. A slow stream draws from its clock when the call reads, and hands
the call on; it skips by reading. A view follows its plan; closing it closes the file first if the
view holds the only handle, and then gives the handle up. Whatever stands above a stream whose call
breaks off hands that on. -/
def call : Streams → Nat → {α : Type} → InputCall α → Served α
  | [], _, _, c => .ofResult (c.whenClosed false) []
  | (key, node) :: rest, name, _, c =>
    if key = name then
      match node with
      | .reader r =>
        let (result, r) := r.call c
        .ofResult result ((key, .reader r) :: rest)
      | .scripted f =>
        let (result, f) := f.call c
        .ofResult result ((key, .scripted f) :: rest)
      | .shared file _ => (call rest file c).under (key, node)
      | .slow inner clock =>
        match c with
        | .advance count =>
          (((call rest inner (.read count)).map Buffer.length).after clock).under (key, node)
        | c =>
          let served := call rest inner c
          (if c.isReading then served.after clock else served).under (key, node)
      | .view v =>
        match v.file with
        | none => .ofResult (c.whenClosed false) ((key, node) :: rest)
        | some file =>
          match c with
          | .close =>
            let served : Served Unit :=
              if handles rest file = 1 then call rest file .close else .ofResult (.ok ()) rest
            ⟨served.result,
              (key, .view { v with file := none }) :: release served.streams file, served.draws⟩
          | c =>
            match v.plan c (isClosed rest file) (copiesNothing rest file) with
            | .answer result => .ofResult result ((key, node) :: rest)
            | .move result next => .ofResult (.ok result) ((key, .view next) :: rest)
            | .readAt position count resume =>
              (call rest file (.readAt position count)).through key v resume
            | .readAtInto position target resume =>
              (call rest file (.readAtInto position target)).through key v resume
            | .overflow => ⟨.error .overflow, (key, node) :: rest, []⟩
    else (call rest name c).under (key, node)

end Streams

end ByteStreams
