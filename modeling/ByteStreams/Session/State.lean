import ByteStreams.Block
import ByteStreams.Input.Chunks
import ByteStreams.Input.Sharing
import ByteStreams.Latency.Delays
import ByteStreams.Output.Append
import ByteStreams.Output.Counter
import ByteStreams.Output.Fixed
import ByteStreams.Session.Value

/-!
# The state of a session

A session keeps objects under ids. Buffers, blocks and output streams are kept as values. Input
streams and clocks refer to each other and may outlive the ids they were made under, so they are
kept apart under numbers that are used once, and an object only says which is meant. An action
(`SessionM`) changes the session and may fail; what it changed before it failed stays changed.
-/

namespace ByteStreams

/-- What an id stands for. -/
inductive Session.Object where
  | buffer (b : Buffer)
  | block (b : Block)
  /-- An append stream, with the id of the block that it borrows. -/
  | append (s : AppendStream) (lender : Option String)
  /-- A fixed writer; if its target was a block, `spare` is the room that the block had past it. -/
  | fixed (w : FixedWriter) (spare : Option Nat)
  | counter (s : CountingSink)
  | stream (name : Nat)
  /-- A handle on a shared file; `reader` is what the file stands for if that is a reader that
  nothing else refers to. -/
  | handle (file : Nat) (reader : Option Nat)
  | chunks (c : Chunks)
  | clock (name : Nat)

/-- What an object answers: a value, and with some commands an object that is given out. -/
structure Session.Answer where
  value : Value := .nothing
  made : Option Object := none

namespace Session.Answer

/-- A value alone. -/
def of (value : Value) : Answer := { value }

/-- A description, on one line or on several. -/
def describing (d : Text.Description) (indented : Bool) : Answer :=
  of (.text (if indented then d.indented 0 else d.compact))

/-- A buffer, which is given out. -/
def ofBuffer (b : Buffer) : Answer := ⟨.buffer b, some (.buffer b)⟩

/-- A buffer, if there is one. -/
def ofBuffer? : Option Buffer → Answer
  | some b => ofBuffer b
  | none => {}

end Session.Answer

/-- The objects of a session and what they refer to. -/
structure Session where
  allocator : Allocator
  objects : List (String × Session.Object) := []
  streams : Streams := []
  clocks : List (Nat × Clock) := []
  /-- The next number to be used. Zero is the owner of all memories that the session makes. -/
  next : Nat := 1

namespace Session

/-- The object of an id. -/
def find? (s : Session) (id : String) : Option Object := s.objects.lookup id

/-- The session without an object. -/
def erase (s : Session) (id : String) : Session :=
  { s with objects := s.objects.filter fun entry => entry.1 ≠ id }

/-- The session with an object in place of the one that the id stood for. -/
def put (s : Session) (id : String) (o : Object) : Session :=
  { s with objects := (id, o) :: (s.erase id).objects }

/-- The clock of a name. -/
def clock? (s : Session) (name : Nat) : Option Clock := s.clocks.lookup name

/-- The session after draws from its clocks. -/
def drawn (s : Session) (draws : List Nat) : Session :=
  { s with clocks := s.clocks.map fun (name, clock) => (name, clock.advance (draws.count name)) }

/-- How the stream of a name stands. -/
def standing (s : Session) (name : Nat) : Standing :=
  ⟨s.streams.isClosed name, (s.streams.call name .tell).result.toOption⟩

/-- What the object of an id shows of itself. A buffer shows nothing. -/
def status? (s : Session) (id : String) : Option Status :=
  match s.find? id with
  | none | some (.buffer _) => none
  | some (.block b) => some (.block b.bytes)
  | some (.append a _) =>
    some (.append ⟨a.closed, (a.call s.allocator .tell).1.toOption⟩ a.capacity)
  | some (.fixed w _) => some (.fixed ⟨w.closed, (w.call .tell).1.toOption⟩ w.target)
  | some (.counter c) => some (.counter ⟨c.closed, (c.call .tell).1.toOption⟩ c.written)
  | some (.stream name) | some (.handle name _) => some (.input (s.standing name))
  | some (.chunks c) => some (.chunks (c.source.map s.standing))
  | some (.clock name) => some (.clock ((s.clock? name).map (·.draws) |>.getD 0))

@[simp] theorem find?_put (s : Session) (id : String) (o : Object) :
    (s.put id o).find? id = some o := by
  simp [put, find?]

end Session

/-- A change of a session that answers or fails. -/
abbrev SessionM := ExceptT Session.Failure (StateM Session)

namespace SessionM

open Session

variable {α : Type}

/-- Answers as a stream does. -/
def ofStream : Except Error α → SessionM α
  | .ok a => pure a
  | .error e => throw (.stream e)

/-- Answers as a channel does. -/
def ofChannel : Except ChannelError α → SessionM α
  | .ok a => pure a
  | .error e => throw (.channel e)

/-- Answers if there is an answer. -/
def ofOption (otherwise : Failure) : Option α → SessionM α
  | some a => pure a
  | none => throw otherwise

/-- An action that has nothing to tell. -/
def perform (action : SessionM Unit) : SessionM Answer := do
  action
  return {}

/-- A number that was not used before. -/
def fresh : SessionM Nat :=
  modifyGet fun s => (s.next, { s with next := s.next + 1 })

/-- The tag of a new memory. -/
def freshTag : SessionM Tag := return ⟨0, ← fresh⟩

/-- The object of an id. -/
def object (id : String) : SessionM Object := do ofOption .misuse ((← get).find? id)

/-- The object of an id, which must be a buffer. -/
def buffer (id : String) : SessionM Buffer := do
  match ← object id with
  | .buffer b => return b
  | _ => throw .misuse

/-- The object of an id, which must be a block. -/
def block (id : String) : SessionM Block := do
  match ← object id with
  | .block b => return b
  | _ => throw .misuse

/-- The object of an id, which must be a stream; the answer is its name. -/
def stream (id : String) : SessionM Nat := do
  match ← object id with
  | .stream name => return name
  | _ => throw .misuse

/-- The stream of a name. -/
def node (name : Nat) : SessionM Node := do ofOption .misuse ((← get).streams.find? name)

/-- Lets an id stand for an object. -/
def keep (id : String) (o : Object) : SessionM Unit := modify (·.put id o)

/-- Lets an id stand for nothing. -/
def forget (id : String) : SessionM Unit := modify (·.erase id)

/-- Changes the streams. -/
def modifyStreams (change : Streams → Streams) : SessionM Unit :=
  modify fun s => { s with streams := change s.streams }

/-- Keeps a new object under an id. A handle counts from then on. -/
def adopt (id : String) (o : Object) : SessionM Unit := do
  keep id o
  match o with
  | .handle file _ => modifyStreams (·.retain file)
  | _ => return

/-- A new stream; the answer is its name. -/
def newStream (n : Node) : SessionM Nat := do
  let name ← fresh
  modifyStreams ((name, n) :: ·)
  return name

/-- A new clock; the answer is its name. -/
def newClock (delays : Delays) : SessionM Nat := do
  let name ← fresh
  modify fun s => { s with clocks := (name, { delays }) :: s.clocks }
  return name

/-- Answers as a call on the streams does, with what the call did to streams and clocks. -/
def serve (served : Served α) : SessionM α := do
  modify fun s => { s.drawn served.draws with streams := served.streams }
  match served.result with
  | .ok a => return a
  | .error (.error e) => throw (.stream e)
  | .error .overflow => throw .contract

/-- A call on the stream of a name. -/
def ask (name : Nat) (c : InputCall α) : SessionM α := do serve ((← get).streams.call name c)

end SessionM

end ByteStreams
