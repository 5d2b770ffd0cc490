import ByteStreams.Input.Streams

/-!
# Reading in chunks

`Chunks` reads a stream to its end in chunks of one size, each by one read. The end is the first
empty read; the stream is let go of then, and every later chunk is the end again. A stream closed
before its end, or one that fails, does not end the sequence. A loop gets the chunks as items
(`nextItem`).
-/

namespace ByteStreams

/-- A sequence of chunks; its stream is gone once the end is reached. -/
structure Chunks where
  source : Option Nat
  blockSize : Nat
  deriving DecidableEq, Repr

namespace Chunks

/-- The chunks of an open stream, from its cursor on. -/
def ofStream (streams : Streams) (source blockSize : Nat) : Except Error Chunks :=
  if streams.isClosed source then
    .error (.invalid .iterate "cannot iterate over a closed stream")
  else if blockSize = 0 then
    .error (.invalid .iterate "block size must be non-zero")
  else
    .ok ⟨some source, blockSize⟩

/-- The next chunk, or nothing at the end, with the sequence after it. -/
def next (c : Chunks) (streams : Streams) : Served (Option Buffer) × Chunks :=
  match c.source with
  | none => (.ofResult (.ok none) streams, c)
  | some name =>
    if streams.isClosed name then
      (.ofResult (.error (.invalid .iterate "stream closed during iteration")) streams, c)
    else
      let served := streams.call name (.read c.blockSize)
      match served.result with
      | .error fault => (⟨.error (fault.during .iterate), served.streams, served.draws⟩, c)
      | .ok b =>
        if b.length = 0 then
          (⟨.ok none, served.streams, served.draws⟩, { c with source := none })
        else
          (⟨.ok (some b), served.streams, served.draws⟩, c)

/-- Whether the end has been reached. -/
def isDone (c : Chunks) : Bool := c.source.isNone

/-- What a loop over the chunks makes of an answer: the end ends the loop, and a fault is an item as
a chunk is one. -/
def item : Except Fault (Option Buffer) → Option (Except Fault Buffer)
  | .ok none => none
  | .ok (some b) => some (.ok b)
  | .error fault => some (.error fault)

/-- The next item of a loop over the chunks, with the streams, the draws and the sequence after
it. -/
def nextItem (c : Chunks) (streams : Streams) :
    Option (Except Fault Buffer) × Streams × List Nat × Chunks :=
  let (served, later) := c.next streams
  (item served.result, served.streams, served.draws, later)

/-- At most this many reads answer with bytes, as long as no cursor is moved back. -/
def supply : Streams → Nat
  | [] => 0
  | (_, .reader r) :: rest => r.buffer.length + supply rest
  | (_, .scripted f) :: rest => f.answers.length + supply rest
  | (_, .shared ..) :: rest | (_, .view _) :: rest | (_, .slow ..) :: rest => supply rest

/-- Up to `limit` chunks, until the end or the first fault. -/
def take (limit : Nat) (c : Chunks) (streams : Streams) : Served (List Buffer) × Chunks :=
  match limit with
  | 0 => (.ofResult (.ok []) streams, c)
  | limit + 1 =>
    match c.next streams with
    | (⟨.error fault, streams, draws⟩, c) => (⟨.error fault, streams, draws⟩, c)
    | (⟨.ok none, streams, draws⟩, c) => (⟨.ok [], streams, draws⟩, c)
    | (⟨.ok (some b), streams, draws⟩, c) =>
      let (served, c) := take limit c streams
      (⟨served.result.map (b :: ·), served.streams, draws ++ served.draws⟩, c)

/-- All remaining chunks, or the first fault, which loses the chunks before it. -/
def rest (c : Chunks) (streams : Streams) : Served (List Buffer) × Chunks :=
  c.take (supply streams + 1) streams

end Chunks

end ByteStreams
