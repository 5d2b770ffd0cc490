import ByteStreams.Block
import ByteStreams.Output

/-!
# Append streams

An `AppendStream` writes at the end of a growing block. While it is open the length of the block
is the capacity of the stream and the bytes past the position are unused; closing brings the block
to the bytes written. The capacity grows by doubling (`grownFrom`). The block may be the stream's
own or borrowed; a borrowed block goes back to its owner when the stream is dropped (`released?`).
-/

namespace ByteStreams

/-- The smallest capacity that a stream grows to. -/
def leastCapacity : Nat := 256

/-- Doubles a positive capacity until it is at least `needed`, or the greatest count. -/
def grownFrom (needed capacity : Nat) : Nat :=
  if needed ≤ capacity then capacity
  else if capacity = 0 ∨ maxCount ≤ capacity then capacity
  else grownFrom needed (cappedDouble capacity)
termination_by maxCount - capacity
decreasing_by simp only [cappedDouble]; omega

/-- Where the block of an append stream comes from. -/
inductive Origin where
  /-- The stream's own. -/
  | owned
  /-- Borrowed from an owner, who waits for it. -/
  | borrowed
  /-- The stream's own, after a reset took the place of a borrowed block, which is kept here. -/
  | replaced (lent : Block)
  deriving Repr

/-- The origin of a new block that takes the place of the stream's block. -/
def Origin.replacing (target : Block) : Origin → Origin
  | .owned => .owned
  | .borrowed => .replaced target
  | .replaced lent => .replaced lent

/-- An output stream at the end of a growing block. -/
structure AppendStream where
  target : Block
  position : Nat := 0
  closed : Bool := false
  origin : Origin := .owned
  deriving Repr

namespace AppendStream

/-- A stream with a block of its own of `capacity` bytes. -/
def create (a : Allocator) (capacity : Nat) : Except Error AppendStream :=
  match Block.allocate a capacity with
  | .ok target => .ok { target }
  | .error e => .error e

/-- A stream that overwrites a borrowed block from its start. -/
def wrap (target : Block) : AppendStream := { target, origin := .borrowed }

/-- The number of bytes that the stream holds before its block has to grow. -/
def capacity (s : AppendStream) : Nat := s.target.length

/-- Closes the stream, whose block then holds the bytes written and no others. -/
def close (a : Allocator) (s : AppendStream) : Except Error Unit × AppendStream :=
  if s.closed then (.ok (), s)
  else
    match s.target.resize a s.position with
    | .ok target => (.ok (), { s with target, closed := true })
    | .error e => (.error e, { s with closed := true })

/-- The block grown to at least `needed` bytes. -/
def grow (a : Allocator) (s : AppendStream) (needed : Nat) : Except Error Block :=
  if needed ≤ s.capacity then .ok s.target
  else
    match s.target.resize a (grownFrom needed (max s.capacity leastCapacity)) with
    | .ok target => .ok target
    | .error e => .error (e.withContext .write)

/-- Appends the data. No data is no write at all, save that the stream must be open. -/
def write (a : Allocator) (s : AppendStream) (data : Bytes) : Except Error Unit × AppendStream :=
  if s.closed then (.error (.closed .write), s)
  else if data.isEmpty then (.ok (), s)
  else if maxCount < s.position + data.length then
    (.error ⟨.write, .capacity data.length (maxCount - s.position)⟩, s)
  else
    match s.grow a (s.position + data.length) with
    | .error e => (.error e, s)
    | .ok target =>
      let bytes := target.bytes.overlay s.position data
      (.ok (), { s with target := { target with bytes }, position := s.position + data.length })

/-- The answer to a call, and the stream after it. -/
def call {α : Type} (a : Allocator) :
    OutputCall α → AppendStream → Except Error α × AppendStream
  | .write data, s => s.write a data
  | .writeBuffer source, s => s.write a source.content
  | .flush, s => (whenOpen s.closed .flush (.ok ()), s)
  | .tell, s => (whenOpen s.closed .tell (.ok s.position), s)
  | .checkOpen during, s => (whenOpen s.closed during (.ok ()), s)
  | .isClosed, s => (.ok s.closed, s)
  | .close, s => s.close a

/-- Closes the stream and hands its bytes out as a buffer, which leaves its block empty. -/
def finish (a : Allocator) (s : AppendStream) (tag : Tag) : Except Error Buffer × AppendStream :=
  if s.closed then (.error (.closed .finish), s)
  else
    match s.close a with
    | (.error e, s) => (.error e, s)
    | (.ok (), s) => (.ok (s.target.freeze tag), { s with target := {} })

/-- Closes the stream, if need be, and opens it again at position zero on a new block of its own. -/
def reset (a : Allocator) (s : AppendStream) (capacity : Nat) :
    Except Error Unit × AppendStream :=
  match s.close a with
  | (.error e, s) => (.error e, s)
  | (.ok (), s) =>
    match Block.allocate a capacity with
    | .error e => (.error (e.withContext .reset), s)
    | .ok target => (.ok (), { target, origin := s.origin.replacing s.target })

/-- The borrowed block, as it goes back to its owner when the stream is dropped: the stream closes
first, whatever comes of that. -/
def released? (a : Allocator) (s : AppendStream) : Option Block :=
  match s.origin with
  | .owned => none
  | .borrowed => some (s.close a).2.target
  | .replaced lent => some lent

end AppendStream

end ByteStreams
