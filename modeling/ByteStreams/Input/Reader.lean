import ByteStreams.Input

/-!
# Readers

A `Reader` reads a buffer with a cursor. What it hands out are slices of that buffer; nothing is
copied.
-/

namespace ByteStreams

/-- An input stream over a buffer. -/
structure Reader where
  buffer : Buffer
  position : Nat := 0
  closed : Bool := false
  deriving DecidableEq, Repr

namespace Reader

/-- The number of bytes that a read of `count` bytes from `position` on delivers. -/
def readable (r : Reader) (position count : Nat) : Nat :=
  clampRead position r.buffer.length count

/-- The bytes that a read of `count` bytes from `position` on delivers. -/
def bytesAt (r : Reader) (position count : Nat) : Bytes :=
  r.buffer.content.window position (r.readable position count)

/-- The reader with its cursor moved over at most `count` bytes. -/
def skip (r : Reader) (count : Nat) : Reader :=
  { r with position := r.position + r.readable r.position count }

/-- The answer of an open reader, and the reader after it. -/
def callOpen {α : Type} (c : InputCall α) (r : Reader) : Except Error α × Reader :=
  match c with
  | .read count => (.ok (r.buffer.slice r.position (r.readable r.position count)), r.skip count)
  | .readInto target =>
    (.ok (.ofOverlay target (r.bytesAt r.position target.length)), r.skip target.length)
  | .peek count => (.ok (r.bytesAt r.position count), r)
  | .advance count => (.ok (r.readable r.position count), r.skip count)
  | .tell => (.ok r.position, r)
  | .zeroCopy => (.ok true, r)
  | .seek position =>
    match checkPosition .seek position r.buffer.length with
    | .error e => (.error e, r)
    | .ok () => (.ok (), { r with position := position.toNat })
  | .size => (.ok r.buffer.length, r)
  | .readAt position count =>
    match checkPosition .read position r.buffer.length with
    | .error e => (.error e, r)
    | .ok () => (.ok (r.buffer.slice position.toNat (r.readable position.toNat count)), r)
  | .readAtInto position target =>
    match checkPosition .read position r.buffer.length with
    | .error e => (.error e, r)
    | .ok () => (.ok (.ofOverlay target (r.bytesAt position.toNat target.length)), r)
  | .isClosed => (.ok false, r)
  | .checkOpen _ => (.ok (), r)
  | .close => (.ok (), { r with closed := true })

/-- The answer to a call, and the reader after it. -/
def call {α : Type} (c : InputCall α) (r : Reader) : Except Error α × Reader :=
  if r.closed then (c.whenClosed true, r) else r.callOpen c

/-- The reader as a diagnostic shows it. -/
def describe (r : Reader) : Text.Description :=
  .record "BufferReader"
    [("buffer", r.buffer.describe), ("position", .count r.position), ("closed", .flag r.closed)]
    false

end Reader

end ByteStreams
