import ByteStreams.Copy
import ByteStreams.Copy.Options
import ByteStreams.Output
import ByteStreams.Position

/-!
# Writers of fixed capacity

A `FixedWriter` writes into a target whose length never changes. A write that does not fit is
refused whole. Long writes are copied in chunks, as the options say.
-/

namespace ByteStreams

/-- An output stream over a target of fixed length. -/
structure FixedWriter where
  target : Bytes
  position : Nat := 0
  closed : Bool := false
  options : CopyOptions := {}
  deriving Repr

namespace FixedWriter

/-- The length of the target. -/
def capacity (w : FixedWriter) : Nat := w.target.length

/-- The bytes that overwrite the next `data.length` ones of the target: a copy of the data, made
whole or in chunks. -/
def copied (w : FixedWriter) (data : Bytes) : Bytes :=
  if w.options.isParallel data.length then
    Copy.copyChunks data (w.target.window w.position data.length)
      (Copy.chunks data.length w.options.threads w.options.block)
  else
    data

/-- Overwrites the bytes at the cursor, unless the data does not fit. -/
def write (w : FixedWriter) (data : Bytes) : Except Error Unit × FixedWriter :=
  if w.closed then (.error (.closed .write), w)
  else
    let remaining := w.capacity - w.position
    if remaining < data.length then (.error ⟨.write, .capacity data.length remaining⟩, w)
    else
      (.ok (), { w with
        target := w.target.overlay w.position (w.copied data)
        position := w.position + data.length })

/-- Moves the cursor to a position within the target. -/
def seek (w : FixedWriter) (position : Int) : Except Error Unit × FixedWriter :=
  if w.closed then (.error (.closed .seek), w)
  else
    match checkPosition .seek position w.capacity with
    | .error e => (.error e, w)
    | .ok () => (.ok (), { w with position := position.toNat })

/-- Moves the cursor and writes there. -/
def writeAt (w : FixedWriter) (position : Int) (data : Bytes) : Except Error Unit × FixedWriter :=
  match w.seek position with
  | (.error e, w) => (.error e, w)
  | (.ok (), w) => w.write data

/-- The answer to a call, and the writer after it. -/
def call {α : Type} : OutputCall α → FixedWriter → Except Error α × FixedWriter
  | .write data, w => w.write data
  | .writeBuffer source, w => w.write source.content
  | .flush, w => (whenOpen w.closed .flush (.ok ()), w)
  | .tell, w => (whenOpen w.closed .tell (.ok w.position), w)
  | .checkOpen during, w => (whenOpen w.closed during (.ok ()), w)
  | .isClosed, w => (.ok w.closed, w)
  | .close, w => (.ok (), { w with closed := true })

end FixedWriter

end ByteStreams
