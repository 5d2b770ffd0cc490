import ByteStreams.Buffer
import ByteStreams.Error
import ByteStreams.Position

/-!
# Calls on input streams

What can be asked of any stream that is read from, indexed by the type of the answer, and the
answers that a closed stream gives. Addressed reads (`readAt`, `readAtInto`) and `size` are for
streams of known size; they do not move the cursor.
-/

namespace ByteStreams

/-- A target after a read into it, and the number of bytes read. -/
structure Filled where
  count : Nat
  target : Bytes
  deriving DecidableEq, Repr

namespace Filled

/-- The bytes read, laid over the start of the target. -/
def ofOverlay (target data : Bytes) : Filled := ⟨data.length, target.overlay 0 data⟩

/-- The same read seen as one into a target with more bytes at its end. -/
def append (f : Filled) (rest : Bytes) : Filled := ⟨f.count, f.target ++ rest⟩

end Filled

/-- A call on an input stream, by the type of its answer. -/
inductive InputCall : Type → Type where
  /-- Reads at most `count` bytes. -/
  | read (count : Nat) : InputCall Buffer
  /-- Reads at most as many bytes as the target has, into it. -/
  | readInto (target : Bytes) : InputCall Filled
  /-- Shows at most `count` bytes and leaves them unread. -/
  | peek (count : Nat) : InputCall Bytes
  /-- Skips at most `count` bytes and counts them. -/
  | advance (count : Nat) : InputCall Nat
  /-- The position of the cursor. -/
  | tell : InputCall Int
  /-- Whether reads answer with slices of memory that is there already. -/
  | zeroCopy : InputCall Bool
  /-- Moves the cursor. -/
  | seek (position : Int) : InputCall Unit
  /-- The number of bytes in the stream. -/
  | size : InputCall Int
  /-- Reads at most `count` bytes from a position on. -/
  | readAt (position : Int) (count : Nat) : InputCall Buffer
  /-- Reads from a position on, into a target. -/
  | readAtInto (position : Int) (target : Bytes) : InputCall Filled
  /-- Tells whether the stream is closed. -/
  | isClosed : InputCall Bool
  /-- Fails, as a failure of the given operation, when the stream is closed. -/
  | checkOpen (during : Context) : InputCall Unit
  /-- Closes the stream; closing it again has no effect. -/
  | close : InputCall Unit

namespace InputCall

/-- A call that reads, skips or peeks. -/
def isReading : {α : Type} → InputCall α → Bool
  | _, read _ | _, readInto _ | _, peek _ | _, advance _ | _, readAt .. | _, readAtInto .. => true
  | _, tell | _, zeroCopy | _, seek _ | _, size | _, isClosed | _, checkOpen _ | _, close => false

/-- The answer of a closed stream, which still says whether it would have copied. -/
def whenClosed (copiesNothing : Bool) : {α : Type} → InputCall α → Except Error α
  | _, read _ | _, readInto _ | _, advance _ | _, readAt .. | _, readAtInto .. =>
    .error (.closed .read)
  | _, peek _ => .error (.closed .peek)
  | _, tell => .error (.closed .tell)
  | _, seek _ => .error (.closed .seek)
  | _, size => .error (.closed .size)
  | _, checkOpen during => .error (.closed during)
  | _, zeroCopy => .ok copiesNothing
  | _, isClosed => .ok true
  | _, close => .ok ()

end InputCall

end ByteStreams
