import ByteStreams.Error
import ByteStreams.Buffer

/-!
# Resizable blocks

A `Block` is a mutable byte string that grows and shrinks. Growing asks an `Allocator` for room and
fails without a change if it refuses. The bytes of the block are all that matters when blocks are
compared; beside them a block counts the room it has reserved past its end.
-/

namespace ByteStreams

/-- What decides whether a reservation of so many bytes succeeds. -/
structure Allocator where
  grants : Nat → Bool

namespace Allocator

/-- A reservation of nothing always succeeds. -/
def permits (a : Allocator) (count : Nat) : Bool := count = 0 || a.grants count

/-- An allocator that grants every reservation below a limit. -/
def below (limit : Nat) : Allocator := ⟨(· < limit)⟩

@[simp] theorem permits_zero (a : Allocator) : a.permits 0 = true := rfl

end Allocator

/-- A mutable byte string, with the room reserved past its end. -/
structure Block where
  bytes : Bytes := []
  spare : Nat := 0
  deriving Repr, Inhabited

namespace Block

/-- A block that holds the given bytes and has no room past them. -/
def ofBytes (bytes : Bytes) : Block := ⟨bytes, 0⟩

/-- The number of bytes in the block. -/
def length (b : Block) : Nat := b.bytes.length

/-- The number of bytes that the block can hold without another reservation. -/
def room (b : Block) : Nat := b.length + b.spare

/-- Blocks are equal when their bytes are, whatever room they have. -/
instance : BEq Block := ⟨fun a b => a.bytes == b.bytes⟩

/-- Makes room for `additional` bytes past the end. The allocator is asked even if the block has
that room already, so that more can be refused here than has to be; an allocator that grants
whatever needs no memory refuses no more than missing room. -/
def reserve (a : Allocator) (b : Block) (additional : Nat) : Except Error Block :=
  if a.permits additional then
    .ok { b with spare := max b.spare additional }
  else
    .error ⟨.allocate, .allocation additional⟩

/-- Brings the block to a length: bytes past it are cut off, missing ones are zero. -/
def resize (a : Allocator) (b : Block) (length : Nat) : Except Error Block :=
  if length ≤ b.length then
    .ok ⟨b.bytes.take length, b.room - length⟩
  else
    match b.reserve a (length - b.length) with
    | .ok b => .ok ⟨b.bytes.resized length, b.room - length⟩
    | .error e => .error e

/-- A block of `length` zeros. -/
def allocate (a : Allocator) (length : Nat) : Except Error Block := resize a {} length

/-- An empty block with room for `capacity` bytes. -/
def withCapacity (a : Allocator) (capacity : Nat) : Except Error Block := reserve a {} capacity

/-- Gives up the room past the end. -/
def shrinkToFit (b : Block) : Block := { b with spare := 0 }

/-- Empties the block, which keeps its room. -/
def clear (b : Block) : Block := ⟨[], b.room⟩

/-- Overwrites the bytes from `offset` on, if the data lies within the block. -/
def put? (b : Block) (offset : Nat) (data : Bytes) : Option Block :=
  if offset + data.length ≤ b.length then
    some { b with bytes := b.bytes.overlay offset data }
  else
    none

/-- The bytes of the block as a buffer over a new memory. -/
def freeze (b : Block) (tag : Tag) : Buffer := .ofBytes tag b.bytes

/-- The block as a diagnostic shows it. -/
def describe (b : Block) : Text.Description :=
  .record "ResizableBuffer" [("data", .bytes b.bytes)] false

theorem resize_of_le (a : Allocator) {b : Block} {length : Nat} (h : length ≤ b.length) :
    b.resize a length = .ok ⟨b.bytes.take length, b.room - length⟩ := by
  simp [resize, h]

end Block

end ByteStreams
