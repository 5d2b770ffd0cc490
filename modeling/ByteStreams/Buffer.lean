import ByteStreams.Bytes
import ByteStreams.Text.Description

/-!
# Buffers

A `Buffer` is an immutable range of a memory. Cutting a slice out of a buffer copies nothing: the
slice is a range of the same memory and remembers the ranges it was cut from, so that the buffer it
came from (`parent?`) can be had back. Memories have tags, which tell apart memories that happen to
hold the same bytes.
-/

namespace ByteStreams

/-- The identity of a memory: its maker, and a number that its maker uses once. -/
structure Tag where
  owner : Nat
  serial : Nat
  deriving DecidableEq, Repr

/-- A block of bytes that never change. -/
structure Memory where
  tag : Tag
  bytes : Bytes
  deriving DecidableEq, Repr

/-- A range of a memory, counted from the memory's start. -/
structure Extent where
  offset : Nat
  length : Nat
  deriving DecidableEq, Repr

/-- A range of a memory, and the ranges that it was cut from, the nearest first. -/
structure Buffer where
  memory : Memory
  extent : Extent
  cutFrom : List Extent
  deriving DecidableEq, Repr

namespace Buffer

/-- A buffer over the whole of a new memory. -/
def ofBytes (tag : Tag) (bytes : Bytes) : Buffer :=
  ⟨⟨tag, bytes⟩, ⟨0, bytes.length⟩, []⟩

/-- The number of bytes in the buffer. -/
def length (b : Buffer) : Nat := b.extent.length

/-- The bytes of the buffer. -/
def content (b : Buffer) : Bytes :=
  Bytes.window b.memory.bytes b.extent.offset b.extent.length

/-- The range of `length` bytes from `offset` on, which is for the caller to check. -/
def slice (b : Buffer) (offset length : Nat) : Buffer :=
  ⟨b.memory, ⟨b.extent.offset + offset, length⟩, b.extent :: b.cutFrom⟩

/-- The range of `length` bytes from `offset` on, if it lies within the buffer. -/
def slice? (b : Buffer) (offset length : Nat) : Option Buffer :=
  if cappedAdd offset length ≤ b.length then some (b.slice offset length) else none

/-- The buffer that this one was cut from. -/
def parent? (b : Buffer) : Option Buffer :=
  match b.cutFrom with
  | [] => none
  | extent :: cutFrom => some ⟨b.memory, extent, cutFrom⟩

/-- A buffer that was cut from another. -/
def isSlice (b : Buffer) : Bool := !b.cutFrom.isEmpty

/-- Two buffers over the same memory. -/
def sharesMemory (a b : Buffer) : Bool := a.memory.tag = b.memory.tag

/-- The buffer as a diagnostic shows it. -/
def describe (b : Buffer) : Text.Description :=
  .record "Buffer"
    [("data", .bytes b.content), ("offset", .count b.extent.offset), ("is_slice", .flag b.isSlice)]
    true

@[simp] theorem content_ofBytes (tag : Tag) (bytes : Bytes) :
    (ofBytes tag bytes).content = bytes := by
  simp [ofBytes, content, Bytes.window]

@[simp] theorem length_slice (b : Buffer) (offset length : Nat) :
    (b.slice offset length).length = length := rfl

@[simp] theorem parent?_slice (b : Buffer) (offset length : Nat) :
    (b.slice offset length).parent? = some b := rfl

end Buffer

end ByteStreams
