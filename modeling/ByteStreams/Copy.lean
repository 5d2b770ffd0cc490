import ByteStreams.Bytes

/-!
# Copying in chunks

A copy of a long byte string may be divided among workers. Each worker gets one contiguous chunk;
all chunks have the same length, a multiple of the block size, but for the last, which ends
where the string ends. `chunks` is that division, `copyChunks` carries it out.
-/

namespace ByteStreams

/-- Division rounded up. -/
def ceilDiv (a b : Nat) : Nat := (a + (b - 1)) / b

/-- The least multiple of `b` that is not below `a`. -/
def roundUp (a b : Nat) : Nat := ceilDiv a b * b

/-- A contiguous part of a byte string. -/
structure Chunk where
  offset : Nat
  length : Nat
  deriving DecidableEq, Repr

namespace Copy

/-- The length of a chunk: an even share for each worker, rounded up to whole blocks. -/
def chunkLength (length threads block : Nat) : Nat :=
  roundUp (ceilDiv length (max threads 1)) (max block 1)

/-- A single worker, or a string of at most one block, needs no division. -/
def isWhole (length threads block : Nat) : Bool :=
  max threads 1 = 1 || length ≤ block

/-- The division of a string of the given length among workers. -/
def chunks (length threads block : Nat) : List Chunk :=
  if isWhole length threads block then
    [⟨0, length⟩]
  else
    let size := chunkLength length threads block
    (List.range (ceilDiv length size)).map fun i => ⟨i * size, min size (length - i * size)⟩

/-- The copy of one chunk of `source` to the same place of `target`. -/
def copyChunk (source target : Bytes) (c : Chunk) : Bytes :=
  target.overlay c.offset (source.window c.offset c.length)

/-- The copies of several chunks, one after the other. -/
def copyChunks (source target : Bytes) (parts : List Chunk) : Bytes :=
  parts.foldl (copyChunk source) target

/-- Copies `source` over `target` in chunks; there is no copy between unequal lengths. -/
def parallel? (target source : Bytes) (threads block : Nat) : Option Bytes :=
  if target.length = source.length then
    some (copyChunks source target (chunks source.length threads block))
  else
    none

end Copy

end ByteStreams
