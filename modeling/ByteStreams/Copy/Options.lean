import ByteStreams.Bytes
import ByteStreams.Text.Description

/-!
# Options for copying

How a writer copies: from which length on it divides a copy, among how many workers, and to which
block size their shares are rounded.
-/

namespace ByteStreams

/-- Options for copying. The setters keep the numbers of threads and the block size positive; the
record itself admits any numbers. -/
structure CopyOptions where
  /-- Writes of at least this length are divided. -/
  threshold : Nat := 1024 * 1024
  /-- The number of workers. -/
  threads : Nat := 1
  /-- Shares are rounded up to multiples of this size. -/
  block : Nat := 64
  deriving DecidableEq, Repr, Inhabited

namespace CopyOptions

/-- A copy is divided if there is more than one worker and it reaches the threshold. -/
def isParallel (o : CopyOptions) (length : Nat) : Bool :=
  o.threads > 1 && length ≥ o.threshold

/-- One change of the options. -/
inductive Setting where
  | threshold (n : Nat)
  | threads (n : Nat)
  | block (n : Nat)
  /-- Puts the number of workers without a look at it. -/
  | rawThreads (n : Nat)
  deriving DecidableEq, Repr

/-- The options after a change. Zero threads and a zero block count as one. -/
def set (o : CopyOptions) : Setting → CopyOptions
  | .threshold n => { o with threshold := n }
  | .threads n => { o with threads := max n 1 }
  | .block n => { o with block := max n 1 }
  | .rawThreads n => { o with threads := n }

/-- The options after several changes. -/
def setAll (o : CopyOptions) (changes : List Setting) : CopyOptions := changes.foldl set o

/-- The options as a diagnostic shows them. -/
def describe (o : CopyOptions) : Text.Description :=
  .record "WriterOptions"
    [("memcopy_threshold", .count o.threshold), ("memcopy_threads", .count o.threads),
      ("memcopy_block_size", .count o.block)]
    false

end CopyOptions

end ByteStreams
