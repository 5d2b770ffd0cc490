/-!
# Byte strings

Byte strings are lists of bytes. This file has the few operations on them that streams are made of:
laying one string over another (`overlay`), bringing one to a given length (`resized`), and the
limits of the numbers that count bytes and mark positions.
-/

namespace ByteStreams

/-- A string of bytes. -/
abbrev Bytes := List UInt8

/-- The greatest count of bytes that a number of 64 bits holds, `2 ^ 64 - 1`. -/
def maxCount : Nat := 18446744073709551615

/-- The greatest position that a signed number of 64 bits holds, `2 ^ 63 - 1`. -/
def maxPosition : Int := 9223372036854775807

/-- A sum of counts, cut off at the greatest one. -/
def cappedAdd (a b : Nat) : Nat := min (a + b) maxCount

/-- Twice a count, cut off at the greatest one. -/
def cappedDouble (a : Nat) : Nat := min (a * 2) maxCount

namespace Bytes

/-- The bytes of `target` with those from `offset` on replaced by `data`. -/
def overlay (target : Bytes) (offset : Nat) (data : Bytes) : Bytes :=
  target.take offset ++ data ++ target.drop (offset + data.length)

/-- The `count` bytes from `offset` on, fewer at the end. -/
def window (source : Bytes) (offset count : Nat) : Bytes := (source.drop offset).take count

/-- The bytes cut or filled up with zeros to the given length. -/
def resized (content : Bytes) (length : Nat) : Bytes :=
  content.take length ++ List.replicate (length - content.length) 0

theorem length_overlay {target : Bytes} {offset : Nat} {data : Bytes}
    (fits : offset + data.length ≤ target.length) :
    (target.overlay offset data).length = target.length := by
  simp only [overlay, List.length_append, List.length_take, List.length_drop]
  omega

@[simp] theorem length_window (source : Bytes) (offset count : Nat) :
    (source.window offset count).length = min count (source.length - offset) := by
  simp [window]

@[simp] theorem length_resized (content : Bytes) (length : Nat) :
    (content.resized length).length = length := by
  simp only [resized, List.length_append, List.length_take, List.length_replicate]
  omega

end Bytes

end ByteStreams
