import ByteStreams.Block
import Mathlib.Tactic.Lemma

/-!
# Laws of byte strings and blocks

What overlaying and resizing keep of a byte string.  Two views are used: the bytes at the start
(`log <+: content`), for streams that append, and single bytes by their index, for streams that
write anywhere.  For streams that are read, `between` is the stretch between two positions.

The bytes of a resized block are those of its resized byte string (`Block.bytes_of_resize`), however
the room past its end is managed.
-/

namespace ByteStreams

namespace Bytes

/-- Data that is laid right behind a start of the target continues this start. -/
lemma isPrefix_overlay {log target : Bytes} (h : log <+: target) (data : Bytes) :
    log ++ data <+: target.overlay log.length data := by
  unfold overlay
  rw [← List.prefix_iff_eq_take.mp h]
  exact List.prefix_append (log ++ data) _

/-- No data changes nothing. -/
@[simp] lemma overlay_nil (target : Bytes) (offset : Nat) : target.overlay offset [] = target := by
  simp [overlay]

/-- A start that is not longer than the new length survives resizing. -/
lemma isPrefix_resized {log content : Bytes} (h : log <+: content) {length : Nat}
    (fits : log.length ≤ length) : log <+: content.resized length := by
  unfold resized
  have kept : log <+: content.take length := by
    rw [List.prefix_take_iff]
    exact ⟨h, fits⟩
  exact kept.trans (List.prefix_append _ _)

/-- A byte of an overlay is one of the data where the data lies, and one of the target elsewhere. -/
lemma getElem?_overlay {target data : Bytes} {offset : Nat}
    (fits : offset + data.length ≤ target.length) (i : Nat) :
    (target.overlay offset data)[i]? =
      if offset ≤ i ∧ i < offset + data.length then data[i - offset]? else target[i]? := by
  have before : (target.take offset).length = offset := by
    rw [List.length_take]
    omega
  unfold overlay
  rw [List.append_assoc, List.getElem?_append, before, List.getElem?_append]
  by_cases low : i < offset
  · have outside : ¬(offset ≤ i ∧ i < offset + data.length) := by omega
    rw [if_pos low, if_neg outside, List.getElem?_take_of_lt low]
  · by_cases high : i < offset + data.length
    · have inside : i - offset < data.length := by omega
      rw [if_neg low, if_pos inside, if_pos ⟨by omega, high⟩]
    · have past : ¬(i - offset < data.length) := by omega
      rw [if_neg low, if_neg past, if_neg (fun h => high h.2), List.getElem?_drop]
      congr 1
      omega

/-- The bytes from one position up to another one, which is not included. -/
def between (data : Bytes) (first behind : Int) : Bytes := (data.take behind.toNat).drop first.toNat

/-- A window, by its first position and the one behind its last. -/
lemma window_eq_between (data : Bytes) {first : Int} (low : 0 ≤ first) (count : Nat) :
    data.window first.toNat count = data.between first (first + count) := by
  have length : (first + count).toNat - first.toNat = count := by omega
  rw [between, List.drop_take, length, window]

/-- How many bytes there are between two positions of a byte string. -/
lemma length_between {data : Bytes} {first behind : Int} (low : 0 ≤ first)
    (high : behind ≤ data.length) :
    (data.between first behind).length = (behind - first).toNat := by
  rw [between, List.length_drop, List.length_take]
  omega

/-- Nothing is between a position and itself. -/
@[simp] lemma between_self (data : Bytes) (place : Int) : data.between place place = [] := by
  rw [between, List.drop_eq_nil_iff, List.length_take]
  omega

/-- Two stretches that meet are one. -/
lemma between_append (data : Bytes) {first middle behind : Int} (low : first ≤ middle)
    (high : middle ≤ behind) :
    data.between first middle ++ data.between middle behind = data.between first behind := by
  have here : first.toNat + (middle.toNat - first.toNat) = middle.toNat := by omega
  have rest : middle.toNat - first.toNat + (behind.toNat - middle.toNat) =
      behind.toNat - first.toNat := by omega
  simp only [between, List.drop_take]
  rw [← rest, List.take_add, List.drop_drop, here]

end Bytes

namespace Block

/-- Making room keeps the bytes. -/
lemma bytes_of_reserve {a : Allocator} {b c : Block} {additional : Nat}
    (h : b.reserve a additional = .ok c) : c.bytes = b.bytes := by
  unfold reserve at h
  split at h <;> cases h
  rfl

/-- Whenever a block can be resized, its bytes are the resized ones. -/
lemma bytes_of_resize {a : Allocator} {b c : Block} {length : Nat}
    (h : b.resize a length = .ok c) : c.bytes = b.bytes.resized length := by
  unfold resize at h
  split at h
  · next shorter =>
    have none_missing : length - b.bytes.length = 0 := Nat.sub_eq_zero_of_le shorter
    cases h
    simp [Bytes.resized, none_missing]
  · split at h
    · next reserved grown =>
      cases h
      simp [bytes_of_reserve grown]
    · cases h

/-- A failed resizing asked for more bytes than were granted. -/
lemma resize_error {a : Allocator} {b : Block} {length : Nat} {e : Error}
    (h : b.resize a length = .error e) :
    b.length < length ∧ a.permits (length - b.length) = false ∧
      e = ⟨.allocate, .allocation (length - b.length)⟩ := by
  unfold resize at h
  split at h
  · cases h
  · next longer =>
    split at h
    · cases h
    · next refused =>
      unfold reserve at refused
      split at refused
      · cases refused
      · next denied =>
        cases h
        cases refused
        exact ⟨Nat.lt_of_not_le longer, Bool.eq_false_iff.mpr denied, rfl⟩

end Block

end ByteStreams
