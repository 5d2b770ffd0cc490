import ByteStreams.Copy
import ByteStreams.Proofs.Bytes

/-!
# Copies in chunks are copies

A copy made chunk by chunk is looked at byte by byte.  Each chunk that covers a byte puts the byte
of the source there, and no chunk puts anything else there, so that the order of the chunks and
overlaps between them do not matter: chunks that cover the source copy it (`copyChunks_eq_source`).

The division `Copy.chunks` covers the whole string and nothing past its end, and its chunk length is
a positive count of 64 bits for strings shorter than `2 ^ 63`.
-/

namespace ByteStreams

/-- The chunk holds the byte of an index. -/
def Chunk.Covers (c : Chunk) (i : Nat) : Prop := c.offset ≤ i ∧ i < c.offset + c.length

instance (c : Chunk) (i : Nat) : Decidable (c.Covers i) :=
  inferInstanceAs (Decidable (c.offset ≤ i ∧ i < c.offset + c.length))

namespace Copy

variable {source target : Bytes} {c : Chunk}

/-! ### Copies byte by byte -/

/-- The part of the source that a chunk within it names is as long as the chunk. -/
lemma length_window_chunk (within : c.offset + c.length ≤ source.length) :
    (source.window c.offset c.length).length = c.length := by
  rw [Bytes.length_window]
  omega

/-- Copying a chunk keeps the length of the target. -/
lemma length_copyChunk (same : target.length = source.length)
    (within : c.offset + c.length ≤ source.length) :
    (copyChunk source target c).length = source.length := by
  unfold copyChunk
  rw [Bytes.length_overlay, same]
  rw [length_window_chunk within, same]
  exact within

/-- Copying a chunk changes the bytes that it covers into those of the source, and no others. -/
lemma getElem?_copyChunk (same : target.length = source.length)
    (within : c.offset + c.length ≤ source.length) (i : Nat) :
    (copyChunk source target c)[i]? = if c.Covers i then source[i]? else target[i]? := by
  have length := length_window_chunk within
  have fits : c.offset + (source.window c.offset c.length).length ≤ target.length := by
    rw [length, same]
    exact within
  unfold copyChunk
  rw [Bytes.getElem?_overlay fits, length]
  by_cases covers : c.offset ≤ i ∧ i < c.offset + c.length
  · have inside : i - c.offset < c.length := by omega
    have place : c.offset + (i - c.offset) = i := by omega
    rw [if_pos covers, if_pos (show c.Covers i from covers)]
    unfold Bytes.window
    rw [List.getElem?_take_of_lt inside, List.getElem?_drop, place]
  · rw [if_neg covers, if_neg (show ¬c.Covers i from covers)]

/-- Chunks within the source that cover every byte in which the target differs from it copy the
source, in whatever order they come. -/
theorem copyChunks_eq_source {parts : List Chunk} (same : target.length = source.length)
    (within : ∀ c ∈ parts, c.offset + c.length ≤ source.length)
    (covered : ∀ i < source.length, (∃ c ∈ parts, c.Covers i) ∨ target[i]? = source[i]?) :
    copyChunks source target parts = source := by
  induction parts generalizing target with
  | nil =>
    refine List.ext_getElem? fun i => ?_
    by_cases h : i < source.length
    · rcases covered i h with ⟨c, hc, _⟩ | equal
      · cases hc
      · exact equal
    · change target[i]? = source[i]?
      rw [List.getElem?_eq_none (by omega), List.getElem?_eq_none (by omega)]
  | cons c parts ih =>
    have here := within c List.mem_cons_self
    refine ih (length_copyChunk same here) (fun d hd => within d (List.mem_cons_of_mem c hd)) ?_
    intro i hi
    rw [getElem?_copyChunk same here]
    by_cases covers : c.Covers i
    · exact .inr (if_pos covers)
    · rw [if_neg covers]
      rcases covered i hi with ⟨d, hd, later⟩ | equal
      · rcases List.mem_cons.mp hd with rfl | hd
        · exact absurd later covers
        · exact .inl ⟨d, hd, later⟩
      · exact .inr equal

/-! ### The division into chunks -/

/-- Division rounded up rounds up. -/
lemma le_ceilDiv_mul (a : Nat) {b : Nat} (positive : 0 < b) : a ≤ ceilDiv a b * b := by
  have division := Nat.div_add_mod (a + (b - 1)) b
  have remainder := Nat.mod_lt (a + (b - 1)) positive
  rw [Nat.mul_comm] at division
  unfold ceilDiv
  omega

/-- Division rounded up rounds up by less than the divisor. -/
lemma ceilDiv_mul_lt (a : Nat) {b : Nat} (positive : 0 < b) : ceilDiv a b * b < a + b := by
  have division := Nat.div_add_mod (a + (b - 1)) b
  rw [Nat.mul_comm] at division
  unfold ceilDiv
  omega

/-- Division rounded up does not make a count greater. -/
lemma ceilDiv_le (a : Nat) {b : Nat} (positive : 0 < b) : ceilDiv a b ≤ a := by
  unfold ceilDiv
  rw [Nat.div_le_iff_le_mul positive]
  have : a ≤ a * b := Nat.le_mul_of_pos_right a positive
  omega

variable {length threads block : Nat}

/-- A string that is divided is longer than a block. -/
lemma lt_of_isWhole_eq_false (divided : isWhole length threads block = false) :
    block < length := by
  simp only [isWhole, Bool.or_eq_false_iff, decide_eq_false_iff_not] at divided
  omega

/-- The chunks of a string that is divided have a positive length. -/
lemma chunkLength_pos (divided : isWhole length threads block = false) :
    0 < chunkLength length threads block := by
  have long := lt_of_isWhole_eq_false divided
  have workers : 0 < max threads 1 := by omega
  have blocks : 0 < max block 1 := by omega
  have share : 0 < ceilDiv length (max threads 1) := by
    refine Nat.pos_of_ne_zero fun none => ?_
    have covers := le_ceilDiv_mul length workers
    rw [none] at covers
    omega
  exact Nat.lt_of_lt_of_le share (le_ceilDiv_mul _ blocks)

/-- The chunk length of a string shorter than `2 ^ 63` is a count of 64 bits. -/
lemma chunkLength_le_maxCount (divided : isWhole length threads block = false)
    (short : (length : Int) ≤ maxPosition) : chunkLength length threads block ≤ maxCount := by
  have long := lt_of_isWhole_eq_false divided
  have share : ceilDiv length (max threads 1) ≤ length := ceilDiv_le length (by omega)
  have rounded := ceilDiv_mul_lt (ceilDiv length (max threads 1)) (b := max block 1) (by omega)
  unfold chunkLength roundUp
  unfold maxPosition at short
  unfold maxCount
  omega

/-- Every chunk begins within the string. -/
lemma chunk_offset_lt {i size : Nat} (positive : 0 < size) (h : i < ceilDiv length size) :
    i * size < length := by
  have next : (i + 1) * size ≤ ceilDiv length size * size := Nat.mul_le_mul_right size h
  have last := ceilDiv_mul_lt length positive
  rw [Nat.add_one_mul] at next
  omega

/-- No chunk reaches past the end of the string. -/
lemma chunks_within {c : Chunk} (h : c ∈ chunks length threads block) :
    c.offset + c.length ≤ length := by
  unfold chunks at h
  split at h
  · rw [List.mem_singleton.mp h]
    exact Nat.le_of_eq (Nat.zero_add length)
  · next divided =>
    rw [Bool.not_eq_true] at divided
    obtain ⟨i, hi, rfl⟩ := List.mem_map.mp h
    have := chunk_offset_lt (chunkLength_pos divided) (List.mem_range.mp hi)
    change i * chunkLength length threads block + min (chunkLength length threads block)
      (length - i * chunkLength length threads block) ≤ length
    omega

/-- Every byte of the string lies in a chunk. -/
lemma exists_covers {i : Nat} (h : i < length) :
    ∃ c ∈ chunks length threads block, c.Covers i := by
  unfold chunks
  split
  · exact ⟨⟨0, length⟩, List.mem_singleton.mpr rfl, Nat.zero_le i, by simpa using h⟩
  · next divided =>
    rw [Bool.not_eq_true] at divided
    have positive := chunkLength_pos divided
    generalize chunkLength length threads block = size at positive ⊢
    have start : i / size * size ≤ i := Nat.div_mul_le_self i size
    have stop : i < i / size * size + size := Nat.lt_div_mul_add positive
    have index : i / size < ceilDiv length size := by
      have reach := le_ceilDiv_mul length positive
      exact Nat.lt_of_mul_lt_mul_right (Nat.lt_of_le_of_lt start (Nat.lt_of_lt_of_le h reach))
    refine ⟨_, List.mem_map.mpr ⟨i / size, List.mem_range.mpr index, rfl⟩, start, ?_⟩
    change i < i / size * size + min size (length - i / size * size)
    omega

/-- **A divided copy is a copy**, for every number of workers and every block size. -/
theorem copyChunks_chunks (same : target.length = source.length) (threads block : Nat) :
    copyChunks source target (chunks source.length threads block) = source :=
  copyChunks_eq_source same (fun _ hc => chunks_within hc) fun _ hi => .inl (exists_covers hi)

/-- Strings of one length can be copied, and the copy is the source. -/
lemma parallel?_eq_source (same : target.length = source.length) (threads block : Nat) :
    parallel? target source threads block = some source := by
  unfold parallel?
  rw [if_pos same, copyChunks_chunks same]

end Copy

end ByteStreams
