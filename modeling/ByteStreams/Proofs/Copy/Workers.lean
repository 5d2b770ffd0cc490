import ByteStreams.Proofs.Copy
import Mathlib.Algebra.Order.Ring.Nat
import Mathlib.Data.List.Basic

/-!
# Copies that are shared out among workers

`carryOut` tells a divided copy in all its steps: the lengths are compared, the chunk length is
computed in numbers of 64 bits (`chunkLength?`), both strings are cut into chunks of that length
(`cut`), and workers copy one chunk of the source over one of the target each, in any order.  Every
step can break the copy off, and then the target stays as it is at that moment.

Between strings of one length none of them does.  The chunk length is never too great a number; the
chunks of the two strings are the same ones, those of `Copy.chunks`, which follow on each other from
the start to the end of the string (`Divides`); and the order of the workers does not matter
(`shared_copy_is_copy`).
-/

namespace ByteStreams.Copy

/-! ### Computing with numbers of 64 bits -/

/-- The number itself, unless it is too great for 64 bits. -/
def count? (n : Nat) : Option Nat := if n ≤ maxCount then some n else none

/-- The quotient and the remainder; there is no division by zero. -/
def divMod? (a b : Nat) : Option (Nat × Nat) := if b = 0 then none else some (a / b, a % b)

/-- Division rounded up: one more than the quotient if there is a remainder. -/
def ceilDiv? (a b : Nat) : Option Nat := do
  let (quotient, remainder) ← divMod? a b
  if remainder = 0 then some quotient else count? (quotient + 1)

/-- The least multiple of `b` that is not below `a`: what the remainder lacks is added. -/
def roundUp? (a b : Nat) : Option Nat := do
  let (_, remainder) ← divMod? a b
  if remainder = 0 then some a else count? (a + (b - remainder))

/-- The length of a chunk: an even share for each worker, rounded up to whole blocks. -/
def chunkLength? (length threads block : Nat) : Option Nat := do
  let share ← ceilDiv? length (max threads 1)
  roundUp? share (max block 1)

variable {a b length threads block size : Nat}

/-- Division rounded up gives the least number of parts that are enough. -/
lemma ceilDiv_le_iff {q : Nat} (positive : 0 < b) : ceilDiv a b ≤ q ↔ a ≤ q * b := by
  constructor
  · intro enough
    exact Nat.le_trans (le_ceilDiv_mul a positive) (Nat.mul_le_mul_right b enough)
  · intro reach
    have most := ceilDiv_mul_lt a positive
    refine Nat.le_of_lt_succ (Nat.lt_of_mul_lt_mul_right (a := b) ?_)
    rw [Nat.succ_mul]
    omega

/-- Division rounded up, by the quotient and the remainder. -/
lemma ceilDiv_eq_div_add (positive : 0 < b) :
    ceilDiv a b = if a % b = 0 then a / b else a / b + 1 := by
  have division := Nat.div_add_mod a b
  have remainder := Nat.mod_lt a positive
  rw [Nat.mul_comm] at division
  split
  · next exact =>
    refine Nat.le_antisymm ((ceilDiv_le_iff positive).mpr (by omega)) ?_
    refine Nat.le_of_mul_le_mul_right (Nat.le_trans ?_ (le_ceilDiv_mul a positive)) positive
    omega
  · next more =>
    refine Nat.le_antisymm ((ceilDiv_le_iff positive).mpr ?_) ?_
    · rw [Nat.add_one_mul]
      omega
    · refine Nat.lt_of_mul_lt_mul_right (a := b)
        (Nat.lt_of_lt_of_le ?_ (le_ceilDiv_mul a positive))
      omega

/-- Division rounded up stays within 64 bits. -/
lemma ceilDiv?_eq (positive : 0 < b) (short : a ≤ maxCount) :
    ceilDiv? a b = some (ceilDiv a b) := by
  have fits := Nat.le_trans (ceilDiv_le a positive) short
  rw [ceilDiv_eq_div_add positive] at fits ⊢
  simp only [ceilDiv?, divMod?, if_neg (Nat.ne_of_gt positive), Option.bind_eq_bind,
    Option.bind_some]
  split
  · rfl
  · next more =>
    rw [if_neg more] at fits
    rw [count?, if_pos fits]

/-- Rounding up stays within 64 bits if its result does. -/
lemma roundUp?_eq (positive : 0 < b) (short : roundUp a b ≤ maxCount) :
    roundUp? a b = some (roundUp a b) := by
  have division := Nat.div_add_mod a b
  have remainder := Nat.mod_lt a positive
  rw [Nat.mul_comm] at division
  unfold roundUp at short ⊢
  rw [ceilDiv_eq_div_add positive] at short ⊢
  simp only [roundUp?, divMod?, if_neg (Nat.ne_of_gt positive), Option.bind_eq_bind,
    Option.bind_some]
  split
  · congr 1
    omega
  · next more =>
    have sum : a + (b - a % b) = (a / b + 1) * b := by
      rw [Nat.add_one_mul]
      omega
    rw [if_neg more] at short
    rw [sum, count?, if_pos short]

/-- **The chunk length is a number of 64 bits**, and no step towards it breaks off. -/
lemma chunkLength?_eq (divided : isWhole length threads block = false)
    (short : (length : Int) ≤ maxPosition) :
    chunkLength? length threads block = some (chunkLength length threads block) := by
  have fits : length ≤ maxCount := by
    unfold maxPosition at short
    unfold maxCount
    omega
  have share := ceilDiv?_eq (b := max threads 1) (by omega) fits
  have rounds := roundUp?_eq (a := ceilDiv length (max threads 1)) (b := max block 1) (by omega)
    (chunkLength_le_maxCount divided short)
  rw [chunkLength?, share]
  exact rounds

/-! ### The chunks of a string -/

/-- The chunks of the given size of the `rest` bytes from `start` on; the last one may be
shorter. -/
def cut (size start rest : Nat) : List Chunk :=
  if size = 0 ∨ rest = 0 then []
  else ⟨start, min size rest⟩ :: cut size (start + min size rest) (rest - min size rest)
termination_by rest
decreasing_by omega

/-- Each chunk begins where the one before it ends; the first at one place, and the last one ends at
another. -/
inductive Adjoin : Nat → List Chunk → Nat → Prop where
  | nil (place : Nat) : Adjoin place [] place
  | cons {place stop : Nat} {c : Chunk} {parts : List Chunk} (begins : c.offset = place)
      (rest : Adjoin (place + c.length) parts stop) : Adjoin place (c :: parts) stop

/-- The chunks of a string adjoin each other from its start to its end. -/
lemma adjoin_cut (positive : 0 < size) (start rest : Nat) :
    Adjoin start (cut size start rest) (start + rest) := by
  fun_induction cut size start rest with
  | case1 start rest nothing =>
    rcases nothing with none | none
    · omega
    · rw [none]
      exact .nil start
  | case2 start rest some ih =>
    refine .cons rfl ?_
    have ends : start + min size rest + (rest - min size rest) = start + rest := by omega
    rwa [ends] at ih

/-- Cutting from a multiple of the size on gives the chunks from there on. -/
lemma cut_eq_map (positive : 0 < size) (length first : Nat) {count : Nat}
    (total : first + count = ceilDiv length size) :
    cut size (first * size) (length - first * size) =
      (List.range' first count).map fun i => ⟨i * size, min size (length - i * size)⟩ := by
  induction count generalizing first with
  | zero =>
    have reach := le_ceilDiv_mul length positive
    rw [← total, Nat.add_zero] at reach
    rw [cut, if_pos (.inr (by omega))]
    rfl
  | succ count ih =>
    have begins : first * size < length := chunk_offset_lt positive (by omega)
    rw [cut, if_neg (by omega), List.range'_succ, List.map_cons]
    congr 1
    by_cases whole : size ≤ length - first * size
    · have later := ih (first + 1) (by omega)
      rw [Nat.add_one_mul] at later
      rw [Nat.min_eq_left whole, ← later, Nat.sub_sub]
    · -- The last chunk is cut short, and there is no other one.
      have last : count = 0 := by
        have ends := ceilDiv_mul_lt length positive
        have more : (first + 1) * size ≤ ceilDiv length size * size := by
          rw [← total]
          exact Nat.mul_le_mul_right size (by omega)
        by_contra others
        have next : (first + 2) * size ≤ ceilDiv length size * size := by
          rw [← total]
          exact Nat.mul_le_mul_right size (by omega)
        rw [Nat.add_mul] at next
        omega
      rw [last, cut, if_pos (.inr (by omega))]
      rfl

/-- The chunks of a divided copy are those that the string is cut into. -/
lemma cut_eq_chunks (divided : isWhole length threads block = false) :
    cut (chunkLength length threads block) 0 length = chunks length threads block := by
  have same := cut_eq_map (chunkLength_pos divided) length 0 (Nat.zero_add _)
  rw [Nat.zero_mul, Nat.sub_zero] at same
  rw [same, ← List.range_eq_range', chunks, divided]
  rfl

/-- What the chunks of a divided copy are like. -/
structure Divides (length threads block : Nat) (parts : List Chunk) : Prop where
  /-- They follow on each other from the start of the string to its end. -/
  adjoin : Adjoin 0 parts length
  /-- Every byte lies in one of them. -/
  cover : ∀ i < length, ∃ c ∈ parts, c.Covers i
  /-- No byte lies in two of them. -/
  disjoint : parts.Pairwise fun c d => ∀ i, ¬(c.Covers i ∧ d.Covers i)
  /-- There is a worker for each of them. -/
  few : parts.length ≤ max threads 1
  /-- They begin and end with a block, save that the last one ends with the string. -/
  aligned : ∀ c ∈ parts, max block 1 ∣ c.offset ∧
    (c.offset + c.length = length ∨ max block 1 ∣ c.offset + c.length)

/-- No more chunks are made than there are workers. -/
lemma ceilDiv_chunkLength_le (divided : isWhole length threads block = false) :
    ceilDiv length (chunkLength length threads block) ≤ max threads 1 := by
  have positive := chunkLength_pos divided
  have share : length ≤ ceilDiv length (max threads 1) * max threads 1 :=
    le_ceilDiv_mul length (by omega)
  have rounded : ceilDiv length (max threads 1) ≤ chunkLength length threads block :=
    le_ceilDiv_mul _ (by omega)
  refine (ceilDiv_le_iff positive).mpr (Nat.le_trans share ?_)
  rw [Nat.mul_comm]
  exact Nat.mul_le_mul_left _ rounded

/-- The chunks of a divided copy are the multiples of the chunk length, each with as many bytes as
there are left. -/
lemma chunks_eq_map (divided : isWhole length threads block = false) :
    chunks length threads block =
      (List.range (ceilDiv length (chunkLength length threads block))).map fun i =>
        ⟨i * chunkLength length threads block, min (chunkLength length threads block)
          (length - i * chunkLength length threads block)⟩ := by
  rw [chunks, divided]
  rfl

/-- No byte lies in two chunks. -/
lemma disjoint_chunks (divided : isWhole length threads block = false) :
    (chunks length threads block).Pairwise fun c d => ∀ i, ¬(c.Covers i ∧ d.Covers i) := by
  rw [chunks_eq_map divided]
  refine List.Pairwise.map _ (fun i j earlier k both => ?_) List.pairwise_lt_range
  obtain ⟨⟨_, before⟩, ⟨behind, _⟩⟩ := both
  have next : (i + 1) * chunkLength length threads block ≤ j * chunkLength length threads block :=
    Nat.mul_le_mul_right _ earlier
  rw [Nat.add_one_mul] at next
  simp only at before behind
  omega

/-- Chunks are made of whole blocks, but for the last one. -/
lemma aligned_chunks (divided : isWhole length threads block = false) {c : Chunk}
    (member : c ∈ chunks length threads block) :
    max block 1 ∣ c.offset ∧
      (c.offset + c.length = length ∨ max block 1 ∣ c.offset + c.length) := by
  have whole : max block 1 ∣ chunkLength length threads block := Nat.dvd_mul_left _ _
  rw [chunks_eq_map divided] at member
  obtain ⟨i, index, rfl⟩ := List.mem_map.mp member
  have begins : max block 1 ∣ i * chunkLength length threads block := Dvd.dvd.mul_left whole i
  refine ⟨begins, ?_⟩
  by_cases last : length - i * chunkLength length threads block ≤ chunkLength length threads block
  · left
    have inside := chunk_offset_lt (chunkLength_pos divided) (List.mem_range.mp index)
    simp only [Nat.min_eq_right last]
    omega
  · right
    rw [Nat.min_eq_left (by omega)]
    exact Nat.dvd_add begins whole

/-- **The division into chunks** follows on from chunk to chunk, in whole blocks, with no more
chunks than workers. -/
theorem divides_chunks (divided : isWhole length threads block = false) :
    Divides length threads block (chunks length threads block) where
  adjoin := by
    have adjoin := adjoin_cut (chunkLength_pos divided) 0 length
    rwa [cut_eq_chunks divided, Nat.zero_add] at adjoin
  cover _ inside := exists_covers inside
  disjoint := disjoint_chunks divided
  few := by
    rw [chunks_eq_map divided, List.length_map, List.length_range]
    exact ceilDiv_chunkLength_le divided
  aligned _ member := aligned_chunks divided member

/-! ### The course of a copy -/

/-- How a copy ends: whether it has been carried out, and the target then. -/
structure Ending where
  finished : Bool
  target : Bytes
  deriving DecidableEq, Repr

/-- Workers copy a chunk of the source over a chunk of the target each, one after the other.
Between chunks of different lengths there is no copy. -/
def carryPairs (source : Bytes) : List (Chunk × Chunk) → Bytes → Ending
  | [], target => ⟨true, target⟩
  | (there, here) :: pairs, target =>
    if there.length = here.length then
      carryPairs source pairs
        (target.overlay there.offset (source.window here.offset here.length))
    else ⟨false, target⟩

/-- A copy in all its steps.  The workers take their turns in the given order. -/
def carryOut (order : List (Chunk × Chunk) → List (Chunk × Chunk)) (target source : Bytes)
    (threads block : Nat) : Ending :=
  if target.length ≠ source.length then ⟨false, target⟩
  else if isWhole source.length threads block then ⟨true, target.overlay 0 source⟩
  else
    match chunkLength? source.length threads block with
    | none | some 0 => ⟨false, target⟩
    | some size =>
      carryPairs source (order ((cut size 0 target.length).zip (cut size 0 source.length))) target

variable {target source : Bytes}

/-- Workers that each copy a chunk to its own place make the copies of these chunks. -/
lemma carryPairs_map (source target : Bytes) (parts : List Chunk) :
    carryPairs source (parts.map fun c => (c, c)) target =
      ⟨true, copyChunks source target parts⟩ := by
  induction parts generalizing target with
  | nil => rfl
  | cons c parts ih =>
    rw [List.map_cons, carryPairs, if_pos rfl]
    exact ih (copyChunk source target c)

/-- **Any order will do.**  However the chunks of a divided copy are arranged, their copies are the
copy. -/
lemma copyChunks_of_perm (same : target.length = source.length) {order : List Chunk}
    (perm : order.Perm (chunks source.length threads block)) :
    copyChunks source target order = source := by
  refine copyChunks_eq_source same (fun c member => chunks_within (perm.mem_iff.mp member)) ?_
  intro i inside
  obtain ⟨c, member, covers⟩ : ∃ c ∈ chunks source.length threads block, c.Covers i :=
    exists_covers inside
  exact .inl ⟨c, perm.mem_iff.mpr member, covers⟩

/-- Pairs of a chunk with itself, in another order, are such pairs in that order. -/
lemma exists_perm_of_pairs {pairs : List (Chunk × Chunk)} {parts : List Chunk}
    (perm : pairs.Perm (parts.map fun c => (c, c))) :
    ∃ arranged : List Chunk, arranged.Perm parts ∧ pairs = arranged.map fun c => (c, c) := by
  refine ⟨pairs.map Prod.fst, ?_, ?_⟩
  · have firsts := perm.map Prod.fst
    rwa [List.map_map, show Prod.fst ∘ (fun c : Chunk => (c, c)) = id from rfl, List.map_id]
      at firsts
  · rw [List.map_map]
    refine (List.map_id' pairs).symm.trans (List.map_congr_left fun pair member => ?_)
    obtain ⟨c, _, rfl⟩ := List.mem_map.mp (perm.mem_iff.mp member)
    rfl

/-- What a copy promises between a target and a source of one length. -/
structure Succeeds (order : List (Chunk × Chunk) → List (Chunk × Chunk)) (target source : Bytes)
    (threads block : Nat) : Prop where
  /-- Nothing breaks it off, and the target is the source afterwards. -/
  carried : carryOut order target source threads block = ⟨true, source⟩
  /-- So it is with the chunks one after the other. -/
  copied : parallel? target source threads block = some source
  /-- If the copy is divided, the chunk length is computed within 64 bits and is positive. -/
  size : isWhole source.length threads block = false →
    chunkLength? source.length threads block = some (chunkLength source.length threads block) ∧
      0 < chunkLength source.length threads block
  /-- The chunks of the target and of the source are then paired with themselves. -/
  pairs : isWhole source.length threads block = false →
    (cut (chunkLength source.length threads block) 0 target.length).zip
        (cut (chunkLength source.length threads block) 0 source.length) =
      (chunks source.length threads block).map fun c => (c, c)
  /-- They make up the string. -/
  divides : isWhole source.length threads block = false →
    Divides source.length threads block (chunks source.length threads block)

/-- Pairs of the chunks of two strings of one length. -/
lemma zip_cut (same : target.length = source.length)
    (divided : isWhole source.length threads block = false) :
    (cut (chunkLength source.length threads block) 0 target.length).zip
        (cut (chunkLength source.length threads block) 0 source.length) =
      (chunks source.length threads block).map fun c => (c, c) := by
  rw [same, cut_eq_chunks divided]
  have pairs := List.zip_map' (f := id) (g := id) (l := chunks source.length threads block)
  rwa [List.map_id] at pairs

/-- A copy between strings of one length succeeds, in any order of the workers. -/
lemma succeeds (same : target.length = source.length)
    {order : List (Chunk × Chunk) → List (Chunk × Chunk)}
    (anyOrder : ∀ pairs, (order pairs).Perm pairs) (short : (source.length : Int) ≤ maxPosition)
    (threads block : Nat) : Succeeds order target source threads block where
  carried := by
    unfold carryOut
    rw [if_neg (not_not_intro same)]
    cases divided : isWhole source.length threads block with
    | true =>
      have all : target.overlay 0 source = source := by simp [Bytes.overlay, same]
      rw [if_pos rfl, all]
    | false =>
      have positive := chunkLength_pos divided
      have perm := anyOrder ((cut (chunkLength source.length threads block) 0 target.length).zip
        (cut (chunkLength source.length threads block) 0 source.length))
      rw [zip_cut same divided] at perm
      obtain ⟨arranged, perm, ordered⟩ := exists_perm_of_pairs perm
      rw [if_neg Bool.false_ne_true, chunkLength?_eq divided short]
      split
      · next none => cases none
      · next zero => exact absurd (Option.some.inj zero) (Nat.ne_of_gt positive)
      · next size _ some =>
        rw [← Option.some.inj some, zip_cut same divided, ordered, carryPairs_map,
          copyChunks_of_perm same perm]
  copied := parallel?_eq_source same threads block
  size divided := ⟨chunkLength?_eq divided short, chunkLength_pos divided⟩
  pairs divided := zip_cut same divided
  divides divided := divides_chunks divided

/-- **A shared copy is a copy.**  Between strings of one length, less than `2 ^ 63`, the copy
succeeds for any number of workers and any block size, in whatever order the workers take their
turns.  Between strings of different lengths it breaks off before anything is copied. -/
theorem shared_copy_is_copy {order : List (Chunk × Chunk) → List (Chunk × Chunk)}
    (anyOrder : ∀ pairs, (order pairs).Perm pairs) (target source : Bytes)
    (threads block : Nat) :
    (target.length = source.length → (source.length : Int) ≤ maxPosition →
      Succeeds order target source threads block) ∧
      (target.length ≠ source.length →
        carryOut order target source threads block = ⟨false, target⟩ ∧
          parallel? target source threads block = none) := by
  refine ⟨fun same short => succeeds same anyOrder short threads block, fun different => ⟨?_, ?_⟩⟩
  · rw [carryOut, if_pos different]
  · rw [parallel?, if_neg different]

/-- Five bytes for three workers in blocks of two: three chunks, the last of them first. -/
theorem reversed_copy_is_copy :
    (∀ pairs : List (Chunk × Chunk), pairs.reverse.Perm pairs) ∧
      (([1, 2, 3, 4, 5] : Bytes).length : Int) ≤ maxPosition ∧
      Succeeds List.reverse [0, 0, 0, 0, 0] [1, 2, 3, 4, 5] 3 2 ∧
      isWhole 5 3 2 = false ∧ chunks 5 3 2 = [⟨0, 2⟩, ⟨2, 2⟩, ⟨4, 1⟩] ∧
      carryOut List.reverse [0, 0, 0] [1, 2, 3, 4, 5] 3 2 = ⟨false, [0, 0, 0]⟩ := by
  have anyOrder (pairs : List (Chunk × Chunk)) : pairs.reverse.Perm pairs := pairs.reverse_perm
  have short : (([1, 2, 3, 4, 5] : Bytes).length : Int) ≤ maxPosition := by decide
  exact ⟨anyOrder, short,
    (shared_copy_is_copy anyOrder [0, 0, 0, 0, 0] [1, 2, 3, 4, 5] 3 2).1 rfl short, rfl, rfl,
    ((shared_copy_is_copy anyOrder [0, 0, 0] [1, 2, 3, 4, 5] 3 2).2 (by decide)).1⟩

end ByteStreams.Copy
