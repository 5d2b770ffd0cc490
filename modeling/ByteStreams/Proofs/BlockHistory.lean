import ByteStreams.Proofs.Bytes
import ByteStreams.Proofs.Run
import Mathlib.Order.Lattice

/-!
# The history of a block

A block is resized, emptied, given room and relieved of it, in any order, and each reservation may
be refused.  What it holds then depends on two lengths of its history: the last one that it was
brought to, and the least one that it has ever had.  The bytes that have always been within the
block are still there, and all others are zero (`block_follows_history`), so that nothing that was
cut off comes back when the block grows again.
-/

namespace ByteStreams

/-- The first `kept` bytes of the content, and zeros behind them up to the length. -/
def Bytes.filled (content : Bytes) (kept length : Nat) : Bytes :=
  content.take (min kept length) ++ List.replicate (length - min kept length) 0

/-- All bytes of the content are the content. -/
lemma Bytes.filled_length (content : Bytes) :
    content.filled content.length content.length = content := by
  simp [filled]

/-- Bringing filled bytes to another length keeps no more of the content than that length. -/
lemma Bytes.resized_filled {content : Bytes} {kept length : Nat} (inside : kept ≤ content.length)
    (within : kept ≤ length) (other : Nat) :
    (content.filled kept length).resized other = content.filled (min kept other) other := by
  have front : (content.take kept).length = kept := by
    rw [List.length_take, Nat.min_eq_left inside]
  have total : (content.take kept ++ List.replicate (length - kept) (0 : UInt8)).length =
      length := by
    rw [List.length_append, front, List.length_replicate]
    omega
  have zeros : min (other - kept) (length - kept) + (other - length) =
      other - min (min kept other) other := by
    omega
  have least : min other kept = min (min kept other) other := by omega
  rw [filled, Nat.min_eq_left within, resized, total, List.take_append, front, List.take_take,
    List.take_replicate, List.append_assoc, List.replicate_append_replicate, zeros, least, filled]

namespace Block

/-! ### Changes -/

/-- A change of a block. -/
inductive Change where
  | resize (length : Nat)
  | reserve (additional : Nat)
  | shrinkToFit
  | clear
  deriving DecidableEq, Repr

/-- A change, and the allocator that decides on what it reserves. -/
structure Request where
  allocator : Allocator
  change : Change

/-- The new block, or the old one if there is no new one. -/
def replaced (b : Block) : Except Error Block → Except Error Unit × Block
  | .ok c => (.ok (), c)
  | .error e => (.error e, b)

/-- What comes of a change, and the block after it. -/
def machine : Machine Request (Except Error Unit) Block := fun r b =>
  match r.change with
  | .resize length => b.replaced (b.resize r.allocator length)
  | .reserve additional => b.replaced (b.reserve r.allocator additional)
  | .shrinkToFit => (.ok (), b.shrinkToFit)
  | .clear => (.ok (), b.clear)

/-- The length that a change has set. -/
def lengthSet? : Request × Except Error Unit → Option Nat
  | (⟨_, .resize length⟩, .ok ()) => some length
  | (⟨_, .clear⟩, .ok ()) => some 0
  | (⟨_, .resize _⟩, .error _) | (⟨_, .clear⟩, .error _) | (⟨_, .reserve _⟩, _)
  | (⟨_, .shrinkToFit⟩, _) => none

/-- All lengths that have been set, the earliest first. -/
def lengthsSet (past : List (Request × Except Error Unit)) : List Nat := past.filterMap lengthSet?

/-- The length that was set last, or the initial one. -/
def lastLength (initial : Nat) (past : List (Request × Except Error Unit)) : Nat :=
  (lengthsSet past).getLastD initial

/-- The least of the initial length and all that have been set. -/
def leastLength (initial : Nat) (past : List (Request × Except Error Unit)) : Nat :=
  (lengthsSet past).foldl min initial

variable {a : Allocator} {b start : Block} {past : List (Request × Except Error Unit)}

/-- **What a change does to the bytes**: it brings them to the length that it sets, or leaves them
as they are. -/
lemma machine_bytes (r : Request) (b : Block) :
    (machine r b).2.bytes =
      match lengthSet? (r, (machine r b).1) with
      | some length => b.bytes.resized length
      | none => b.bytes := by
  obtain ⟨a, change⟩ := r
  cases change with
  | resize length =>
    cases resized : b.resize a length with
    | ok c =>
      simp only [machine, resized, replaced, lengthSet?]
      exact bytes_of_resize resized
    | error e => simp only [machine, resized, replaced, lengthSet?]
  | reserve additional =>
    cases reserved : b.reserve a additional with
    | ok c =>
      simp only [machine, reserved, replaced, lengthSet?]
      exact bytes_of_reserve reserved
    | error e => simp only [machine, reserved, replaced, lengthSet?]
  | shrinkToFit => rfl
  | clear => simp [machine, clear, lengthSet?, Bytes.resized]

/-- A change that fails leaves the block as it is. -/
lemma eq_of_failed {r : Request} (failed : (machine r b).1.isOk = false) :
    (machine r b).2 = b := by
  obtain ⟨a, change⟩ := r
  have kept (result : Except Error Block) (refused : (b.replaced result).1.isOk = false) :
      (b.replaced result).2 = b := by
    cases result with
    | ok c => cases refused
    | error e => rfl
  cases change with
  | resize length => exact kept (b.resize a length) failed
  | reserve additional => exact kept (b.reserve a additional) failed
  | shrinkToFit | clear => cases failed

/-- Cutting a block off needs no memory. -/
lemma machine_resize_of_le {length : Nat} (shorter : length ≤ b.length) :
    (machine ⟨a, .resize length⟩ b).1 = .ok () := by
  simp only [machine, resize_of_le a shorter, replaced]

/-! ### Histories -/

/-- The last length, after one more change. -/
lemma lastLength_concat (initial : Nat) (past : List (Request × Except Error Unit))
    (e : Request × Except Error Unit) :
    lastLength initial (past ++ [e]) = (lengthSet? e).getD (lastLength initial past) := by
  unfold lastLength lengthsSet
  rw [List.filterMap_append]
  cases set : lengthSet? e <;> simp [set]

/-- The least length, after one more change. -/
lemma leastLength_concat (initial : Nat) (past : List (Request × Except Error Unit))
    (e : Request × Except Error Unit) :
    leastLength initial (past ++ [e]) =
      ((lengthSet? e).map (min (leastLength initial past))).getD (leastLength initial past) := by
  unfold leastLength lengthsSet
  rw [List.filterMap_append]
  cases set : lengthSet? e <;> simp [set]

/-- A block that is as its history says. -/
structure Recalls (start : Block) (past : List (Request × Except Error Unit)) (b : Block) :
    Prop where
  bytes : b.bytes =
    start.bytes.filled (leastLength start.length past) (lastLength start.length past)
  /-- The block has never been shorter than what is left of the initial bytes. -/
  old : leastLength start.length past ≤ start.length
  fits : leastLength start.length past ≤ lastLength start.length past

/-- Each change keeps the block as its history says. -/
lemma Recalls.step (h : Recalls start past b) (r : Request) :
    Recalls start (past ++ [(r, (machine r b).1)]) (machine r b).2 := by
  have changed := machine_bytes r b
  constructor <;> rw [leastLength_concat]
  case bytes =>
    rw [lastLength_concat, changed, h.bytes]
    cases lengthSet? (r, (machine r b).1) with
    | none => rfl
    | some length => exact Bytes.resized_filled h.old h.fits length
  case old =>
    cases lengthSet? (r, (machine r b).1) with
    | none => exact h.old
    | some length => exact Nat.le_trans (Nat.min_le_left ..) h.old
  case fits =>
    rw [lastLength_concat]
    cases lengthSet? (r, (machine r b).1) with
    | none => exact h.fits
    | some length => exact Nat.min_le_right ..

/-- After any run a block is as its history says. -/
theorem recalls_run (start : Block) (requests : List Request) :
    Recalls start (machine.transcript requests start) (machine.final requests start) := by
  refine Machine.run_induction ?_ (fun _ _ r now => now.step r) requests
  exact ⟨(Bytes.filled_length start.bytes).symm, Nat.le_refl _, Nat.le_refl _⟩

/-- The length of a block is the last one that was set. -/
lemma Recalls.length (h : Recalls start past b) : b.length = lastLength start.length past := by
  have old : leastLength start.length past ≤ start.bytes.length := h.old
  have fits := h.fits
  rw [Block.length, h.bytes, Bytes.filled, List.length_append, List.length_take,
    List.length_replicate]
  omega

/-- Bytes that were not there at the start are zero. -/
lemma Recalls.zero (h : Recalls start past b) {i : Nat} (beyond : start.length ≤ i)
    (inside : i < b.length) : b.bytes[i]? = some 0 := by
  have old := h.old
  have fits := h.fits
  have front : (start.bytes.take (leastLength start.length past)).length =
      leastLength start.length past := by
    rw [List.length_take]
    exact Nat.min_eq_left old
  rw [h.length] at inside
  rw [h.bytes, Bytes.filled, Nat.min_eq_left fits, List.getElem?_append_right (by omega), front,
    List.getElem?_replicate, if_pos (by omega)]

/-- What the history of a block says about it. -/
structure FollowsHistory (start : Block) (requests : List Request) : Prop where
  /-- Its length is the last one that was set. -/
  length : (machine.final requests start).length =
    lastLength start.length (machine.transcript requests start)
  /-- The initial bytes that have always been within the block are still there, and zeros behind
  them. -/
  bytes : (machine.final requests start).bytes =
    start.bytes.filled (leastLength start.length (machine.transcript requests start))
      (lastLength start.length (machine.transcript requests start))
  /-- A buffer that is made of the block has the same bytes, all of its memory. -/
  frozen : ∀ tag, ((machine.final requests start).freeze tag).content =
      (machine.final requests start).bytes ∧
    ((machine.final requests start).freeze tag).memory.bytes =
      (machine.final requests start).bytes
  /-- What lay outside the block at any moment is zero if it lies within the block now. -/
  lost : ∀ earlier later, requests = earlier ++ later →
    ∀ i, (machine.final earlier start).length ≤ i → i < (machine.final requests start).length →
      (machine.final requests start).bytes[i]? = some 0
  /-- A change that fails changes nothing. -/
  refused : ∀ r, (machine r (machine.final requests start)).1.isOk = false →
    (machine r (machine.final requests start)).2 = machine.final requests start
  /-- Resizing to the present length, or to a shorter one, does not fail. -/
  shorter : ∀ a length, length ≤ (machine.final requests start).length →
    (machine ⟨a, .resize length⟩ (machine.final requests start)).1 = .ok ()

/-- **A block follows its history**, whatever it held at first, whichever changes were made, and
whichever reservations were refused. -/
theorem block_follows_history (start : Block) (requests : List Request) :
    FollowsHistory start requests where
  length := (recalls_run start requests).length
  bytes := (recalls_run start requests).bytes
  frozen tag := ⟨Buffer.content_ofBytes tag _, rfl⟩
  lost earlier later parts i beyond inside := by
    rw [parts, Machine.final_append] at inside ⊢
    exact (recalls_run (machine.final earlier start) later).zero beyond inside
  refused _ := eq_of_failed
  shorter _ _ := machine_resize_of_le

/-- Six of ten bytes are cut off, and zeros come in their place when the block grows again. -/
example : (machine.final [⟨.below 8, .resize 4⟩, ⟨.below 8, .resize 6⟩]
    (.ofBytes [100, 97, 116, 97, 49, 50, 51, 52, 53, 54])).bytes = [100, 97, 116, 97, 0, 0] := rfl

end Block

end ByteStreams
