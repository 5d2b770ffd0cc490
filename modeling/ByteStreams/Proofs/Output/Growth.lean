import ByteStreams.Proofs.Output.Interchange
import Mathlib.Algebra.Order.Ring.Nat
import Mathlib.Order.Bounds.Defs

/-!
# How an append stream grows

A stream that needs room doubles its capacity until there is enough.  It may come to a capacity in
one leap or in several, but no leap goes further than the bytes written so far need, so that the
capacity depends on their number alone (`capacityFor_capacityFor`).  It is the least of the
doublings that is enough, unless that is too great a number (`isDoubling_grownFrom`).

`AppendStream.having start log` is the new stream `start` once the bytes `log` are written.  A write
of more bytes takes it to the stream that has these as well (`write_having`), however they are
divided among writes.
-/

namespace ByteStreams

/-! ### Doubling -/

variable {needed capacity : Nat}

/-- Whoever needs more may begin with what was grown for less. -/
lemma grownFrom_grownFrom {less : Nat} (h : less ≤ needed) (capacity : Nat) :
    grownFrom needed (grownFrom less capacity) = grownFrom needed capacity := by
  fun_induction grownFrom less capacity with
  | case1 capacity enough => rfl
  | case2 capacity lacks stuck => rfl
  | case3 capacity lacks free ih =>
    rw [ih]
    conv_rhs => rw [grownFrom, if_neg (by omega), if_neg free]

/-- A capacity that is enough does not grow. -/
lemma grownFrom_of_le (enough : needed ≤ capacity) : grownFrom needed capacity = capacity := by
  rw [grownFrom, if_pos enough]

/-- The capacity is the least doubling of another one that is enough, or the greatest count if that
is less. -/
def IsDoubling (needed least capacity : Nat) : Prop :=
  ∃ k, needed ≤ least * 2 ^ k ∧ (∀ j < k, least * 2 ^ j < needed) ∧
    capacity = min (least * 2 ^ k) maxCount

/-- **Growing finds the least doubling that is enough.** -/
theorem isDoubling_grownFrom (positive : 0 < capacity) (short : needed ≤ maxCount)
    (counted : capacity ≤ maxCount) : IsDoubling needed capacity (grownFrom needed capacity) := by
  fun_induction grownFrom needed capacity with
  | case1 capacity enough =>
    refine ⟨0, by omega, fun j low => absurd low (Nat.not_lt_zero j), ?_⟩
    rw [Nat.pow_zero, Nat.mul_one, Nat.min_eq_left counted]
  | case2 capacity lacks stuck => omega
  | case3 capacity lacks free ih =>
    have lacking : capacity * 2 ^ 0 < needed := by
      rw [Nat.pow_zero]
      omega
    have twice : capacity * 2 ^ 1 = capacity * 2 := rfl
    by_cases fits : capacity * 2 ≤ maxCount
    · -- The next capacity is the double, whose doublings are those of this one from the second on.
      have double : cappedDouble capacity = capacity * 2 := Nat.min_eq_left fits
      rw [double] at ih ⊢
      obtain ⟨k, enough, before, grown⟩ := ih (by omega) fits
      have shift (j : Nat) : capacity * 2 * 2 ^ j = capacity * 2 ^ (j + 1) := by
        rw [Nat.pow_succ', Nat.mul_assoc]
      rw [shift] at enough grown
      refine ⟨k + 1, enough, fun j low => ?_, grown⟩
      cases j with
      | zero => exact lacking
      | succ j =>
        rw [← shift]
        exact before j (by omega)
    · have top : cappedDouble capacity = maxCount := Nat.min_eq_right (by omega)
      rw [top, grownFrom_of_le short]
      refine ⟨1, by omega, fun j low => ?_, ?_⟩
      · rw [Nat.lt_one_iff.mp low]
        exact lacking
      · rw [twice, Nat.min_eq_right (by omega)]

/-- The first doubling that is enough is the least one. -/
lemma isLeast_doubling {least k : Nat} (enough : needed ≤ least * 2 ^ k)
    (before : ∀ j < k, least * 2 ^ j < needed) :
    IsLeast {n | needed ≤ n ∧ ∃ k, n = least * 2 ^ k} (least * 2 ^ k) := by
  refine ⟨⟨enough, k, rfl⟩, ?_⟩
  rintro _ ⟨other, j, rfl⟩
  by_contra less
  have low : j < k := by
    by_contra high
    have more : least * 2 ^ k ≤ least * 2 ^ j :=
      Nat.mul_le_mul_left least (Nat.pow_le_pow_right (by decide) (by omega))
    omega
  exact absurd other (Nat.not_le.mpr (before j low))

/-- For a number of bytes that is a position, the least doubling that is enough is a count. -/
lemma IsDoubling.isLeast {least : Nat} (h : IsDoubling needed least capacity)
    (short : (needed : Int) ≤ maxPosition) (counted : least ≤ maxCount) :
    IsLeast {n | needed ≤ n ∧ ∃ k, n = least * 2 ^ k} capacity := by
  obtain ⟨k, enough, before, same⟩ := h
  have fits : least * 2 ^ k ≤ maxCount := by
    cases k with
    | zero => rwa [Nat.pow_zero, Nat.mul_one]
    | succ k =>
      have half := before k (Nat.lt_succ_self k)
      unfold maxPosition at short
      rw [Nat.pow_succ, ← Nat.mul_assoc]
      unfold maxCount
      omega
  rw [Nat.min_eq_left fits] at same
  rw [same]
  exact isLeast_doubling enough before

/-- The capacity of a stream that began with another one and has to hold so many bytes. -/
def capacityFor (capacity held : Nat) : Nat :=
  if held ≤ capacity then capacity else grownFrom held (max capacity leastCapacity)

variable {held : Nat}

/-- Bytes for which there is room need no other capacity. -/
lemma capacityFor_of_le (room : held ≤ capacity) : capacityFor capacity held = capacity :=
  if_pos room

/-- A stream does not shrink. -/
lemma le_capacityFor (capacity held : Nat) : capacity ≤ capacityFor capacity held := by
  unfold capacityFor
  split
  · exact Nat.le_refl capacity
  · exact Nat.le_trans (Nat.le_max_left ..) (le_grownFrom ..)

/-- A stream that lacks room grows from its capacity, or from the least one that streams grow to. -/
lemma isDoubling_capacityFor (lacks : capacity < held) (short : held ≤ maxCount) :
    IsDoubling held (max capacity leastCapacity) (capacityFor capacity held) := by
  rw [capacityFor, if_neg (Nat.not_le.mpr lacks)]
  have least : leastCapacity ≤ maxCount := by decide
  have positive : 0 < leastCapacity := by decide
  exact isDoubling_grownFrom (by omega) short (by omega)

/-- There is room for all bytes that are held. -/
lemma held_le_capacityFor (capacity : Nat) (short : held ≤ maxCount) :
    held ≤ capacityFor capacity held := by
  by_cases room : held ≤ capacity
  · exact Nat.le_trans room (le_capacityFor capacity held)
  · obtain ⟨k, enough, _, same⟩ := isDoubling_capacityFor (Nat.not_le.mp room) short
    omega

/-- **The way does not matter.**  A stream that has grown before comes to the capacity that it would
have come to at once. -/
lemma capacityFor_capacityFor {less : Nat} (h : less ≤ held) (capacity : Nat) :
    capacityFor (capacityFor capacity less) held = capacityFor capacity held := by
  by_cases room : less ≤ capacity
  · rw [capacityFor_of_le room]
  · have base : leastCapacity ≤ grownFrom less (max capacity leastCapacity) :=
      Nat.le_trans (Nat.le_max_right ..) (le_grownFrom ..)
    have again := grownFrom_grownFrom h (max capacity leastCapacity)
    unfold capacityFor
    rw [if_neg room, if_neg (show ¬held ≤ capacity by omega), Nat.max_eq_left base, again]
    split
    · next enough => rw [← again, grownFrom_of_le enough]
    · rfl

/-! ### Bytes and blocks -/

namespace Bytes

/-- Data laid right behind other data is laid together with it. -/
lemma overlay_overlay (target log data : Bytes) :
    (target.overlay 0 log).overlay log.length data = target.overlay 0 (log ++ data) := by
  simp [overlay, List.drop_append]

/-- What is laid over a string stays when the string is made longer. -/
lemma resized_overlay {target log : Bytes} {length : Nat} (fits : log.length ≤ target.length)
    (longer : target.length ≤ length) :
    (target.overlay 0 log).resized length = (target.resized length).overlay 0 log := by
  have total : (target.overlay 0 log).length = target.length :=
    length_overlay (by rwa [Nat.zero_add])
  unfold resized
  rw [total, List.take_of_length_le (by omega), List.take_of_length_le longer]
  simp [overlay, List.drop_append_of_le_length fits]

/-- Making a string longer twice makes it as long as it is the second time. -/
lemma resized_resized {content : Bytes} {middle length : Nat} (once : content.length ≤ middle)
    (twice : middle ≤ length) :
    (content.resized middle).resized length = content.resized length := by
  have zeros : middle - content.length + (length - middle) = length - content.length := by omega
  have total : (content.resized middle).length = middle := length_resized content middle
  rw [resized, total, List.take_of_length_le (by omega)]
  unfold resized
  rw [List.take_of_length_le once, List.take_of_length_le (by omega), List.append_assoc,
    List.replicate_append_replicate, zeros]

/-- A string has its own length already. -/
lemma resized_length (content : Bytes) : content.resized content.length = content := by
  simp [resized]

/-- A string that is made longer keeps its bytes, and has zeros behind them. -/
lemma getElem?_resized {content : Bytes} {length : Nat} (longer : content.length ≤ length)
    (i : Nat) : (content.resized length)[i]? =
      if i < content.length then content[i]? else if i < length then some 0 else none := by
  unfold resized
  rw [List.take_of_length_le longer, List.getElem?_append, List.getElem?_replicate]
  split
  · rfl
  · have same : i - content.length < length - content.length ↔ i < length := by omega
    simp only [same]

end Bytes

/-- A block that gets what it lacks is resized.  It has no less room than before. -/
lemma Block.resize_of_granted {a : Allocator} {b : Block} {length : Nat}
    (granted : a.permits (length - b.length) = true) :
    b.resize a length = .ok ⟨b.bytes.resized length, max b.room length - length⟩ := by
  unfold resize
  split
  · next shorter =>
    have nothing : length - b.bytes.length = 0 := Nat.sub_eq_zero_of_le shorter
    have room : length ≤ b.room := Nat.le_trans shorter (Nat.le_add_right ..)
    rw [Bytes.resized, nothing, List.replicate_zero, List.append_nil, Nat.max_eq_left room]
  · next longer =>
    have room : b.length + max b.spare (length - b.length) = max b.room length := by
      unfold Block.room
      omega
    simp only [reserve, granted, if_true]
    rw [← room]
    rfl

namespace AppendStream

variable {start s : AppendStream} {a : Allocator} {log data : Bytes}

/-! ### Streams and what they hold -/

/-- A stream grows to the capacity that it needs. -/
lemma grow_of_granted (isOpen : s.closed = false) (granted : a.permits (s.reserves data) = true) :
    s.grow a (s.position + data.length) =
      .ok ⟨s.target.bytes.resized (capacityFor s.capacity (s.position + data.length)),
        max s.target.room (capacityFor s.capacity (s.position + data.length)) -
          capacityFor s.capacity (s.position + data.length)⟩ := by
  unfold grow
  by_cases enough : s.position + data.length ≤ s.capacity
  · have same : s.target.bytes.resized s.capacity = s.target.bytes := Bytes.resized_length _
    have room : max s.target.room s.capacity - s.capacity = s.target.spare := by
      unfold Block.room capacity
      omega
    rw [if_pos enough, capacityFor_of_le enough, same, room]
  · have lacks : ¬ (s.closed ∨ s.position + data.length ≤ s.capacity) := by
      simp [isOpen, enough]
    rw [reserves, if_neg lacks] at granted
    rw [if_neg enough, Block.resize_of_granted granted, capacityFor, if_neg enough]

/-- The new stream `start` once it holds the bytes `log`. -/
def having (start : AppendStream) (log : Bytes) : AppendStream :=
  let capacity := capacityFor start.capacity log.length
  { start with
    target := ⟨(start.target.bytes.resized capacity).overlay 0 log,
      max start.target.room capacity - capacity⟩
    position := log.length }

/-- The capacity of a stream that holds so many bytes. -/
lemma capacity_having (start : AppendStream) (short : log.length ≤ maxCount) :
    (having start log).capacity = capacityFor start.capacity log.length := by
  have fits : log.length ≤ capacityFor start.capacity log.length :=
    held_le_capacityFor _ short
  have inside : 0 + log.length ≤
      (start.target.bytes.resized (capacityFor start.capacity log.length)).length := by
    rwa [Bytes.length_resized, Nat.zero_add]
  exact (Bytes.length_overlay inside).trans (Bytes.length_resized ..)

/-- A new stream holds nothing. -/
lemma having_nil (begins : start.position = 0) : start.having [] = start := by
  obtain ⟨⟨bytes, spare⟩, position, closed, origin⟩ := start
  cases begins
  have same : capacityFor bytes.length 0 = bytes.length := capacityFor_of_le (Nat.zero_le _)
  have room : max (bytes.length + spare) bytes.length - bytes.length = spare := by omega
  simp only [having, capacity, Block.length, Block.room, List.length_nil, same, room,
    Bytes.overlay_nil, Bytes.resized_length]

/-- Whatever a stream holds, it holds no less room than it began with. -/
lemma room_having (short : log.length ≤ maxCount) :
    (having start log).target.room = max start.target.room (having start log).capacity := by
  have room : (having start log).target.room = (having start log).capacity +
      (max start.target.room (capacityFor start.capacity log.length) -
        capacityFor start.capacity log.length) := rfl
  rw [room, capacity_having start short]
  omega

/-- **A write** of more bytes takes a stream that holds some to the one that holds all of them. -/
theorem write_having (isOpen : start.closed = false) (short : (log ++ data).length ≤ maxCount)
    (granted : a.permits ((having start log).reserves data) = true) :
    (having start log).write a data = (.ok (), having start (log ++ data)) := by
  have total : (log ++ data).length = log.length + data.length := List.length_append
  have shorter : log.length ≤ maxCount := by omega
  have capacity := capacity_having start shorter
  have counted : ¬ maxCount < log.length + data.length := by omega
  by_cases empty : data = []
  · rw [empty, List.append_nil]
    simp [write, having, isOpen]
  · -- The block is grown once more, and grows as if it were the first time.
    have grown := grow_of_granted (s := having start log) isOpen granted
    have position : (having start log).position = log.length := rfl
    rw [room_having shorter, capacity, position,
      capacityFor_capacityFor (Nat.le_add_right ..)] at grown
    have base : start.target.bytes.length ≤ capacityFor start.capacity log.length :=
      le_capacityFor start.capacity log.length
    have more : capacityFor start.capacity log.length ≤
        capacityFor start.capacity (log.length + data.length) := by
      rw [← capacityFor_capacityFor (Nat.le_add_right log.length data.length)]
      exact le_capacityFor ..
    have room : max (max start.target.room (capacityFor start.capacity log.length))
        (capacityFor start.capacity (log.length + data.length)) =
          max start.target.room (capacityFor start.capacity (log.length + data.length)) := by
      omega
    have bytes : (having start log).target.bytes.resized
        (capacityFor start.capacity (log.length + data.length)) =
          (start.target.bytes.resized
            (capacityFor start.capacity (log.length + data.length))).overlay 0 log := by
      have fits := held_le_capacityFor start.capacity shorter
      unfold having
      rw [Bytes.resized_overlay, Bytes.resized_resized base more] <;> rw [Bytes.length_resized]
      · exact fits
      · exact more
    have nonempty : data.isEmpty = false := by simpa using empty
    have stillOpen : (having start log).closed = false := isOpen
    rw [room, bytes] at grown
    simp only [write, stillOpen, nonempty, Bool.false_eq_true, if_false, position, if_neg counted,
      grown, Bytes.overlay_overlay]
    simp only [having, total, isOpen]

/-! ### Writing byte strings one after the other -/

/-- Writes of the byte strings, with the allocators that decide on what is reserved for them. -/
def writes (parts : List (Allocator × Bytes)) : List OutputStep :=
  parts.map fun part => ⟨part.1, _, .write part.2⟩

/-- All the bytes of the writes. -/
def joined (parts : List (Allocator × Bytes)) : Bytes := (parts.map Prod.snd).flatten

/-- Writes to a stream that holds some bytes: all succeed, and it holds their bytes as well. -/
lemma final_writes (isOpen : start.closed = false) (log : Bytes) {parts : List (Allocator × Bytes)}
    (short : (log ++ joined parts).length ≤ maxCount)
    (granted : (having start log).Unrefused (writes parts)) :
    steps.final (writes parts) (having start log) = having start (log ++ joined parts) ∧
      ∀ e ∈ steps.transcript (writes parts) (having start log), e.2 = .done := by
  induction parts generalizing log with
  | nil =>
    rw [joined, List.map_nil, List.flatten_nil, List.append_nil]
    exact ⟨rfl, fun e member => absurd member List.not_mem_nil⟩
  | cons part parts ih =>
    obtain ⟨a, data⟩ := part
    have split : log ++ joined ((a, data) :: parts) = (log ++ data) ++ joined parts := by
      simp [joined]
    rw [split] at short ⊢
    have fits : (log ++ data).length ≤ maxCount := by
      rw [List.length_append] at short
      omega
    obtain ⟨now, later⟩ := granted
    have written := write_having isOpen fits now
    have step : steps ⟨a, _, .write data⟩ (having start log) =
        (.done, having start (log ++ data)) := by
      have done : (AppendStream.call a (.write data) (having start log)) =
        (.ok (), having start (log ++ data)) := written
      simp [steps, machine, done, OutputCall.reply, Reply.ofResult, OutputCall.answer]
    rw [step] at later
    obtain ⟨last, replies⟩ := ih _ short later
    rw [writes, List.map_cons, Machine.final, Machine.transcript, step]
    refine ⟨last, List.forall_mem_cons.mpr ⟨rfl, replies⟩⟩

/-- A stream that was made as `start` and to which the bytes have been written. -/
structure Wrote (start : AppendStream) (data : Bytes) (s : AppendStream) : Prop where
  /-- It tells their number. -/
  tells : ∀ a, (s.call a .tell).1 = .ok (data.length : Int)
  /-- They are at the start of its block. -/
  written : s.target.bytes.take data.length = data
  /-- If there was room for them, the capacity is that of the new stream. -/
  roomy : data.length ≤ start.capacity → s.capacity = start.capacity
  /-- Otherwise it is the least doubling that is enough, cut off at the greatest count. -/
  doubled : start.capacity < data.length →
    IsDoubling data.length (max start.capacity leastCapacity) s.capacity
  /-- No doubling is cut off if the number of bytes is a position. -/
  least : start.capacity < data.length → (data.length : Int) ≤ maxPosition →
    IsLeast {n | data.length ≤ n ∧ ∃ k, n = max start.capacity leastCapacity * 2 ^ k} s.capacity
  /-- Behind the bytes, what the new stream had is still there. -/
  kept : ∀ i, data.length ≤ i → i < start.capacity →
    s.target.bytes[i]? = start.target.bytes[i]?
  /-- Behind that, the block is zero. -/
  zero : ∀ i, max data.length start.capacity ≤ i → i < s.capacity → s.target.bytes[i]? = some 0

/-- What a stream that holds the bytes is like. -/
lemma wrote_having (isOpen : start.closed = false) (short : data.length ≤ maxCount) :
    Wrote start data (having start data) := by
  have capacity := capacity_having start short
  have fits : data.length ≤ capacityFor start.capacity data.length :=
    held_le_capacityFor _ short
  have grows : start.target.bytes.length ≤ capacityFor start.capacity data.length :=
    le_capacityFor start.capacity data.length
  have inside : 0 + data.length ≤
      (start.target.bytes.resized (capacityFor start.capacity data.length)).length := by
    rwa [Bytes.length_resized, Nat.zero_add]
  -- A byte behind the data is one of the grown block.
  have behind (i : Nat) (h : data.length ≤ i) : (having start data).target.bytes[i]? =
      if i < start.capacity then start.target.bytes[i]?
      else if i < (having start data).capacity then some 0 else none := by
    have outside : ¬(0 ≤ i ∧ i < 0 + data.length) := by omega
    rw [capacity, having, Bytes.getElem?_overlay inside, if_neg outside,
      Bytes.getElem?_resized grows]
    rfl
  refine ⟨fun a => ?_, ?_, fun room => ?_, fun lacks => ?_, fun lacks small => ?_,
    fun i low high => ?_, fun i low high => ?_⟩
  · simp [AppendStream.call, whenOpen, having, isOpen]
  · simp [having, Bytes.overlay]
  · rw [capacity, capacityFor_of_le room]
  · rw [capacity]
    exact isDoubling_capacityFor lacks short
  · rw [capacity]
    have least : leastCapacity ≤ maxCount := by decide
    exact (isDoubling_capacityFor lacks short).isLeast small (by omega)
  · rw [behind i low, if_pos high]
  · rw [behind i (by omega), if_neg (by omega), if_pos high]

/-- **Only the bytes matter**, not how they are divided among writes.  Take a new append stream,
made on a block of its own or over a borrowed one, and two lists of byte strings which make up the
same bytes when they are joined, no more than can be counted.  If no reservation is refused, then
all writes of either list succeed and leave the stream in the same state. -/
theorem writes_depend_on_joined (made : start.Made) {one other : List (Allocator × Bytes)}
    (same : joined one = joined other) (short : (joined one).length ≤ maxCount)
    (grantedOne : start.Unrefused (writes one)) (grantedOther : start.Unrefused (writes other)) :
    steps.final (writes one) start = steps.final (writes other) start ∧
      Wrote start (joined one) (steps.final (writes one) start) ∧
      (∀ e ∈ steps.transcript (writes one) start, e.2 = .done) ∧
      ∀ e ∈ steps.transcript (writes other) start, e.2 = .done := by
  obtain ⟨isOpen, begins⟩ : start.closed = false ∧ start.position = 0 := by
    cases made with
    | create made =>
      unfold AppendStream.create at made
      split at made <;> cases made
      exact ⟨rfl, rfl⟩
    | wrap target => exact ⟨rfl, rfl⟩
  have nothing := having_nil begins
  rw [← nothing] at grantedOne grantedOther
  obtain ⟨lastOne, repliesOne⟩ := final_writes isOpen [] short grantedOne
  obtain ⟨lastOther, repliesOther⟩ :=
    final_writes isOpen [] (same ▸ short) grantedOther
  rw [nothing, List.nil_append] at lastOne lastOther
  rw [nothing] at repliesOne repliesOther
  refine ⟨?_, ?_, repliesOne, repliesOther⟩
  · rw [lastOne, lastOther, same]
  · rw [lastOne]
    exact wrote_having isOpen short

/-- Three bytes, in one write or in two with an empty one between, to a stream over one byte. -/
theorem split_writes_depend_on_joined :
    (wrap (.ofBytes [9])).Made ∧
      joined [(⟨fun _ => true⟩, [1, 2, 3])] =
        joined [(⟨fun _ => true⟩, [1]), (⟨fun _ => false⟩, []), (⟨fun _ => true⟩, [2, 3])] ∧
      (joined [(⟨fun _ => true⟩, [1, 2, 3])]).length ≤ maxCount ∧
      (wrap (.ofBytes [9])).Unrefused (writes [(⟨fun _ => true⟩, [1, 2, 3])]) ∧
      (wrap (.ofBytes [9])).Unrefused
        (writes [(⟨fun _ => true⟩, [1]), (⟨fun _ => false⟩, []), (⟨fun _ => true⟩, [2, 3])]) ∧
      steps.final (writes [(⟨fun _ => true⟩, [1, 2, 3])]) (wrap (.ofBytes [9])) =
        steps.final
          (writes [(⟨fun _ => true⟩, [1]), (⟨fun _ => false⟩, []), (⟨fun _ => true⟩, [2, 3])])
          (wrap (.ofBytes [9])) ∧
      Wrote (wrap (.ofBytes [9])) [1, 2, 3]
        (steps.final (writes [(⟨fun _ => true⟩, [1, 2, 3])]) (wrap (.ofBytes [9]))) := by
  have made : (wrap (.ofBytes [9])).Made := .wrap _
  have same : joined [((⟨fun _ => true⟩ : Allocator), [1, 2, 3])] =
      joined [(⟨fun _ => true⟩, [1]), (⟨fun _ => false⟩, []), (⟨fun _ => true⟩, [2, 3])] := rfl
  have short : (joined [((⟨fun _ => true⟩ : Allocator), [1, 2, 3])]).length ≤ maxCount := by decide
  have one : (wrap (.ofBytes [9])).Unrefused (writes [(⟨fun _ => true⟩, [1, 2, 3])]) :=
    ⟨Bool.or_true _, trivial⟩
  have other : (wrap (.ofBytes [9])).Unrefused
      (writes [(⟨fun _ => true⟩, [1]), (⟨fun _ => false⟩, []), (⟨fun _ => true⟩, [2, 3])]) :=
    ⟨Bool.or_true _, rfl, Bool.or_true _, trivial⟩
  obtain ⟨state, wrote, _⟩ := writes_depend_on_joined made same short one other
  exact ⟨made, same, short, one, other, state, wrote⟩

end AppendStream

end ByteStreams
