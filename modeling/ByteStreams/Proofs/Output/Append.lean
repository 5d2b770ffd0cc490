import ByteStreams.Channel.Write
import ByteStreams.Output.Append
import ByteStreams.Proofs.Bytes
import ByteStreams.Proofs.Output.Reply
import ByteStreams.Proofs.Run

/-!
# What an append stream does with an operation

`AppendStream.machine` answers any operation on an append stream.  The allocator is part of a
request, so that in a run each reservation may be granted or refused on its own.

`AppendStream.Stands s log finished` says how a stream stands whose present generation has accepted
the bytes `log`: an open stream has them at the start of its block and its cursor behind them, a
closed one has them as its block, unless they have been handed out (`finished`).  Each operation has
one lemma that says what it does to a stream that stands so.
-/

namespace ByteStreams

/-- A capacity never shrinks by growing. -/
lemma le_grownFrom (needed capacity : Nat) : capacity ≤ grownFrom needed capacity := by
  fun_induction grownFrom needed capacity with
  | case1 capacity enough => exact Nat.le_refl capacity
  | case2 capacity more stuck => exact Nat.le_refl capacity
  | case3 capacity more free ih =>
    refine Nat.le_trans ?_ ih
    unfold cappedDouble
    omega

namespace AppendStream

/-- An operation on an append stream. -/
inductive Operation : Type 1 where
  /-- A call that every output stream offers. -/
  | call {α : Type} (c : OutputCall α)
  /-- A write to the stream as a channel. -/
  | channelWrite (data : Bytes)
  /-- Closes the stream and hands its bytes out, in a memory with the given tag. -/
  | finish (tag : Tag)
  | reset (capacity : Nat)

/-- An operation, and the allocator that decides on what it reserves. -/
structure Request where
  allocator : Allocator
  operation : Operation

/-- The data that an operation appends if it succeeds. -/
def Operation.data : Operation → Bytes
  | .call c => c.data
  | .channelWrite data => data
  | .finish _ | .reset _ => []

/-- The reply to an operation, and the stream after it. -/
def machine : Machine Request Reply AppendStream := fun r s =>
  match r.operation with
  | .call c =>
    let (result, s) := s.call r.allocator c
    (c.reply result, s)
  | .channelWrite data =>
    let (result, s) := Channel.write (fun data => call r.allocator (.write data)) data s
    (.ofChannel (fun count : Nat => .number count) result, s)
  | .finish tag =>
    let (result, s) := s.finish r.allocator tag
    (.ofResult .buffer result, s)
  | .reset capacity =>
    let (result, s) := s.reset r.allocator capacity
    (.ofResult (fun _ => .done) result, s)

variable {a : Allocator} {s : AppendStream}

/-! ### The operations one by one -/

/-- Growing keeps the bytes that are there. -/
lemma isPrefix_of_grow {needed : Nat} {target : Block} (h : s.grow a needed = .ok target) :
    s.target.bytes <+: target.bytes := by
  unfold grow at h
  split at h
  · cases h
    exact List.prefix_rfl
  · split at h
    · next resized =>
      cases h
      rw [Block.bytes_of_resize resized]
      refine Bytes.isPrefix_resized List.prefix_rfl ?_
      exact Nat.le_trans (Nat.le_max_left s.capacity leastCapacity) (le_grownFrom _ _)
    · cases h

/-- A write is refused and changes nothing, or it lays its data at the cursor of a block that still
has its bytes, and moves the cursor behind the data. -/
lemma write_cases (a : Allocator) (s : AppendStream) (data : Bytes) :
    (∃ e, s.write a data = (.error e, s)) ∨
      (s.closed = false ∧ ∃ target : Block, s.target.bytes <+: target.bytes ∧
        s.write a data = (.ok (), { s with
          target := { target with bytes := target.bytes.overlay s.position data }
          position := s.position + data.length })) := by
  unfold write
  split
  · exact .inl ⟨_, rfl⟩
  · next opened =>
    rw [Bool.not_eq_true] at opened
    split
    · next empty =>
      rw [List.isEmpty_iff] at empty
      exact .inr ⟨opened, s.target, List.prefix_rfl, by simp [empty]⟩
    · split
      · exact .inl ⟨_, rfl⟩
      · split
        · exact .inl ⟨_, rfl⟩
        · next target grown => exact .inr ⟨opened, target, isPrefix_of_grow grown, rfl⟩

/-- Closing again has no effect. -/
lemma close_of_closed (h : s.closed = true) : s.close a = (.ok (), s) := by
  simp [close, h]

/-- Closing a stream whose cursor lies within its block needs no memory and cuts the block there. -/
lemma close_of_le (h : s.closed = false) (fits : s.position ≤ s.target.length) :
    s.close a = (.ok (), { s with
      target := ⟨s.target.bytes.take s.position, s.target.room - s.position⟩
      closed := true }) := by
  simp [close, h, Block.resize_of_le a fits]

/-- Once its closing has succeeded, a reset fails with the refusal of a new block, told as one of
the reset, or it opens the stream on a new block. -/
lemma reset_of_close {t : AppendStream} (h : s.close a = (.ok (), t)) (capacity : Nat) :
    (∃ e, Block.allocate a capacity = .error e ∧
      s.reset a capacity = (.error (e.withContext .reset), t)) ∨
    ∃ target, s.reset a capacity = (.ok (), { target, origin := s.origin.replacing t.target }) := by
  have origin : t.origin = s.origin := by
    unfold close at h
    split at h
    · cases h
      rfl
    · split at h <;> cases h
      rfl
  unfold reset
  rw [h]
  split
  · next impossible => cases impossible
  · next t' closed =>
    cases closed
    rw [origin]
    cases allocated : Block.allocate a capacity with
    | error e => exact .inl ⟨e, rfl, rfl⟩
    | ok target => exact .inr ⟨target, rfl⟩

/-! ### Streams and the bytes that they have accepted -/

/-- What the block of a closed stream holds whose generation accepted the bytes `log`. -/
def remains (log : Bytes) (finished : Bool) : Bytes := if finished then [] else log

/-- The stream has accepted the bytes `log` since it was opened; `finished` says whether they have
been handed out. -/
inductive Stands (s : AppendStream) (log : Bytes) (finished : Bool) : Prop where
  | opened (isOpen : s.closed = false) (cursor : s.position = log.length)
      (kept : log <+: s.target.bytes) (unfinished : finished = false)
  | closed (isClosed : s.closed = true) (left : s.target.bytes = remains log finished)

namespace Stands

variable {log : Bytes} {finished : Bool}

/-- A stream that has just been opened has accepted nothing. -/
lemma fresh {s : AppendStream} (isOpen : s.closed = false) (cursor : s.position = 0) :
    Stands s [] false :=
  .opened isOpen cursor List.nil_prefix rfl

/-- Closing succeeds whatever the allocator refuses, and leaves what the generation leaves. -/
lemma close (h : Stands s log finished) (a : Allocator) :
    ∃ t, s.close a = (.ok (), t) ∧ t.closed = true ∧ t.target.bytes = remains log finished ∧
      t.origin = s.origin := by
  cases h with
  | opened isOpen cursor kept unfinished =>
    have fits : s.position ≤ s.target.length := by
      rw [cursor]
      exact kept.length_le
    refine ⟨_, close_of_le isOpen fits, rfl, ?_, rfl⟩
    rw [unfinished, cursor]
    exact (List.prefix_iff_eq_take.mp kept).symm
  | closed isClosed left => exact ⟨s, close_of_closed isClosed, isClosed, left, rfl⟩

/-- A write is refused and changes nothing, or its data is accepted. -/
lemma write (h : Stands s log finished) (a : Allocator) (data : Bytes) :
    (∃ e, s.write a data = (.error e, s)) ∨
      ∃ t, s.write a data = (.ok (), t) ∧ Stands t (log ++ data) finished ∧
        t.origin = s.origin := by
  rcases write_cases a s data with refused | ⟨isOpen, target, grown, written⟩
  · exact .inl refused
  · refine .inr ⟨_, written, ?_, rfl⟩
    cases h with
    | closed isClosed left => simp [isOpen] at isClosed
    | opened _ cursor kept unfinished =>
      refine .opened isOpen ?_ ?_ unfinished
      · simp [cursor]
      · rw [cursor]
        exact Bytes.isPrefix_overlay (kept.trans grown) data

/-- Finishing is refused by a closed stream; an open one hands out what it has accepted. -/
lemma finish (h : Stands s log finished) (a : Allocator) (tag : Tag) :
    (s.closed = true ∧ s.finish a tag = (.error (.closed .finish), s)) ∨
      (s.closed = false ∧ finished = false ∧
        ∃ t, s.finish a tag = (.ok (.ofBytes tag log), t) ∧ t.closed = true ∧ t.target = {} ∧
          t.origin = s.origin) := by
  cases hs : s.closed with
  | true => exact .inl ⟨rfl, by simp [AppendStream.finish, hs]⟩
  | false =>
    have unfinished : finished = false := by
      cases h with
      | opened _ _ _ unfinished => exact unfinished
      | closed isClosed _ => simp [hs] at isClosed
    obtain ⟨t, closing, isClosed, left, origin⟩ := h.close a
    refine .inr ⟨rfl, unfinished, { t with target := {} }, ?_, isClosed, rfl, origin⟩
    have bytes : t.target.bytes = log := by simpa [remains, unfinished] using left
    simp [AppendStream.finish, hs, closing, Block.freeze, bytes]

/-- A reset closes the stream; then it fails, or the stream is open again on a new block. -/
lemma reset (h : Stands s log finished) (a : Allocator) (capacity : Nat) :
    ∃ t, s.close a = (.ok (), t) ∧ Stands t log finished ∧ t.origin = s.origin ∧
      ((∃ e, s.reset a capacity = (.error e, t)) ∨
        ∃ u, s.reset a capacity = (.ok (), u) ∧ Stands u [] false ∧
          u.origin = s.origin.replacing t.target) := by
  obtain ⟨t, closing, isClosed, left, origin⟩ := h.close a
  refine ⟨t, closing, .closed isClosed left, origin, ?_⟩
  rcases reset_of_close closing capacity with ⟨e, _, failed⟩ | ⟨target, reopened⟩
  · exact .inl ⟨_, failed⟩
  · exact .inr ⟨_, reopened, fresh rfl rfl, rfl⟩

end Stands

end AppendStream

end ByteStreams
