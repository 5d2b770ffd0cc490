import ByteStreams.Proofs.Output.AppendLog

/-!
# Failing operations of append streams

Every operation of an append stream that fails leaves the stream as it was, with one exception.  A
reset closes the stream before it asks for the new block, so that a reset of an open stream whose
new block is refused leaves the stream closed (`Stands.reset_failed`).  The bytes written before it
cannot be finished any more.
-/

namespace ByteStreams.AppendStream

/-- Two streams of which the same can be seen: whether they are closed, what they tell, their
capacity and the bytes of their block. -/
structure LooksLike (t s : AppendStream) : Prop where
  closed : t.closed = s.closed
  tell : ∀ a, (t.call a .tell).1 = (s.call a .tell).1
  capacity : t.capacity = s.capacity
  bytes : t.target.bytes = s.target.bytes

/-- A reset of an open stream. -/
def resetsOpen (s : AppendStream) (r : Request) : Bool :=
  match r.operation with
  | .reset _ => !s.closed
  | _ => false

variable {s : AppendStream} {log : Bytes} {finished : Bool}

/-- A stream looks like itself. -/
lemma LooksLike.refl (s : AppendStream) : LooksLike s s := ⟨rfl, fun _ => rfl, rfl, rfl⟩

/-- A write that fails changes nothing. -/
lemma write_failed {a : Allocator} {data : Bytes} (failed : (s.write a data).1.isOk = false) :
    (s.write a data).2 = s := by
  rcases write_cases a s data with ⟨e, refused⟩ | ⟨_, target, _, written⟩
  · rw [refused]
  · rw [written] at failed
    cases failed

/-- A reset that fails leaves the stream closed, with the block that closing leaves; its error is
the refusal of the new block, told as one of the reset. -/
lemma Stands.reset_failed (h : Stands s log finished) {a : Allocator} {capacity : Nat} {e : Error}
    (failed : (s.reset a capacity).1 = .error e) :
    e = ⟨.reset, .allocation capacity⟩ ∧ (s.reset a capacity).2 = (s.close a).2 := by
  obtain ⟨t, closing, _⟩ := h.close a
  rcases reset_of_close closing capacity with ⟨refusal, refused, result⟩ | ⟨target, reopened⟩
  · rw [result] at failed ⊢
    rw [closing]
    cases failed
    obtain ⟨_, _, rfl⟩ := Block.resize_error refused
    exact ⟨rfl, rfl⟩
  · rw [reopened] at failed
    cases failed

/-- Every failing operation but a reset of an open stream leaves the stream as it is. -/
lemma Stands.eq_of_failed (h : Stands s log finished) {r : Request}
    (failed : (machine r s).1.succeeded = false) (other : resetsOpen s r = false) :
    (machine r s).2 = s := by
  obtain ⟨a, operation⟩ := r
  cases operation with
  | call c =>
    cases c with
    | write data =>
      exact write_failed ((OutputCall.succeeded_reply _ _).symm.trans failed)
    | writeBuffer source =>
      exact write_failed ((OutputCall.succeeded_reply _ _).symm.trans failed)
    | flush => rfl
    | tell => rfl
    | checkOpen during => rfl
    | isClosed => rfl
    | close =>
      obtain ⟨t, closing, _⟩ := h.close a
      simp [machine, AppendStream.call, closing, OutputCall.reply, Reply.ofResult,
        OutputCall.answer, Reply.succeeded] at failed
  | channelWrite data =>
    exact write_failed ((Reply.succeeded_ofChannel (fun _ => rfl) _ _).symm.trans failed)
  | finish tag =>
    rcases h.finish a tag with ⟨_, refused⟩ | ⟨_, _, t, handed, _⟩
    · simp [machine, refused]
    · simp [machine, handed, Reply.ofResult, Reply.succeeded] at failed
  | reset capacity =>
    have isClosed : s.closed = true := by simpa [resetsOpen] using other
    have closing : s.close a = (.ok (), s) := close_of_closed isClosed
    rcases reset_of_close closing capacity with ⟨e, _, refused⟩ | ⟨_, reopened⟩
    · simp [machine, refused]
    · simp [machine, reopened, Reply.ofResult, Reply.succeeded] at failed

/-- A reset of an open stream that fails leaves the stream closed on what was written. -/
lemma Stands.closed_of_failed (h : Stands s log finished) {r : Request}
    (failed : (machine r s).1.succeeded = false) (resets : resetsOpen s r = true) :
    s.closed = false ∧ (machine r s).2 = (s.close r.allocator).2 ∧
      (machine r s).2.closed = true ∧ (machine r s).2.target.bytes = log := by
  obtain ⟨a, operation⟩ := r
  cases operation with
  | call c => simp [resetsOpen] at resets
  | channelWrite data => simp [resetsOpen] at resets
  | finish tag => simp [resetsOpen] at resets
  | reset capacity =>
    have isOpen : s.closed = false := by simpa [resetsOpen] using resets
    have log_left := (h.behavesAsLog.closes a).2
    cases result : (s.reset a capacity).1 with
    | ok done => simp [machine, result, Reply.ofResult, Reply.succeeded] at failed
    | error e =>
      have after : (machine ⟨a, .reset capacity⟩ s).2 = (s.close a).2 :=
        (h.reset_failed result).2
      rw [after]
      exact ⟨isOpen, rfl, log_left.1, log_left.2.1 isOpen⟩

/-- **When a failing operation is atomic.**  In every reachable state, an operation that fails
leaves the stream looking as it did exactly if it is no reset of an open stream.  Then the stream
is the very same.  Otherwise it has been closed on the bytes written, which no finish hands out any
more. -/
theorem failed_looksLike_iff {start : AppendStream} (made : Made start) (requests : List Request)
    (r : Request) (failed : (machine r (machine.final requests start)).1.succeeded = false) :
    (LooksLike (machine r (machine.final requests start)).2 (machine.final requests start) ↔
        resetsOpen (machine.final requests start) r = false) ∧
      (resetsOpen (machine.final requests start) r = false →
        (machine r (machine.final requests start)).2 = machine.final requests start) ∧
      (resetsOpen (machine.final requests start) r = true →
        (machine r (machine.final requests start)).2.closed = true ∧
        (machine r (machine.final requests start)).2.target.bytes =
          logOf (lastGeneration (machine.transcript requests start)) ∧
        ∀ a tag, ((machine r (machine.final requests start)).2.finish a tag).1 =
          .error (.closed .finish)) := by
  have stands := (made.tracks_run requests).stands
  refine ⟨⟨fun same => ?_, fun other => ?_⟩, stands.eq_of_failed failed, fun resets => ?_⟩
  · cases resets : resetsOpen (machine.final requests start) r with
    | false => rfl
    | true =>
      obtain ⟨isOpen, _, isClosed, _⟩ := stands.closed_of_failed failed resets
      have changed := same.closed
      rw [isClosed, isOpen] at changed
      cases changed
  · rw [stands.eq_of_failed failed other]
    exact .refl _
  · obtain ⟨_, _, isClosed, left⟩ := stands.closed_of_failed failed resets
    exact ⟨isClosed, left, fun a tag => by simp [AppendStream.finish, isClosed]⟩

/-- A run that leaves a stream closed: two bytes and a close. -/
def closedRun : List Request := [⟨.below 8, .call (.write [1, 2])⟩, ⟨.below 8, .call .close⟩]

/-- A refused reset of a stream that is closed already leaves it as it is. -/
theorem refused_reset_of_closed_looksLike :
    Made (wrap (.ofBytes [9, 9, 9])) ∧
      (machine ⟨.below 8, .reset 8⟩
        (machine.final closedRun (wrap (.ofBytes [9, 9, 9])))).1.succeeded = false ∧
      LooksLike
        (machine ⟨.below 8, .reset 8⟩ (machine.final closedRun (wrap (.ofBytes [9, 9, 9])))).2
        (machine.final closedRun (wrap (.ofBytes [9, 9, 9]))) := by
  have made : Made (wrap (.ofBytes [9, 9, 9])) := .wrap _
  have failed : (machine ⟨.below 8, .reset 8⟩
      (machine.final closedRun (wrap (.ofBytes [9, 9, 9])))).1.succeeded = false := by decide
  exact ⟨made, failed, (failed_looksLike_iff made closedRun _ failed).1.mpr (by decide)⟩

/-- A refused reset of an open stream does not leave it as it is: two bytes are written to a block
of three, and the reset that asks for `2 ^ 60` bytes fails and closes the stream. -/
theorem refused_reset_of_open_not_looksLike :
    Made { target := ⟨[0, 0, 0], 0⟩ } ∧
      (machine ⟨.below (1 <<< 47), .reset (1 <<< 60)⟩ (machine.final
        [⟨.below (1 <<< 47), .call (.write [97, 98])⟩] { target := ⟨[0, 0, 0], 0⟩ })).1 =
        .failed ⟨.reset, .allocation (1 <<< 60)⟩ ∧
      ¬ LooksLike
        (machine ⟨.below (1 <<< 47), .reset (1 <<< 60)⟩ (machine.final
          [⟨.below (1 <<< 47), .call (.write [97, 98])⟩] { target := ⟨[0, 0, 0], 0⟩ })).2
        (machine.final [⟨.below (1 <<< 47), .call (.write [97, 98])⟩]
          { target := ⟨[0, 0, 0], 0⟩ }) := by
  have made : create (.below (1 <<< 47)) 3 = .ok { target := ⟨[0, 0, 0], 0⟩ } := rfl
  refine ⟨.create made, by decide, fun same => ?_⟩
  have closed := same.closed
  revert closed
  decide

end ByteStreams.AppendStream
