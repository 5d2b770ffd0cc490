import ByteStreams.Channel.Write
import ByteStreams.Output.Fixed
import ByteStreams.Proofs.Copy
import ByteStreams.Proofs.Output.Reply
import ByteStreams.Proofs.Run

/-!
# What a writer of fixed capacity does with an operation

`FixedWriter.machine` answers any operation on a writer, the changes of its options included.  A
write copies its data whole or in chunks; the two make no difference (`copied_eq`), so that
`write_eq` describes a write without the options.

`placing` tells where an operation writes, and what; `Accepts` tells whether the data fits there;
`cursorAfter` is where the cursor goes.  `Does` is the step of all runs: an accepted write is an
overlay at its place, and nothing else changes a byte.
-/

namespace ByteStreams.FixedWriter

/-- An operation on a writer of fixed capacity. -/
inductive Operation : Type 1 where
  /-- A call that every output stream offers. -/
  | call {α : Type} (c : OutputCall α)
  /-- A write to the writer as a channel. -/
  | channelWrite (data : Bytes)
  | writeAt (position : Int) (data : Bytes)
  | seek (position : Int)
  /-- Puts other options in place, which may have any numbers. -/
  | setOptions (options : CopyOptions)
  | change (setting : CopyOptions.Setting)

/-- An operation that only changes the options. -/
def Operation.isSetting : Operation → Bool
  | .setOptions _ | .change _ => true
  | .call _ | .channelWrite _ | .writeAt _ _ | .seek _ => false

/-- The reply to an operation, and the writer after it. -/
def machine : Machine Operation Reply FixedWriter := fun operation w =>
  match operation with
  | .call c =>
    let (result, w) := w.call c
    (c.reply result, w)
  | .channelWrite data =>
    let (result, w) := Channel.write (fun data => call (.write data)) data w
    (.ofChannel (fun count : Nat => .number count) result, w)
  | .writeAt position data =>
    let (result, w) := w.writeAt position data
    (.ofResult (fun _ => .done) result, w)
  | .seek position =>
    let (result, w) := w.seek position
    (.ofResult (fun _ => .done) result, w)
  | .setOptions options => (.done, { w with options })
  | .change setting => (.done, { w with options := w.options.set setting })

variable {w : FixedWriter}

/-! ### Writing -/

/-- Where there is room for the data, the target has as many bytes. -/
lemma length_window_of_room {data : Bytes} (room : data.length ≤ w.capacity - w.position) :
    (w.target.window w.position data.length).length = data.length := by
  unfold capacity at room
  rw [Bytes.length_window]
  omega

/-- What is copied is the data, whole or in chunks. -/
lemma copied_eq {data : Bytes} (room : data.length ≤ w.capacity - w.position) :
    w.copied data = data := by
  unfold copied
  split
  · exact Copy.copyChunks_chunks (length_window_of_room room) _ _
  · rfl

/-- A write, without the options: refused by a closed writer and by one without room, and else an
overlay at the cursor. -/
lemma write_eq (w : FixedWriter) (data : Bytes) :
    w.write data =
      if w.closed then (.error (.closed .write), w)
      else if w.capacity - w.position < data.length then
        (.error ⟨.write, .capacity data.length (w.capacity - w.position)⟩, w)
      else
        (.ok (), { w with
          target := w.target.overlay w.position data
          position := w.position + data.length }) := by
  unfold write
  split
  · rfl
  · by_cases room : w.capacity - w.position < data.length
    · simp only [if_pos room]
    · simp only [if_neg room, copied_eq (Nat.le_of_not_lt room)]

/-- A write that fits. -/
lemma write_of_room (isOpen : w.closed = false) {data : Bytes}
    (room : w.position + data.length ≤ w.capacity) :
    w.write data = (.ok (), { w with
      target := w.target.overlay w.position data
      position := w.position + data.length }) := by
  have fits : ¬ w.capacity - w.position < data.length := by omega
  rw [write_eq, isOpen, if_neg fits]
  rfl

/-- A write that does not fit, or comes too late, changes nothing. -/
lemma write_refused (inside : w.position ≤ w.capacity) {data : Bytes}
    (refused : ¬(w.closed = false ∧ w.position + data.length ≤ w.capacity)) :
    ∃ e, w.write data = (.error e, w) := by
  rw [write_eq]
  cases isOpen : w.closed with
  | true => exact ⟨_, rfl⟩
  | false =>
    have short : w.capacity - w.position < data.length := by
      have : ¬ w.position + data.length ≤ w.capacity := fun fits => refused ⟨isOpen, fits⟩
      omega
    exact ⟨_, if_pos short⟩

/-- A write does not close the writer. -/
lemma write_closed (w : FixedWriter) (data : Bytes) : (w.write data).2.closed = w.closed := by
  rw [write_eq]
  split
  · rfl
  · split <;> rfl

/-! ### Seeking -/

/-- A position within the target can be sought. -/
lemma seek_of_mem (isOpen : w.closed = false) {position : Int}
    (inside : 0 ≤ position ∧ position ≤ w.capacity) :
    w.seek position = (.ok (), { w with position := position.toNat }) := by
  unfold seek
  rw [isOpen, checkPosition_eq_ok_iff.mpr inside]
  rfl

/-- A position outside of the target cannot be sought, and nothing at all once the writer is
closed. -/
lemma seek_refused {position : Int}
    (refused : ¬(w.closed = false ∧ 0 ≤ position ∧ position ≤ w.capacity)) :
    ∃ e, w.seek position = (.error e, w) := by
  unfold seek
  cases isOpen : w.closed with
  | true => exact ⟨_, rfl⟩
  | false =>
    cases check : checkPosition .seek position w.capacity with
    | error e => exact ⟨e, rfl⟩
    | ok done => exact absurd ⟨isOpen, checkPosition_eq_ok_iff.mp check⟩ refused

/-- A write at a position does not close the writer. -/
lemma writeAt_closed (w : FixedWriter) (position : Int) (data : Bytes) :
    (w.writeAt position data).2.closed = w.closed := by
  by_cases seekable : w.closed = false ∧ 0 ≤ position ∧ position ≤ w.capacity
  · simp only [writeAt, seek_of_mem seekable.1 seekable.2, write_closed]
  · obtain ⟨e, refused⟩ := seek_refused seekable
    simp only [writeAt, refused]

/-! ### The effect of an operation -/

/-- Where an operation writes, and what. -/
def placing (w : FixedWriter) : Operation → Option (Int × Bytes)
  | .call (.write data) => some (w.position, data)
  | .call (.writeBuffer source) => some (w.position, source.content)
  | .channelWrite data => some (w.position, data)
  | .writeAt position data => some (position, data)
  | .call .flush | .call .tell | .call (.checkOpen _) | .call .isClosed | .call .close => none
  | .seek _ | .setOptions _ | .change _ => none

/-- The place is open, and the data fits between it and the end of the target. -/
def Accepts (w : FixedWriter) (place : Int × Bytes) : Prop :=
  w.closed = false ∧ 0 ≤ place.1 ∧ place.1 + place.2.length ≤ w.capacity

instance (w : FixedWriter) (place : Int × Bytes) : Decidable (w.Accepts place) :=
  inferInstanceAs (Decidable (_ ∧ _ ∧ _))

/-- The position that an operation seeks. -/
def Operation.sought : Operation → Option Int
  | .seek position | .writeAt position _ => some position
  | .call _ | .channelWrite _ | .setOptions _ | .change _ => none

/-- An operation that closes the writer. -/
def Operation.closes : Operation → Bool
  | .call .close => true
  | .call (.write _) | .call (.writeBuffer _) | .call .flush | .call .tell | .call (.checkOpen _)
  | .call .isClosed | .channelWrite _ | .writeAt _ _ | .seek _ | .setOptions _ | .change _ => false

/-- Where the cursor is once an operation has sought its position, if that can be sought. -/
def cursorSought (w : FixedWriter) (operation : Operation) : Nat :=
  match operation.sought with
  | some position =>
    if w.closed = false ∧ 0 ≤ position ∧ position ≤ w.capacity then position.toNat
    else w.position
  | none => w.position

/-- Where the cursor is after an operation: behind the data that it has written, or else at the
position that it has sought. -/
def cursorAfter (w : FixedWriter) (operation : Operation) : Nat :=
  match w.placing operation with
  | some place =>
    if w.Accepts place then place.1.toNat + place.2.length else w.cursorSought operation
  | none => w.cursorSought operation

/-- The cursor stays within the target. -/
lemma cursorAfter_le (inside : w.position ≤ w.capacity) (operation : Operation) :
    w.cursorAfter operation ≤ w.capacity := by
  have sought : w.cursorSought operation ≤ w.capacity := by
    unfold cursorSought
    split
    · split <;> omega
    · exact inside
  unfold cursorAfter
  split
  · next place _ =>
    by_cases accepted : w.Accepts place
    · rw [if_pos accepted]
      obtain ⟨_, low, high⟩ := accepted
      omega
    · rw [if_neg accepted]
      exact sought
  · exact sought

/-- What a writer does with an operation, up to its options. -/
structure Does (w : FixedWriter) (operation : Operation) : Prop where
  /-- A write is carried out exactly if it is accepted. -/
  succeeds : ∀ place, w.placing operation = some place →
    ((machine operation w).1.succeeded = true ↔ w.Accepts place)
  /-- An accepted write is an overlay at its place. -/
  lays : ∀ place, w.placing operation = some place → w.Accepts place →
    (machine operation w).2.target = w.target.overlay place.1.toNat place.2
  /-- Nothing else changes a byte. -/
  keeps : (∀ place, w.placing operation = some place → ¬ w.Accepts place) →
    (machine operation w).2.target = w.target
  /-- The cursor moves behind the data, or to the position sought. -/
  cursor : (machine operation w).2.position = w.cursorAfter operation
  /-- The writer is closed once it has been closed. -/
  closed : (machine operation w).2.closed = (w.closed || operation.closes)

/-- An operation that writes nothing and keeps the target. -/
lemma Does.of_quiet {operation : Operation} (writes : w.placing operation = none)
    (target : (machine operation w).2.target = w.target)
    (cursor : (machine operation w).2.position = w.cursorSought operation)
    (closed : (machine operation w).2.closed = (w.closed || operation.closes)) :
    Does w operation where
  succeeds place h := by simp [writes] at h
  lays place h := by simp [writes] at h
  keeps _ := target
  cursor := by
    unfold cursorAfter
    rw [writes]
    exact cursor
  closed := closed

/-- An operation that writes at a place: it succeeds as an overlay if that is accepted, and fails
without a change of the target if it is not. -/
lemma Does.of_placing {operation : Operation} {place : Int × Bytes}
    (writes : w.placing operation = some place)
    (accepted : w.Accepts place → (machine operation w).1.succeeded = true ∧
      (machine operation w).2.target = w.target.overlay place.1.toNat place.2 ∧
      (machine operation w).2.position = place.1.toNat + place.2.length)
    (refused : ¬ w.Accepts place → (machine operation w).1.succeeded = false ∧
      (machine operation w).2.target = w.target ∧
      (machine operation w).2.position = w.cursorSought operation)
    (closed : (machine operation w).2.closed = (w.closed || operation.closes)) :
    Does w operation where
  succeeds other same := by
    rw [writes] at same
    cases same
    by_cases h : w.Accepts place
    · simp [(accepted h).1, h]
    · simp [(refused h).1, h]
  lays other same h := by
    rw [writes] at same
    cases same
    exact (accepted h).2.1
  keeps none := (refused (none place writes)).2.1
  cursor := by
    unfold cursorAfter
    rw [writes]
    by_cases h : w.Accepts place
    · rw [(accepted h).2.2]
      exact (if_pos h).symm
    · rw [(refused h).2.2]
      exact (if_neg h).symm
  closed := closed

/-- An operation that writes its data at the cursor, and replies with a success exactly if the write
succeeds. -/
lemma Does.of_write (inside : w.position ≤ w.capacity) {operation : Operation} {data : Bytes}
    (writes : w.placing operation = some ((w.position : Int), data))
    (seeks : operation.sought = none) (stays : operation.closes = false)
    (state : (machine operation w).2 = (w.write data).2)
    (reply : (machine operation w).1.succeeded = (w.write data).1.isOk) : Does w operation := by
  have still : w.cursorSought operation = w.position := by
    unfold cursorSought
    rw [seeks]
  refine .of_placing writes (fun h => ?_) (fun h => ?_) ?_
  · obtain ⟨isOpen, _, fits⟩ := h
    have room : w.position + data.length ≤ w.capacity := by
      have : (w.position : Int) + data.length ≤ w.capacity := fits
      omega
    rw [reply, state, write_of_room isOpen room]
    exact ⟨rfl, rfl, rfl⟩
  · have refused : ¬(w.closed = false ∧ w.position + data.length ≤ w.capacity) := by
      rintro ⟨isOpen, room⟩
      refine h ⟨isOpen, Int.natCast_nonneg _, ?_⟩
      change (w.position : Int) + data.length ≤ w.capacity
      omega
    obtain ⟨e, written⟩ := write_refused inside refused
    rw [reply, state, written]
    exact ⟨rfl, rfl, still.symm⟩
  · rw [state, write_closed, stays, Bool.or_false]

/-- A write at a position is accepted exactly if the position can be sought and the data fits behind
it. -/
lemma Does.of_writeAt (position : Int) (data : Bytes) : Does w (.writeAt position data) := by
  refine .of_placing rfl (fun h => ?_) (fun h => ?_) ?_
  · obtain ⟨isOpen, low, high⟩ := h
    have fits : position + data.length ≤ w.capacity := high
    have sought := seek_of_mem isOpen ⟨low, by omega⟩
    have room : position.toNat + data.length ≤ w.capacity := by omega
    have written := write_of_room (w := { w with position := position.toNat }) isOpen room
    have run : machine (.writeAt position data) w = (.done, { w with
        target := w.target.overlay position.toNat data
        position := position.toNat + data.length }) := by
      simp only [machine, writeAt, sought, written]
      rfl
    rw [run]
    exact ⟨rfl, rfl, rfl⟩
  · by_cases seekable : w.closed = false ∧ 0 ≤ position ∧ position ≤ w.capacity
    · obtain ⟨isOpen, low, high⟩ := seekable
      have sought := seek_of_mem isOpen ⟨low, high⟩
      have within : position.toNat ≤ w.capacity := by omega
      have refused : ¬(w.closed = false ∧ position.toNat + data.length ≤ w.capacity) := by
        rintro ⟨_, room⟩
        refine h ⟨isOpen, low, ?_⟩
        change position + data.length ≤ w.capacity
        omega
      obtain ⟨e, written⟩ :=
        write_refused (w := { w with position := position.toNat }) within refused
      have run : machine (.writeAt position data) w =
          (.failed e, { w with position := position.toNat }) := by
        simp only [machine, writeAt, sought, written]
        rfl
      rw [run]
      exact ⟨rfl, rfl, (if_pos ⟨isOpen, low, high⟩).symm⟩
    · obtain ⟨e, refused⟩ := seek_refused seekable
      have run : machine (.writeAt position data) w = (.failed e, w) := by
        simp only [machine, writeAt, refused]
        rfl
      rw [run]
      exact ⟨rfl, rfl, (if_neg seekable).symm⟩
  · rw [Operation.closes, Bool.or_false]
    exact writeAt_closed w position data

/-- A search of a position moves the cursor, if the position lies within the target. -/
lemma Does.of_seek (position : Int) : Does w (.seek position) := by
  by_cases seekable : w.closed = false ∧ 0 ≤ position ∧ position ≤ w.capacity
  · have run : machine (.seek position) w = (.done, { w with position := position.toNat }) := by
      simp only [machine, seek_of_mem seekable.1 seekable.2]
      rfl
    have cursor : w.cursorSought (.seek position) = position.toNat := if_pos seekable
    refine .of_quiet rfl ?_ ?_ ?_
    · rw [run]
    · rw [run, cursor]
    · rw [run, Operation.closes, Bool.or_false]
  · obtain ⟨e, refused⟩ := seek_refused seekable
    have run : machine (.seek position) w = (.failed e, w) := by
      simp only [machine, refused]
      rfl
    have cursor : w.cursorSought (.seek position) = w.position := if_neg seekable
    refine .of_quiet rfl ?_ ?_ ?_
    · rw [run]
    · rw [run, cursor]
    · rw [run, Operation.closes, Bool.or_false]

/-- **One step.**  What every operation does to a writer whose cursor lies within its target. -/
lemma does (inside : w.position ≤ w.capacity) (operation : Operation) : Does w operation := by
  have unchanged : w.closed = (w.closed || false) := (Bool.or_false _).symm
  cases operation with
  | call c =>
    cases c with
    | write data => exact .of_write inside rfl rfl rfl rfl (OutputCall.succeeded_reply _ _)
    | writeBuffer source => exact .of_write inside rfl rfl rfl rfl (OutputCall.succeeded_reply _ _)
    | flush => exact .of_quiet rfl rfl rfl unchanged
    | tell => exact .of_quiet rfl rfl rfl unchanged
    | checkOpen during => exact .of_quiet rfl rfl rfl unchanged
    | isClosed => exact .of_quiet rfl rfl rfl unchanged
    | close => exact .of_quiet rfl rfl rfl (Bool.or_true _).symm
  | channelWrite data =>
    exact .of_write inside rfl rfl rfl rfl (Reply.succeeded_ofChannel (fun _ => rfl) _ _)
  | writeAt position data => exact .of_writeAt position data
  | seek position => exact .of_seek position
  | setOptions options => exact .of_quiet rfl rfl rfl unchanged
  | change setting => exact .of_quiet rfl rfl rfl unchanged

/-- No operation changes the length of the target. -/
lemma Does.length {operation : Operation} (h : Does w operation) :
    (machine operation w).2.target.length = w.target.length := by
  cases writes : w.placing operation with
  | none =>
    rw [h.keeps fun place same => by simp [writes] at same]
  | some place =>
    by_cases accepted : w.Accepts place
    · have fits : place.1.toNat + place.2.length ≤ w.target.length := by
        obtain ⟨_, low, high⟩ := accepted
        unfold capacity at high
        omega
      rw [h.lays place writes accepted, Bytes.length_overlay fits]
    · refine congrArg List.length (h.keeps fun other same => ?_)
      rw [writes] at same
      cases same
      exact accepted

end ByteStreams.FixedWriter
