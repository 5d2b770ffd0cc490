import ByteStreams.Input.Reader
import ByteStreams.Proofs.Bytes

/-!
# What an open stream over bytes answers

Streams that hold the same bytes in different ways hand out different buffers.  `InputCall.seen` is
what a caller can read off an answer: the length and the content of a buffer, the number and the
target of a read into a target, and any other answer as it is.

`InputCall.outcome` is what an open stream over the given bytes answers with the cursor at the given
position, and `InputCall.cursor` where the cursor is afterwards.  A reader follows them
(`Reader.call_open`); `Tower.lean` shows the same of streams that are built upon readers.
-/

namespace ByteStreams

/-! ### Windows -/

/-- No more bytes can be read from a position on than lie before the end. -/
lemma Bytes.window_clamp (source : Bytes) (position count : Nat) :
    source.window position (clampRead position source.length count) =
      source.window position count := by
  have rest : (source.drop position).length = source.length - position := List.length_drop
  unfold window clampRead
  rw [List.take_eq_take_iff, rest]
  omega

/-- A part of a window that ends where the window ends, or before, is a window of the source. -/
lemma Bytes.window_window {source : Bytes} {offset length position count : Nat}
    (within : count ≤ length - position) :
    (source.window offset length).window position count =
      source.window (offset + position) count := by
  unfold window
  rw [List.drop_take, List.take_take, List.drop_drop, Nat.min_eq_left within]

namespace Buffer

/-- The memory has all the bytes that the range of the buffer promises. -/
def Whole (b : Buffer) : Prop := b.content.length = b.length

/-- A buffer over the whole of a memory has all its bytes. -/
lemma whole_ofBytes (tag : Tag) (bytes : Bytes) : (ofBytes tag bytes).Whole := by
  unfold Whole
  rw [content_ofBytes]
  rfl

/-- The content of a slice that ends where the buffer ends, or before. -/
lemma content_slice {b : Buffer} {offset length : Nat} (within : length ≤ b.length - offset) :
    (b.slice offset length).content = b.content.window offset length :=
  (Bytes.window_window within).symm

end Buffer

/-- A read into the start of a target, seen as one into the whole target. -/
lemma Filled.append_ofOverlay {data : Bytes} {count : Nat} (short : data.length ≤ count)
    (target : Bytes) :
    (ofOverlay (target.take count) data).append (target.drop count) = ofOverlay target data := by
  have rest : (target.take count).drop data.length ++ target.drop count =
      target.drop data.length := by
    rw [List.drop_take, ← Nat.add_sub_of_le short, ← List.drop_drop, Nat.add_sub_cancel_left,
      List.take_append_drop]
  simp only [ofOverlay, append, Bytes.overlay, List.take_zero, List.nil_append, Nat.zero_add,
    List.append_assoc, rest]

/-- A position lies within the length, or there is an error. -/
lemma checkPosition_cases (context : Context) (position length : Int) :
    ((0 ≤ position ∧ position ≤ length) ∧ checkPosition context position length = .ok ()) ∨
      (¬(0 ≤ position ∧ position ≤ length) ∧
        ∃ e, checkPosition context position length = .error e) := by
  by_cases inside : 0 ≤ position ∧ position ≤ length
  · exact .inl ⟨inside, checkPosition_eq_ok_iff.mpr inside⟩
  · exact .inr ⟨inside, _, checkPosition_outside inside⟩

/-- A position that is refused is told together with the length. -/
lemma checkPosition_eq_error {context : Context} {position length : Int} {e : Error}
    (refused : checkPosition context position length = .error e) :
    e = ⟨context, .outOfBounds position length⟩ := by
  unfold checkPosition at refused
  split at refused
  · cases refused
  · exact (Except.error.inj refused).symm

/-- What is made of an answer comes of an answer. -/
lemma ok_of_map_eq_ok {ε α β : Type} {answered : Except ε α} {make : α → β} {b : β}
    (made : answered.map make = .ok b) : ∃ a, answered = .ok a ∧ make a = b := by
  cases answered with
  | error e => cases made
  | ok a => exact ⟨a, rfl, Except.ok.inj made⟩

/-- Nothing is made of an error. -/
lemma error_of_map_eq_error {ε α β : Type} {answered : Except ε α} {make : α → β} {e : ε}
    (failed : answered.map make = .error e) : answered = .error e := by
  cases answered with
  | error d => exact congrArg Except.error (Except.error.inj failed)
  | ok a => cases failed

/-! ### Answers as they are seen -/

/-- What can be read off an answer. -/
inductive Seen where
  /-- A buffer, by its length and its content. -/
  | buffer (length : Nat) (content : Bytes)
  | filled (f : Filled)
  | number (n : Int)
  | flag (b : Bool)
  /-- The call was carried out and has nothing to tell. -/
  | done
  deriving DecidableEq, Repr

/-- A buffer that holds all its bytes, as it is seen. -/
def Seen.ofBytes (bytes : Bytes) : Seen := .buffer bytes.length bytes

namespace InputCall

variable {α : Type}

/-- The answer to a call, as it is seen. -/
def seen : {α : Type} → InputCall α → α → Seen
  | _, read _, b | _, readAt .., b => .buffer b.length b.content
  | _, peek _, bytes => .ofBytes bytes
  | _, readInto _, f | _, readAtInto .., f => .filled f
  | _, advance _, n => .number n
  | _, tell, n | _, size, n => .number n
  | _, zeroCopy, b | _, isClosed, b => .flag b
  | _, seek _, _ | _, checkOpen _, _ | _, close, _ => .done

/-- A call whose answer depends on the bytes and the cursor alone.  Whether a stream can be peeked
into, and whether it copies, depends on how it is built. -/
def isPlain : {α : Type} → InputCall α → Bool
  | _, peek _ | _, zeroCopy => false
  | _, read _ | _, readInto _ | _, advance _ | _, tell | _, seek _ | _, size | _, readAt ..
  | _, readAtInto .. | _, isClosed | _, checkOpen _ | _, close => true

/-- The call that closes. -/
def isClose : {α : Type} → InputCall α → Bool
  | _, close => true
  | _, read _ | _, readInto _ | _, peek _ | _, advance _ | _, tell | _, zeroCopy | _, seek _
  | _, size | _, readAt .. | _, readAtInto .. | _, isClosed | _, checkOpen _ => false

/-- The call that skips. -/
def isAdvance : {α : Type} → InputCall α → Bool
  | _, advance _ => true
  | _, read _ | _, readInto _ | _, peek _ | _, tell | _, zeroCopy | _, seek _ | _, size
  | _, readAt .. | _, readAtInto .. | _, isClosed | _, checkOpen _ | _, close => false

/-- What an open stream over the bytes answers, with its cursor at the position. -/
def outcome (bytes : Bytes) (position : Nat) : {α : Type} → InputCall α → Except Error Seen
  | _, read count | _, peek count => .ok (.ofBytes (bytes.window position count))
  | _, readInto target =>
    .ok (.filled (.ofOverlay target (bytes.window position target.length)))
  | _, advance count => .ok (.number (bytes.window position count).length)
  | _, tell => .ok (.number position)
  | _, zeroCopy => .ok (.flag true)
  | _, seek there => (checkPosition .seek there bytes.length).map fun _ => .done
  | _, size => .ok (.number bytes.length)
  | _, readAt there count =>
    (checkPosition .read there bytes.length).map fun _ => .ofBytes (bytes.window there.toNat count)
  | _, readAtInto there target =>
    (checkPosition .read there bytes.length).map fun _ =>
      .filled (.ofOverlay target (bytes.window there.toNat target.length))
  | _, isClosed => .ok (.flag false)
  | _, checkOpen _ | _, close => .ok .done

/-- Where the cursor is after a call. -/
def cursor (bytes : Bytes) (position : Nat) : {α : Type} → InputCall α → Nat
  | _, read count | _, advance count => position + (bytes.window position count).length
  | _, readInto target => position + (bytes.window position target.length).length
  | _, seek there => if 0 ≤ there ∧ there ≤ bytes.length then there.toNat else position
  | _, peek _ | _, tell | _, zeroCopy | _, size | _, readAt .. | _, readAtInto .. | _, isClosed
  | _, checkOpen _ | _, close => position

/-- What is seen of the answer of a closed stream to a plain call does not depend on whether the
stream would copy. -/
lemma whenClosed_eq {c : InputCall α} (plain : c.isPlain = true) (some other : Bool) :
    c.whenClosed some = c.whenClosed other := by
  cases c with
  | zeroCopy => cases plain
  | _ => rfl

/-- Nor does a refusal. -/
lemma whenClosed_of_error {c : InputCall α} {some : Bool} {e : Error}
    (refused : c.whenClosed some = .error e) (other : Bool) : c.whenClosed other = .error e := by
  cases c with
  | zeroCopy => cases refused
  | _ => exact refused

end InputCall

/-! ### Readers -/

namespace Reader

variable {α : Type} {r : Reader}

/-- The bytes that a reader delivers. -/
lemma bytesAt_eq (whole : r.buffer.Whole) (position count : Nat) :
    r.bytesAt position count = r.buffer.content.window position count := by
  unfold bytesAt readable
  rw [← whole, Bytes.window_clamp]

/-- The number of bytes that a reader delivers. -/
lemma readable_eq (whole : r.buffer.Whole) (position count : Nat) :
    r.readable position count = (r.buffer.content.window position count).length := by
  rw [Bytes.length_window, whole]
  unfold readable clampRead
  omega

/-- A slice that a reader delivers, as it is seen. -/
lemma seen_slice (whole : r.buffer.Whole) (position count : Nat) :
    Seen.buffer (r.buffer.slice position (r.readable position count)).length
        (r.buffer.slice position (r.readable position count)).content =
      .ofBytes (r.buffer.content.window position count) := by
  have within : r.readable position count ≤ r.buffer.length - position := by
    unfold readable clampRead
    omega
  rw [Buffer.content_slice within, Buffer.length_slice, readable_eq whole]
  have same : r.buffer.content.window position (r.buffer.content.window position count).length =
      r.buffer.content.window position count := by
    rw [← readable_eq whole]
    exact bytesAt_eq whole position count
  rw [same]
  rfl

/-- **An open reader** answers as a stream over the content of its buffer. -/
theorem call_open (whole : r.buffer.Whole) (isOpen : r.closed = false) (c : InputCall α) :
    (r.call c).1.map c.seen = c.outcome r.buffer.content r.position ∧
      (r.call c).2 = { r with
        position := c.cursor r.buffer.content r.position
        closed := c.isClose } := by
  obtain ⟨buffer, position, closed⟩ := r
  cases isOpen
  -- The position checks compare with the length that the buffer promises.
  have total : buffer.length = buffer.content.length := whole.symm
  cases c with
  | read count =>
    refine ⟨congrArg Except.ok (seen_slice whole position count), ?_⟩
    rw [InputCall.cursor, ← readable_eq whole]
    rfl
  | readInto target =>
    refine ⟨?_, ?_⟩
    · rw [InputCall.outcome, ← bytesAt_eq whole]
      rfl
    · rw [InputCall.cursor, ← readable_eq whole]
      rfl
  | peek count =>
    refine ⟨?_, rfl⟩
    rw [InputCall.outcome, ← bytesAt_eq whole]
    rfl
  | advance count =>
    refine ⟨?_, ?_⟩
    · rw [InputCall.outcome, ← readable_eq whole]
      rfl
    · rw [InputCall.cursor, ← readable_eq whole]
      rfl
  | seek there =>
    rcases checkPosition_cases .seek there buffer.content.length with
      ⟨inside, passed⟩ | ⟨outside, e, failed⟩
    · simp only [call, callOpen, total, InputCall.outcome, InputCall.cursor, passed, if_pos inside]
      exact ⟨rfl, rfl⟩
    · simp only [call, callOpen, total, InputCall.outcome, InputCall.cursor, failed, if_neg outside]
      exact ⟨rfl, rfl⟩
  | readAt there count =>
    rcases checkPosition_cases .read there buffer.content.length with
      ⟨_, passed⟩ | ⟨_, e, failed⟩
    · simp only [call, callOpen, total, InputCall.outcome, passed]
      exact ⟨congrArg Except.ok (seen_slice whole there.toNat count), rfl⟩
    · simp only [call, callOpen, total, InputCall.outcome, failed]
      exact ⟨rfl, rfl⟩
  | readAtInto there target =>
    rcases checkPosition_cases .read there buffer.content.length with
      ⟨_, passed⟩ | ⟨_, e, failed⟩
    · simp only [call, callOpen, total, InputCall.outcome, passed, bytesAt_eq whole]
      exact ⟨rfl, rfl⟩
    · simp only [call, callOpen, total, InputCall.outcome, failed]
      exact ⟨rfl, rfl⟩
  | size =>
    refine ⟨?_, rfl⟩
    rw [InputCall.outcome, ← total]
    rfl
  | tell => exact ⟨rfl, rfl⟩
  | zeroCopy => exact ⟨rfl, rfl⟩
  | isClosed => exact ⟨rfl, rfl⟩
  | checkOpen during => exact ⟨rfl, rfl⟩
  | close => exact ⟨rfl, rfl⟩

/-- A closed reader stays closed. -/
lemma call_closed (isClosed : r.closed = true) (c : InputCall α) :
    r.call c = (c.whenClosed true, r) := by
  unfold call
  rw [isClosed]
  rfl

/-- A reader that is asked whether it is closed tells. -/
lemma call_isClosed (r : Reader) : r.call .isClosed = (.ok r.closed, r) := by
  unfold call
  cases r.closed <;> rfl

end Reader

end ByteStreams
