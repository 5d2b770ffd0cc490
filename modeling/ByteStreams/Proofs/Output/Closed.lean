import ByteStreams.Output.Counter
import ByteStreams.Proofs.Closed
import ByteStreams.Proofs.Output.AppendFailure
import ByteStreams.Proofs.Output.FixedOverlay

/-!
# Closed output streams

The three kinds of output streams obey the law of closed streams in every state.  They check whether
they are closed before anything else, so that no argument of a write makes a difference; what can
still be asked is whether the stream is closed, and it can be closed again.  A writer of fixed
capacity can also be given other options, and an append stream can be opened again by a reset.
-/

namespace ByteStreams

/-- The reply says that the stream is closed. -/
def Reply.saysClosed : Reply → Bool
  | failed e | channelFailed (.stream e) => e.kind = .closed
  | channelFailed _ | done | number _ | flag _ | buffer _ => false

/-- What the reply tells of being closed, if that was asked. -/
def Reply.told? : Reply → Option Bool
  | flag closed => some closed
  | done | number _ | buffer _ | failed _ | channelFailed _ => none

namespace Reply

variable {α : Type} {answer : α → Reply}

/-- The reply of a stream says that it is closed if that is why it failed. -/
lemma saysClosed_ofResult (tells : ∀ a, (answer a).saysClosed = false) (result : Except Error α) :
    (ofResult answer result).saysClosed = failsAsClosed result := by
  cases result with
  | ok a => exact tells a
  | error e => rfl

/-- A channel tells the same. -/
lemma saysClosed_ofChannel {β : Type} {answer : β → Reply}
    (tells : ∀ b, (answer b).saysClosed = false) (result : Except Error α) (f : α → β) :
    (ofChannel answer ((onChannel result).map f)).saysClosed = failsAsClosed result := by
  cases result with
  | ok a => exact tells (f a)
  | error e => rfl

end Reply

/-- No answer to a call says that the stream is closed. -/
@[simp] lemma OutputCall.saysClosed_reply {α : Type} (c : OutputCall α)
    (result : Except Error α) : (c.reply result).saysClosed = failsAsClosed result :=
  Reply.saysClosed_ofResult (fun a => by cases c <;> rfl) result

/-- What a closed stream refuses is refused because it is closed, an open one refuses nothing. -/
lemma failsAsClosed_whenOpen {α : Type} (closed : Bool) (context : Context) (a : α) :
    failsAsClosed (whenOpen closed context (.ok a)) = closed := by
  cases closed <;> rfl

/-- What a call means to a stream that may be closed. -/
def OutputCall.role : {α : Type} → OutputCall α → Role
  | _, write _ | _, writeBuffer _ | _, flush | _, tell | _, checkOpen _ => .works
  | _, isClosed | _, close => .harmless

/-- The call that asks whether the stream is closed. -/
def OutputCall.asks : {α : Type} → OutputCall α → Bool
  | _, isClosed => true
  | _, write _ | _, writeBuffer _ | _, flush | _, tell | _, checkOpen _ | _, close => false

namespace AppendStream

/-- What an operation means to a stream that may be closed. -/
def role (r : Request) : Role :=
  match r.operation with
  | .call c => c.role
  | .channelWrite _ | .finish _ => .works
  | .reset _ => .reopens

/-- The operation that asks whether the stream is closed. -/
def asks (r : Request) : Bool :=
  match r.operation with
  | .call c => c.asks
  | .channelWrite _ | .finish _ | .reset _ => false

variable {s : AppendStream}

/-- A closed stream refuses writes, whatever the data. -/
lemma write_of_closed (closed : s.closed = true) (a : Allocator) (data : Bytes) :
    s.write a data = (.error (.closed .write), s) := by
  simp only [write, closed, if_true]

/-- A refused allocation has nothing to do with being closed. -/
lemma kind_resize {a : Allocator} {b : Block} {length : Nat} {e : Error}
    (refused : b.resize a length = .error e) : e.kind = .allocation := by
  obtain ⟨_, _, rfl⟩ := Block.resize_error refused
  rfl

/-- An open stream that refuses a write has no room for it. -/
lemma kind_write_of_open (isOpen : s.closed = false) {a : Allocator} {data : Bytes} {e : Error}
    (refused : (s.write a data).1 = .error e) : e.kind ≠ .closed := by
  simp only [write, isOpen, Bool.false_eq_true, if_false] at refused
  split at refused
  · cases refused
  · split at refused
    · cases refused
      exact fun same => by cases same
    · split at refused
      · next denied =>
        cases refused
        unfold grow at denied
        split at denied
        · cases denied
        · split at denied
          · cases denied
          · next resized =>
            cases denied
            rw [Error.kind_withContext, kind_resize resized]
            exact fun same => by cases same
      · cases refused

/-- Closing fails for want of memory if at all. -/
lemma kind_close {a : Allocator} {e : Error} (failed : (s.close a).1 = .error e) :
    e.kind ≠ .closed := by
  unfold close at failed
  split at failed
  · cases failed
  · split at failed
    · cases failed
    · next resized =>
      cases failed
      rw [kind_resize resized]
      exact fun same => by cases same

/-- An open stream that cannot be finished cannot be closed for want of memory. -/
lemma kind_finish_of_open (isOpen : s.closed = false) {a : Allocator} {tag : Tag} {e : Error}
    (failed : (s.finish a tag).1 = .error e) : e.kind ≠ .closed := by
  simp only [finish, isOpen, Bool.false_eq_true, if_false] at failed
  split at failed
  · next refused =>
    cases failed
    exact kind_close (congrArg Prod.fst refused)
  · cases failed

/-- A reset fails for want of memory if at all. -/
lemma kind_reset {a : Allocator} {capacity : Nat} {e : Error}
    (failed : (s.reset a capacity).1 = .error e) : e.kind ≠ .closed := by
  unfold reset at failed
  split at failed
  · next refused =>
    cases failed
    exact kind_close (congrArg Prod.fst refused)
  · split at failed
    · next refused =>
      cases failed
      rw [Error.kind_withContext, kind_resize refused]
      exact fun same => by cases same
    · cases failed

/-- A closed stream refuses whatever needs it open. -/
lemma machine_of_closed (closed : s.closed = true) {r : Request} (works : role r = .works) :
    (machine r s).1.saysClosed = true ∧ (machine r s).2 = s := by
  obtain ⟨a, operation⟩ := r
  cases operation with
  | call c =>
    cases c with
    | write data =>
      simp only [machine, call, write_of_closed closed, OutputCall.saysClosed_reply]
      exact ⟨rfl, trivial⟩
    | writeBuffer source =>
      simp only [machine, call, write_of_closed closed, OutputCall.saysClosed_reply]
      exact ⟨rfl, trivial⟩
    | flush | tell | checkOpen _ =>
      simp only [machine, call, OutputCall.saysClosed_reply, failsAsClosed_whenOpen]
      exact ⟨closed, trivial⟩
    | isClosed | close => cases works
  | channelWrite data =>
    simp only [machine, Channel.write, call, write_of_closed closed]
    exact ⟨rfl, trivial⟩
  | finish tag =>
    simp only [machine, finish, closed, if_true]
    exact ⟨rfl, trivial⟩
  | reset capacity => cases works

/-- An open stream refuses nothing for being closed. -/
lemma machine_of_open (isOpen : s.closed = false) (r : Request) :
    (machine r s).1.saysClosed = false := by
  obtain ⟨a, operation⟩ := r
  have writes (data : Bytes) : failsAsClosed (s.write a data).1 = false :=
    failsAsClosed_eq_false fun e failed => kind_write_of_open isOpen failed
  cases operation with
  | call c =>
    cases c with
    | write data => exact (OutputCall.saysClosed_reply ..).trans (writes data)
    | writeBuffer source => exact (OutputCall.saysClosed_reply ..).trans (writes source.content)
    | flush | tell | checkOpen _ =>
      simp only [machine, call, OutputCall.saysClosed_reply, failsAsClosed_whenOpen, isOpen]
    | isClosed => rfl
    | close =>
      refine (OutputCall.saysClosed_reply ..).trans ?_
      exact failsAsClosed_eq_false fun e failed => kind_close failed
  | channelWrite data =>
    exact (Reply.saysClosed_ofChannel (fun _ => rfl) _ _).trans (writes data)
  | finish tag =>
    refine (Reply.saysClosed_ofResult (fun _ => rfl) _).trans ?_
    exact failsAsClosed_eq_false fun e failed => kind_finish_of_open isOpen failed
  | reset capacity =>
    refine (Reply.saysClosed_ofResult (fun _ => rfl) _).trans ?_
    exact failsAsClosed_eq_false fun e failed => kind_reset failed

/-- **Append streams** obey the law of closed streams, in every state. -/
theorem closedLaw (s : AppendStream) :
    ClosedLaw machine AppendStream.closed role asks Reply.told? Reply.saysClosed Reply.succeeded
      Eq s := by
  refine .of_steps (fun s r asked => ?_) (fun s r closed works => ?_)
    (fun s r closed harmless => ?_) (fun s r isOpen => ?_) (fun r => ?_) s
  · obtain ⟨a, operation⟩ := r
    cases operation with
    | call c =>
      cases c with
      | isClosed => exact ⟨rfl, rfl⟩
      | write _ | writeBuffer _ | flush | tell | checkOpen _ | close => cases asked
    | channelWrite _ | finish _ | reset _ => cases asked
  · exact machine_of_closed closed works
  · obtain ⟨a, operation⟩ := r
    cases operation with
    | call c =>
      cases c with
      | isClosed => exact ⟨rfl, rfl, closed⟩
      | close =>
        simp only [machine, call, close_of_closed closed]
        exact ⟨rfl, trivial, closed⟩
      | write _ | writeBuffer _ | flush | tell | checkOpen _ => cases harmless
    | channelWrite _ | finish _ | reset _ => cases harmless
  · exact machine_of_open isOpen r
  · obtain ⟨a, operation⟩ := r
    cases operation with
    | call c => cases c <;> exact fun same => by cases same
    | channelWrite _ | finish _ | reset _ => exact fun same => by cases same

end AppendStream

namespace FixedWriter

/-- What an operation means to a writer that may be closed. -/
def role : Operation → Role
  | .call c => c.role
  | .channelWrite _ | .writeAt _ _ | .seek _ => .works
  | .setOptions _ | .change _ => .harmless

/-- The operation that asks whether the writer is closed. -/
def asks : Operation → Bool
  | .call c => c.asks
  | .channelWrite _ | .writeAt _ _ | .seek _ | .setOptions _ | .change _ => false

variable {w : FixedWriter}

/-- A closed writer refuses to write, whatever the data. -/
lemma write_of_closed (closed : w.closed = true) (data : Bytes) :
    w.write data = (.error (.closed .write), w) := by
  simp only [write, closed, if_true]

/-- A closed writer refuses to seek, whatever the position. -/
lemma seek_of_closed (closed : w.closed = true) (position : Int) :
    w.seek position = (.error (.closed .seek), w) := by
  simp only [seek, closed, if_true]

/-- An open writer refuses a write for want of room if at all. -/
lemma failsAsClosed_write (isOpen : w.closed = false) (data : Bytes) :
    failsAsClosed (w.write data).1 = false := by
  rw [write_eq, isOpen]
  split
  · next impossible => cases impossible
  · split <;> rfl

/-- An open writer that is to seek stays open, and refuses a position that is out of bounds if it
refuses any. -/
lemma seek_of_open (isOpen : w.closed = false) (position : Int) :
    failsAsClosed (w.seek position).1 = false ∧ (w.seek position).2.closed = false := by
  by_cases inside : 0 ≤ position ∧ position ≤ w.capacity
  · rw [seek_of_mem isOpen inside]
    exact ⟨rfl, isOpen⟩
  · simp only [seek, isOpen, checkPosition, if_neg inside, Bool.false_eq_true, if_false]
    exact ⟨rfl, trivial⟩

/-- A write at a position is a search and then a write, and both check first whether the writer is
closed. -/
lemma failsAsClosed_writeAt (isOpen : w.closed = false) (position : Int) (data : Bytes) :
    failsAsClosed (w.writeAt position data).1 = false := by
  obtain ⟨answer, stays⟩ := seek_of_open isOpen position
  unfold writeAt
  revert answer stays
  rcases w.seek position with ⟨_ | _, v⟩ <;> intro answer stays
  · exact answer
  · exact failsAsClosed_write stays data

/-- A closed writer refuses whatever needs it open. -/
lemma machine_of_closed (closed : w.closed = true) {operation : Operation}
    (works : role operation = .works) :
    (machine operation w).1.saysClosed = true ∧ (machine operation w).2 = w := by
  cases operation with
  | call c =>
    cases c with
    | write data =>
      simp only [machine, call, write_of_closed closed, OutputCall.saysClosed_reply]
      exact ⟨rfl, trivial⟩
    | writeBuffer source =>
      simp only [machine, call, write_of_closed closed, OutputCall.saysClosed_reply]
      exact ⟨rfl, trivial⟩
    | flush | tell | checkOpen _ =>
      simp only [machine, call, OutputCall.saysClosed_reply, failsAsClosed_whenOpen]
      exact ⟨closed, trivial⟩
    | isClosed | close => cases works
  | channelWrite data =>
    simp only [machine, Channel.write, call, write_of_closed closed]
    exact ⟨rfl, trivial⟩
  | writeAt position data =>
    simp only [machine, writeAt, seek_of_closed closed]
    exact ⟨rfl, trivial⟩
  | seek position =>
    simp only [machine, seek_of_closed closed]
    exact ⟨rfl, trivial⟩
  | setOptions _ | change _ => cases works

/-- An open writer refuses nothing for being closed. -/
lemma machine_of_open (isOpen : w.closed = false) (operation : Operation) :
    (machine operation w).1.saysClosed = false := by
  cases operation with
  | call c =>
    cases c with
    | write data => exact (OutputCall.saysClosed_reply ..).trans (failsAsClosed_write isOpen data)
    | writeBuffer source =>
      exact (OutputCall.saysClosed_reply ..).trans (failsAsClosed_write isOpen source.content)
    | flush | tell | checkOpen _ =>
      simp only [machine, call, OutputCall.saysClosed_reply, failsAsClosed_whenOpen, isOpen]
    | isClosed | close => rfl
  | channelWrite data =>
    exact (Reply.saysClosed_ofChannel (fun _ => rfl) _ _).trans (failsAsClosed_write isOpen data)
  | writeAt position data =>
    exact (Reply.saysClosed_ofResult (fun _ => rfl) _).trans
      (failsAsClosed_writeAt isOpen position data)
  | seek position =>
    exact (Reply.saysClosed_ofResult (fun _ => rfl) _).trans (seek_of_open isOpen position).1
  | setOptions _ | change _ => rfl

/-- **Writers of fixed capacity** obey the law of closed streams, in every state.  Other options can
be put in place even when the writer is closed. -/
theorem closedLaw (w : FixedWriter) :
    ClosedLaw machine FixedWriter.closed role asks Reply.told? Reply.saysClosed Reply.succeeded
      SameUpToOptions w := by
  refine .of_steps (fun w operation asked => ?_) (fun w operation closed works => ?_)
    (fun w operation closed harmless => ?_) (fun w operation isOpen => ?_)
    (fun operation => ?_) w
  · cases operation with
    | call c =>
      cases c with
      | isClosed => exact ⟨rfl, rfl⟩
      | write _ | writeBuffer _ | flush | tell | checkOpen _ | close => cases asked
    | channelWrite _ | writeAt _ _ | seek _ | setOptions _ | change _ => cases asked
  · exact machine_of_closed closed works
  · cases operation with
    | call c =>
      cases c with
      | isClosed => exact ⟨rfl, ⟨rfl, rfl, rfl⟩, closed⟩
      | close => exact ⟨rfl, ⟨rfl, rfl, closed⟩, rfl⟩
      | write _ | writeBuffer _ | flush | tell | checkOpen _ => cases harmless
    | setOptions _ | change _ => exact ⟨rfl, ⟨rfl, rfl, rfl⟩, closed⟩
    | channelWrite _ | writeAt _ _ | seek _ => cases harmless
  · exact machine_of_open isOpen operation
  · cases operation with
    | call c => cases c <;> exact fun same => by cases same
    | channelWrite _ | writeAt _ _ | seek _ | setOptions _ | change _ =>
      exact fun same => by cases same

end FixedWriter

namespace CountingSink

/-- The reply to a call, and the sink after it. -/
def machine : Machine (Σ α : Type, OutputCall α) Reply CountingSink :=
  fun c k => (c.2.reply (k.call c.2).1, (k.call c.2).2)

/-- What a call means to a sink that may be closed. -/
def role (c : Σ α : Type, OutputCall α) : Role := c.2.role

/-- The call that asks whether the sink is closed. -/
def asks (c : Σ α : Type, OutputCall α) : Bool := c.2.asks

variable {k : CountingSink}

/-- A sink refuses a write if it is closed, and else counts it. -/
lemma failsAsClosed_write (k : CountingSink) (data : Bytes) :
    failsAsClosed (k.write data).1 = k.closed ∧ (k.closed = true → (k.write data).2 = k) := by
  unfold write
  cases closed : k.closed with
  | true => exact ⟨rfl, fun _ => rfl⟩
  | false => exact ⟨rfl, fun impossible => by cases impossible⟩

/-- What needs the sink open is refused exactly if the sink is closed, and changes nothing then. -/
lemma call_of_works {α : Type} {c : OutputCall α} (works : c.role = .works) :
    failsAsClosed (k.call c).1 = k.closed ∧ (k.closed = true → (k.call c).2 = k) := by
  cases c with
  | write data => exact k.failsAsClosed_write data
  | writeBuffer source => exact k.failsAsClosed_write source.content
  | flush | tell | checkOpen _ => exact ⟨failsAsClosed_whenOpen .., fun _ => rfl⟩
  | isClosed | close => cases works

/-- **Counting sinks** obey the law of closed streams, in every state. -/
theorem closedLaw (k : CountingSink) :
    ClosedLaw machine CountingSink.closed role asks Reply.told? Reply.saysClosed Reply.succeeded
      Eq k := by
  refine .of_steps (fun k c asked => ?_) (fun k c closed works => ?_)
    (fun k c closed harmless => ?_) (fun k c isOpen => ?_) (fun c => ?_) k
  · obtain ⟨α, c⟩ := c
    cases c with
    | isClosed => exact ⟨rfl, rfl⟩
    | write _ | writeBuffer _ | flush | tell | checkOpen _ | close => cases asked
  · obtain ⟨answer, unchanged⟩ := call_of_works (k := k) works
    exact ⟨(OutputCall.saysClosed_reply ..).trans (answer.trans closed), unchanged closed⟩
  · obtain ⟨α, c⟩ := c
    cases c with
    | isClosed => exact ⟨rfl, rfl, closed⟩
    | close =>
      obtain ⟨written, shut⟩ := k
      cases closed
      exact ⟨rfl, rfl, rfl⟩
    | write _ | writeBuffer _ | flush | tell | checkOpen _ => cases harmless
  · refine (OutputCall.saysClosed_reply ..).trans ?_
    obtain ⟨α, c⟩ := c
    cases c with
    | isClosed | close => rfl
    | write _ | writeBuffer _ | flush | tell | checkOpen _ =>
      exact (call_of_works (k := k) rfl).1.trans isOpen
  · obtain ⟨α, c⟩ := c
    cases c <;> exact fun same => by cases same

end CountingSink

end ByteStreams
