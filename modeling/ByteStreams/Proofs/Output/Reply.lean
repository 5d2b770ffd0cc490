import ByteStreams.Channel.Failure
import ByteStreams.Output
import Mathlib.Tactic.Lemma

/-!
# Replies of output streams

The calls on an output stream answer values of several types.  A `Reply` is any of these answers, so
that a run of calls has one list of replies, which can be compared with that of another run.
-/

namespace ByteStreams

/-- What comes of an operation on an output stream. -/
inductive Reply where
  /-- It was carried out and has nothing to tell. -/
  | done
  | number (n : Int)
  | flag (b : Bool)
  | buffer (b : Buffer)
  /-- The stream failed. -/
  | failed (e : Error)
  /-- The stream failed as a channel. -/
  | channelFailed (e : ChannelError)
  deriving DecidableEq, Repr

namespace Reply

variable {α : Type}

/-- The reply of a stream, given what it says with an answer. -/
def ofResult (answer : α → Reply) : Except Error α → Reply
  | .ok a => answer a
  | .error e => failed e

/-- The reply of a channel. -/
def ofChannel (answer : α → Reply) : Except ChannelError α → Reply
  | .ok a => answer a
  | .error e => channelFailed e

/-- Whether the operation was carried out. -/
def succeeded : Reply → Bool
  | failed _ | channelFailed _ => false
  | done | number _ | flag _ | buffer _ => true

/-- A channel tells a success exactly if the stream has one. -/
lemma succeeded_ofChannel {β : Type} {answer : β → Reply}
    (tells : ∀ b, (answer b).succeeded = true) (result : Except Error α) (f : α → β) :
    (ofChannel answer ((onChannel result).map f)).succeeded = result.isOk := by
  cases result with
  | error e => rfl
  | ok a => exact tells (f a)

end Reply

namespace OutputCall

variable {α : Type}

/-- The data that a call writes; other calls write nothing. -/
def data : {α : Type} → OutputCall α → Bytes
  | _, write data => data
  | _, writeBuffer source => source.content
  | _, flush | _, tell | _, checkOpen _ | _, isClosed | _, close => []

/-- An answer to a call, as a reply. -/
def answer : {α : Type} → OutputCall α → α → Reply
  | _, write _, _ | _, writeBuffer _, _ | _, flush, _ | _, checkOpen _, _ | _, close, _ => .done
  | _, tell, position => .number position
  | _, isClosed, closed => .flag closed

/-- The reply to a call. -/
def reply (c : OutputCall α) (result : Except Error α) : Reply := .ofResult c.answer result

/-- The reply tells a success exactly if there is an answer. -/
@[simp] lemma succeeded_reply (c : OutputCall α) (result : Except Error α) :
    (c.reply result).succeeded = result.isOk := by
  cases result with
  | error e => rfl
  | ok a => cases c <;> rfl

end OutputCall

end ByteStreams
