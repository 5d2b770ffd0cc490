import ByteStreams.Buffer
import ByteStreams.Channel.Failure
import ByteStreams.Copy.Options
import ByteStreams.Input.Scripted

/-!
# Values and outcomes

What a command answers (`Value`), why it answers nothing (`Failure`), and how the object that it was
addressed to stands afterwards (`Status`). An `Outcome` has a value or a failure, and the
status.
-/

namespace ByteStreams.Session

/-- Whether a stream is closed, and its position if it tells one. -/
structure Standing where
  closed : Bool
  position : Option Int
  deriving DecidableEq, Repr

/-- The answer to a command. -/
inductive Value where
  /-- The command was carried out and has nothing to tell. -/
  | nothing
  | flag (b : Bool)
  | number (n : Int)
  | bytes (content : Bytes)
  | buffer (b : Buffer)
  | text (content : String)
  | list (items : List Value)
  | filled (f : Filled)
  | options (o : CopyOptions)
  /-- The window of a view; `fileClosed` is nothing once the view has let go of its file. -/
  | window (offset length : Int) (fileClosed : Option Bool)
  | standing (s : Standing)
  | requests (log : List Request)

/-- Why a command has no answer. -/
inductive Failure where
  /-- A stream failed. -/
  | stream (e : Error)
  /-- A channel failed. -/
  | channel (e : ChannelError)
  /-- The arguments break the contract of the operation, or a position left the range of positions;
  the object stays as it was. -/
  | contract
  /-- There is no such object, or it does not offer the command. -/
  | misuse
  deriving DecidableEq, Repr

/-- What an object shows of itself after every command. -/
inductive Status where
  | block (content : Bytes)
  | append (standing : Standing) (capacity : Nat)
  | fixed (standing : Standing) (target : Bytes)
  | counter (standing : Standing) (written : Nat)
  | input (standing : Standing)
  /-- A sequence of chunks, and the stream it reads until the end is reached. -/
  | chunks (source : Option Standing)
  | clock (draws : Nat)
  deriving DecidableEq, Repr

/-- What comes of a command. -/
structure Outcome where
  result : Except Failure Value
  status : Option Status

end ByteStreams.Session
