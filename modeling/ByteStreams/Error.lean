/-!
# Errors of byte streams

An error says during which operation it arose (`Context`) and why (`Cause`). The cause carries the
numbers and texts that its message shows; `Cause.kind` forgets them and keeps the class of the
error. The wording of every message is in this file: `Context.text`, `Kind.text`, `Cause.detail?`
and `Error.message`.
-/

namespace ByteStreams

/-- The operation during which an error arose. -/
inductive Context where
  | unknown
  | write
  | read
  | peek
  | seek
  | tell
  | size
  | finish
  | reset
  | allocate
  | iterate
  /-- An operation with a text of its own. -/
  | other (text : String)
  deriving DecidableEq, Repr, Inhabited

/-- The words that name the operation at the start of a message. -/
def Context.text : Context → String
  | unknown => "unknown operation"
  | write => "write to stream"
  | read => "read from stream"
  | peek => "peek into stream"
  | seek => "seek"
  | tell => "tell position"
  | size => "get stream size"
  | finish => "finish buffer"
  | reset => "reset stream"
  | allocate => "allocate buffer"
  | iterate => "iterate stream"
  | other text => text

/-- The operation named when a stream is flushed. -/
def Context.flush : Context := .other "flush stream"

/-- The operation named when a window is opened over a file. -/
def Context.openView : Context := .other "create stream view"

/-- The class of an error. -/
inductive Kind where
  | closed
  | outOfBounds
  | capacity
  | invalid
  | unsupported
  | allocation
  /-- A class of its own, named by its text. -/
  | other (text : String)
  deriving DecidableEq, Repr

namespace Kind

/-- The words that name the class inside a message. -/
def text : Kind → String
  | closed => "stream closed"
  | outOfBounds => "position out of bounds"
  | capacity => "insufficient capacity"
  | invalid => "invalid state"
  | unsupported => "operation not supported"
  | allocation => "allocation failed"
  | other text => text

/-- Errors of input and output proper: a closed stream, a bad position, no room, no memory. -/
def isInputOutput : Kind → Bool
  | closed | outOfBounds | capacity | allocation => true
  | invalid | unsupported | other _ => false

/-- Errors that blame the state in which an operation was called. -/
def isInvalid : Kind → Bool
  | invalid => true
  | _ => false

end Kind

/-- Why an operation failed. -/
inductive Cause where
  /-- The stream is closed. -/
  | closed
  /-- The position does not lie between zero and the length. -/
  | outOfBounds (position length : Int)
  /-- More bytes were offered than there is room for. -/
  | capacity (count remaining : Nat)
  /-- The operation makes no sense now, for the reason given. -/
  | invalid (reason : String)
  /-- The stream does not offer the operation. -/
  | unsupported
  /-- The allocator refused to reserve this many bytes. -/
  | allocation (requested : Nat)
  /-- Any other reason, with the message of what lies behind it, if anything does. -/
  | other (reason : String) (behind : Option String)
  deriving DecidableEq, Repr

namespace Cause

/-- The class of error that a cause belongs to. -/
def kind : Cause → Kind
  | closed => .closed
  | outOfBounds _ _ => .outOfBounds
  | capacity _ _ => .capacity
  | invalid _ => .invalid
  | unsupported => .unsupported
  | allocation _ => .allocation
  | other reason _ => .other reason

/-- The detail that a message adds in parentheses. -/
def detail? : Cause → Option String
  | outOfBounds position length => some s!"position {position} is outside 0..={length}"
  | capacity count remaining => some s!"{count} bytes requested, {remaining} bytes remaining"
  | invalid reason => some reason
  | allocation requested => some s!"failed to reserve {requested} bytes"
  | other _ behind => behind
  | closed | unsupported => none

end Cause

/-- A failed operation: what was being done, and why it failed. -/
structure Error where
  context : Context
  cause : Cause
  deriving DecidableEq, Repr

namespace Error

/-- The class of the error. -/
def kind (e : Error) : Kind := e.cause.kind

/-- The same failure, told as one of another operation. -/
def withContext (e : Error) (context : Context) : Error := { e with context }

/-- The message: the operation, the class of error, and the detail if there is one. -/
def message (e : Error) : String :=
  let head := e.context.text ++ " failed; " ++ e.kind.text
  match e.cause.detail? with
  | none => head
  | some detail => head ++ " (" ++ detail ++ ")"

/-- The stream is closed. -/
def closed (context : Context) : Error := ⟨context, .closed⟩

/-- The stream does not offer the operation. -/
def unsupported (context : Context) : Error := ⟨context, .unsupported⟩

/-- The operation makes no sense in the present state. -/
def invalid (context : Context) (reason : String) : Error := ⟨context, .invalid reason⟩

@[simp] theorem kind_withContext (e : Error) (context : Context) :
    (e.withContext context).kind = e.kind := rfl

end Error

end ByteStreams
