import ByteStreams.Error
import ByteStreams.Buffer

/-!
# Calls on output streams

What can be asked of any stream that is written to. A call is indexed by the type of its answer, so
that one function per stream answers all of them.
-/

namespace ByteStreams

/-- A call on an output stream, by the type of its answer. -/
inductive OutputCall : Type → Type where
  /-- Writes all of the data. -/
  | write (data : Bytes) : OutputCall Unit
  /-- Writes the bytes of a buffer. -/
  | writeBuffer (source : Buffer) : OutputCall Unit
  /-- Sends data on that the stream has kept back; none does. -/
  | flush : OutputCall Unit
  /-- The position at which the next write begins. -/
  | tell : OutputCall Int
  /-- Fails, as a failure of the given operation, when the stream is closed. -/
  | checkOpen (during : Context) : OutputCall Unit
  /-- Tells whether the stream is closed. -/
  | isClosed : OutputCall Bool
  /-- Closes the stream; closing it again has no effect. -/
  | close : OutputCall Unit

/-- The result of an operation that a closed stream refuses. -/
def whenOpen {α : Type} (closed : Bool) (context : Context) (result : Except Error α) :
    Except Error α :=
  if closed then .error (.closed context) else result

end ByteStreams
