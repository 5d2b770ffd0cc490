import ByteStreams.Error

/-!
# Failures of byte channels

A channel is the plain interface of readers and writers that know nothing of streams: it has its own
classes of failure. A failing stream fails as a channel in the class of its error and with its
message; beside that a channel has three failures of its own.
-/

namespace ByteStreams

/-- The class of a channel's failure. -/
inductive ChannelKind where
  | brokenPipe
  | invalidInput
  | writeZero
  | invalidData
  | unsupported
  | outOfMemory
  | unexpectedEnd
  | other
  deriving DecidableEq, Repr

/-- The class in which a stream's error shows on a channel. -/
def Kind.onChannel : Kind → ChannelKind
  | closed => .brokenPipe
  | outOfBounds => .invalidInput
  | capacity => .writeZero
  | invalid => .invalidData
  | unsupported => .unsupported
  | allocation => .outOfMemory
  | other _ => .other

/-- Why an operation on a channel failed. -/
inductive ChannelError where
  /-- The stream behind the channel failed. -/
  | stream (e : Error)
  /-- The position sought is not a number that positions can be. -/
  | seekOverflow
  /-- The data ended before the target was full. -/
  | unexpectedEnd
  /-- The bytes read as text are not UTF-8. -/
  | invalidText
  deriving DecidableEq, Repr

namespace ChannelError

/-- The class of the failure. -/
def kind : ChannelError → ChannelKind
  | stream e => e.kind.onChannel
  | seekOverflow => .invalidInput
  | unexpectedEnd => .unexpectedEnd
  | invalidText => .invalidData

/-- The message of the failure. -/
def message : ChannelError → String
  | stream e => e.message
  | seekOverflow => "seek position overflow"
  | unexpectedEnd => "failed to fill whole buffer"
  | invalidText => "stream did not contain valid UTF-8"

end ChannelError

/-- What a stream does, as an operation on a channel. -/
def onChannel {α : Type} : Except Error α → Except ChannelError α
  | .ok a => .ok a
  | .error e => .error (.stream e)

end ByteStreams
