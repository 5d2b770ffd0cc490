import ByteStreams.Bytes
import ByteStreams.Channel.Failure

/-!
# Writing to a channel

How a stream serves as a channel: a write that succeeds has written everything.
-/

namespace ByteStreams.Channel

variable {σ : Type}

/-- Writes the data and counts the bytes written. -/
def write (send : Bytes → σ → Except Error Unit × σ) (data : Bytes) (s : σ) :
    Except ChannelError Nat × σ :=
  let (result, s) := send data s
  ((onChannel result).map fun _ => data.length, s)

/-- Writes until nothing is left, so that no data is no call. -/
def writeAll (send : Bytes → σ → Except Error Unit × σ) (data : Bytes) (s : σ) :
    Except ChannelError Unit × σ :=
  if data.isEmpty then (.ok (), s)
  else
    let (result, s) := send data s
    (onChannel result, s)

end ByteStreams.Channel
