import ByteStreams.Channel.Write
import ByteStreams.Session.Command
import ByteStreams.Session.State

/-!
# Commands to output streams

The commands that all output streams offer are answered in one place (`answerOutput`), for any kind
of stream that answers the calls on output streams; each kind has a few commands of its own.
-/

namespace ByteStreams.Session

open SessionM

/-- A kind of output streams: how they answer calls, and how a session keeps them. -/
structure Sink (σ : Type) where
  call : {α : Type} → OutputCall α → σ → Except Error α × σ
  toObject : σ → Object

namespace Sink

variable {σ α : Type}

/-- Makes a call and keeps the stream that it leaves. -/
def send (sink : Sink σ) (id : String) (s : σ) (c : OutputCall α) : SessionM α := do
  let (result, s) := sink.call c s
  keep id (sink.toObject s)
  ofStream result

/-- Keeps the stream after an operation on it as a channel. -/
def settle (sink : Sink σ) (id : String) (done : Except ChannelError α × σ) : SessionM α := do
  keep id (sink.toObject done.2)
  ofChannel done.1

end Sink

/-- The answer to a command that all output streams offer. -/
def answerOutput {σ : Type} (sink : Sink σ) (id : String) (s : σ) : Command → SessionM Answer
  | .write data => perform (sink.send id s (.write data))
  | .writeBuffer source => perform do sink.send id s (.writeBuffer (← buffer source))
  | .flush => perform (sink.send id s .flush)
  | .tell => return .of (.number (← sink.send id s .tell))
  | .checkOpen during => perform (sink.send id s (.checkOpen during))
  | .isClosed => return .of (.flag (← sink.send id s .isClosed))
  | .close => perform (sink.send id s .close)
  | .channelWrite data => do
    let count ← sink.settle id (Channel.write (fun data => sink.call (.write data)) data s)
    return .of (.number count)
  | .channelWriteAll data =>
    perform (sink.settle id (Channel.writeAll (fun data => sink.call (.write data)) data s))
  | .channelFlush => perform do
    let (result, s) := sink.call .flush s
    sink.settle id (onChannel result, s)
  | _ => throw .misuse

/-- The answer of the append stream of an id. -/
def answerAppend (id : String) (s : AppendStream) (lender : Option String) :
    Command → SessionM Answer
  | .finish => do
    let (result, s) := s.finish (← get).allocator (← freshTag)
    keep id (.append s lender)
    return .ofBuffer (← ofStream result)
  | .reset capacity => perform do
    let (result, s) := s.reset (← get).allocator capacity
    keep id (.append s lender)
    ofStream result
  | .capacity => return .of (.number s.capacity)
  | command => do
    let allocator := (← get).allocator
    answerOutput ⟨AppendStream.call allocator, (.append · lender)⟩ id s command

/-- The answer of the fixed writer of an id. -/
def answerFixed (id : String) (w : FixedWriter) (spare : Option Nat) : Command → SessionM Answer
  | .seek position => settle (w.seek position)
  | .writeAt position data => settle (w.writeAt position data)
  | .setOptions options => settle (.ok (), { w with options })
  | .change setting => settle (.ok (), { w with options := w.options.set setting })
  | .options => return .of (.options w.options)
  | .capacity => return .of (.number w.capacity)
  | .intoInner kept => do
    forget id
    match kept, spare with
    | some kept, some spare => keep kept (.block ⟨w.target, spare⟩)
    | _, _ => pure ()
    return .of (.bytes w.target)
  | command => answerOutput ⟨FixedWriter.call, (.fixed · spare)⟩ id w command
where
  /-- Keeps the writer after an operation on it. -/
  settle (done : Except Error Unit × FixedWriter) : SessionM Answer := perform do
    keep id (.fixed done.2 spare)
    ofStream done.1

/-- The answer of the counting sink of an id. -/
def answerCounter (id : String) (s : CountingSink) : Command → SessionM Answer
  | .written => return .of (.number s.written)
  | .clone => return { made := some (.counter s) }
  | .describe indented => return .describing s.describe indented
  | command => answerOutput ⟨CountingSink.call, .counter⟩ id s command

end ByteStreams.Session
