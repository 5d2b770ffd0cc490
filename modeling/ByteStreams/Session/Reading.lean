import ByteStreams.Session.Command
import ByteStreams.Session.State

/-!
# Commands to input streams

The commands that all input streams offer are calls on the stream that an object names
(`answerInput`); each kind of stream has a few commands of its own. Sequences of chunks and
decorators hand commands on to the stream inside them.
-/

namespace ByteStreams.Session

open SessionM

/-- The answer to a command that all input streams offer. -/
def answerInput (name : Nat) : Command → SessionM Answer
  | .read count => return .ofBuffer (← ask name (.read count))
  | .readInto target => return .of (.filled (← ask name (.readInto target)))
  | .peek count => return .of (.bytes (← ask name (.peek count)))
  | .advance count => return .of (.number (← ask name (.advance count)))
  | .tell => return .of (.number (← ask name .tell))
  | .zeroCopy => return .of (.flag (← ask name .zeroCopy))
  | .seek position => perform (ask name (.seek position))
  | .size => return .of (.number (← ask name .size))
  | .readAt position count => return .ofBuffer (← ask name (.readAt position count))
  | .readAtInto position target => return .of (.filled (← ask name (.readAtInto position target)))
  | .isClosed => return .of (.flag (← ask name .isClosed))
  | .checkOpen during => perform (ask name (.checkOpen during))
  | .close => perform (ask name .close)
  | _ => throw .misuse

/-- The answer of the reader of a name. -/
def answerReader (name : Nat) (r : Reader) : Command → SessionM Answer
  | .clone => return { made := some (.stream (← newStream (.reader r))) }
  | .source => return .ofBuffer r.buffer
  | .describe indented => return .describing r.describe indented
  | .channelRead target => return .of (.filled (← settle (r.channelRead target)))
  | .readExact target => return .of (.filled (← settle (r.readExact target)))
  | .readToEnd => return counted (← settle r.readToEnd)
  | .readToString => return countedText (← settle r.readToString)
  | .readUntil b => return counted (← settle (r.readUntil b))
  | .readLine => return countedText (← settle r.readLine)
  | .readLines => return .of (.list ((← settle r.readLines).map .text))
  | .fillBuffer => return .of (.bytes (← settle r.fillBuffer))
  | .consume count => perform (settle (.ok (), r.consume count))
  | .channelSeek place => return .of (.number (← settle (r.channelSeek place)))
  | .rewind => do
    let _ ← settle (r.channelSeek (.start 0))
    return {}
  | command => answerInput name command
where
  /-- Keeps the reader after an operation on it as a channel. -/
  settle {α : Type} (done : Except ChannelError α × Reader) : SessionM α := do
    modifyStreams (·.replace name (.reader done.2))
    ofChannel done.1
  /-- Bytes, counted. -/
  counted (content : Bytes) : Answer := .of (.list [.number content.length, .bytes content])
  /-- A text, with the count of its bytes. -/
  countedText (read : Nat × String) : Answer := .of (.list [.number read.1, .text read.2])

/-- The answer of the stream of a name, which an id stands for. -/
def answerStream (id : String) (name : Nat) (inside : Bool) (command : Command) :
    SessionM Answer := do
  match ← node name, command with
  | .slow inner _, .intoInner _ =>
    forget id
    return .of (.standing ((← get).standing inner))
  | .slow inner _, command => answerInput (if inside then inner else name) command
  | .view v, .window =>
    let streams := (← get).streams
    return .of (.window v.start v.length (v.file.map streams.isClosed))
  | .scripted f, .log =>
    modifyStreams (·.replace name (.scripted { f with log := [] }))
    return .of (.requests f.log.reverse)
  | .reader r, command => answerReader name r command
  | _, command => answerInput name command

/-- The answer of a handle on a shared file. -/
def answerHandle (file : Nat) (reader : Option Nat) : Command → SessionM Answer
  | .clone => return { made := some (.handle file reader) }
  | .cloneInner => do
    match ← node (← ofOption .misuse reader) with
    | .reader r => return { made := some (.stream (← newStream (.reader r))) }
    | _ => throw .misuse
  | command => answerInput file command

/-- The answer of a sequence of chunks. -/
def answerChunks (id : String) (c : Chunks) (inside : Bool) (command : Command) :
    SessionM Answer := do
  match inside, command with
  | true, command =>
    match c.source with
    | some name => answerInput name command
    | none => return {}
  | false, .next => return .ofBuffer? (← settle (c.next (← get).streams))
  | false, .collect =>
    return .of (.list ((← settle (c.rest (← get).streams)).map .buffer))
  | false, .blockSize => return .of (.number c.blockSize)
  | false, _ => throw .misuse
where
  /-- Keeps the sequence after chunks were read. -/
  settle {α : Type} (done : Served α × Chunks) : SessionM α := do
    keep id (.chunks done.2)
    serve done.1

/-- The answer of the clock of a name. -/
def answerClock (name : Nat) : Command → SessionM Answer
  | .next => return .of (.number (← draw))
  | .sleep => do
    let _ ← draw
    return {}
  | _ => throw .misuse
where
  /-- Draws the next delay. -/
  draw : SessionM Nat := do
    let clock ← ofOption .misuse ((← get).clock? name)
    modify (·.drawn [name])
    return clock.next.1

end ByteStreams.Session
