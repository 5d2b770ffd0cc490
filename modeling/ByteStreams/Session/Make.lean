import ByteStreams.Session.Command
import ByteStreams.Session.State

/-!
# Making objects

How a session makes each kind of object, and what it does when it lets go of one. A maker that fails
makes no object.
-/

namespace ByteStreams.Session

open SessionM

/-- A reference to a stream. It is a shared file of its own, with one handle for what refers to the
stream and one that stays with the session: what refers to a stream can be dropped, and the stream
is still there under its own id. -/
def refer (name : Nat) : SessionM Nat := newStream (.shared name 2)

/-- A handle on a shared file. The file is counted once the handle is kept. -/
def shareFile (source : Nat) (reader : Option Nat) : SessionM Object :=
  return .handle (← newStream (.shared source 0)) reader

/-- A view of the file of a handle, or of a file of its own that stands for a stream. -/
def openView (source : Object) (offset length : Int) : SessionM Object := do
  let file ← match source with
    | .handle file _ => pure file
    | .stream name => newStream (.shared (← refer name) 0)
    | _ => throw .misuse
  let name ← fresh
  let streams ← ofStream ((← get).streams.openView name file offset length)
  modifyStreams fun _ => streams
  return .stream name

/-- The object that a maker makes. -/
def create : Maker → SessionM Object
  | .buffer data => return .buffer (.ofBytes (← freshTag) data)
  | .block data => return .block (.ofBytes data)
  | .allocatedBlock length => do
    return .block (← ofStream (Block.allocate (← get).allocator length))
  | .roomyBlock capacity => do
    return .block (← ofStream (Block.withCapacity (← get).allocator capacity))
  | .append capacity => do
    return .append (← ofStream (AppendStream.create (← get).allocator capacity)) none
  | .wrapped target => do
    let b ← block target
    forget target
    return .append (.wrap b) (some target)
  | .fixed data options => return .fixed { target := data, options } none
  | .fixedOver target options => do
    let b ← block target
    forget target
    return .fixed { target := b.bytes, options } (some b.spare)
  | .counter => return .counter {}
  | .reader data => do
    return .stream (← newStream (.reader { buffer := .ofBytes (← freshTag) data }))
  | .readerOver source => do
    return .stream (← newStream (.reader { buffer := ← buffer source }))
  | .sharedReader data position => do
    let r : Reader := { buffer := .ofBytes (← freshTag) data }
    let (sought, r) := match position with
      | some position => r.call (.seek position)
      | none => (.ok (), r)
    ofStream sought
    let name ← newStream (.reader r)
    shareFile name (some name)
  | .shared source => do shareFile (← refer (← stream source)) none
  | .view source offset length => do openView (← object source) offset length
  | .slow source clock => do
    match ← object clock with
    | .clock clock => return .stream (← newStream (.slow (← refer (← stream source)) clock))
    | _ => throw .misuse
  | .slowAround source nanos => do
    let clock ← newClock (.spread (.ofNanos nanos) 0)
    return .stream (← newStream (.slow (← refer (← stream source)) clock))
  | .chunks source blockSize => do
    return .chunks (← ofStream (Chunks.ofStream (← get).streams (← stream source) blockSize))
  | .clock delays => return .clock (← newClock delays)
  | .scripted size answers closeError => do
    let answers := answers.map fun answer _ => answer
    return .stream (← newStream (.scripted { owner := ← fresh, size, answers, closeError }))

/-- Lets go of an object. A handle or a stream is dropped, and with it whatever loses its last
handle then; nothing is closed. A borrowed block goes back to its id. -/
def discard (id : String) : SessionM Unit := do
  let o ← object id
  forget id
  match o with
  | .append s (some lender) =>
    match s.released? (← get).allocator with
    | some b => keep lender (.block b)
    | none => return
  | .handle name _ | .stream name => modifyStreams (·.letGo name)
  | _ => return

end ByteStreams.Session
