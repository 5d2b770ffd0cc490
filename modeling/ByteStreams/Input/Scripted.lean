import ByteStreams.Input

/-!
# Scripted files

A `ScriptedFile` answers its reads from a list of answers, one for each read, whatever the bytes
asked for; an answer may look at the request. It keeps a log of the requests made to it. It offers
no peeking, and a read that skips is a read.
-/

namespace ByteStreams

/-- A request as a scripted file sees it. -/
inductive Request where
  | read (count : Nat)
  | readInto (count : Nat)
  | readAt (position : Int) (count : Nat)
  | readAtInto (position : Int) (count : Nat)
  | seek (position : Int)
  | close
  deriving DecidableEq, Repr

/-- A file with a list of answers. -/
structure ScriptedFile where
  /-- The owner in the tags of the memories that hold its answers. -/
  owner : Nat
  size : Int := 0
  answers : List (Request → Except Error Bytes) := []
  /-- What the first close fails with, if it fails. -/
  closeError : Option Error := none
  /-- The requests so far, the last one first. -/
  log : List Request := []
  /-- The number of reads so far that found the file open. -/
  reads : Nat := 0
  closed : Bool := false

namespace ScriptedFile

/-- Answers one read with the next answer, with nothing when there is none left. -/
def answer (f : ScriptedFile) (request : Request) : Except Error Bytes × ScriptedFile :=
  let f := { f with log := request :: f.log }
  if f.closed then (.error (.closed .read), f)
  else
    let f := { f with reads := f.reads + 1 }
    match f.answers with
    | [] => (.ok [], f)
    | reply :: answers => (reply request, { f with answers })

/-- Answers one read with a buffer over a memory of its own. -/
def answerBuffer (f : ScriptedFile) (request : Request) : Except Error Buffer × ScriptedFile :=
  match f.answer request with
  | (.ok bytes, f) => (.ok (.ofBytes ⟨f.owner, f.reads⟩ bytes), f)
  | (.error e, f) => (.error e, f)

/-- Answers one read into a target with as much as the target holds. -/
def answerInto (f : ScriptedFile) (request : Request) (target : Bytes) :
    Except Error Filled × ScriptedFile :=
  match f.answer request with
  | (.ok bytes, f) => (.ok (.ofOverlay target (bytes.take target.length)), f)
  | (.error e, f) => (.error e, f)

/-- The answer to a call, and the file after it. -/
def call {α : Type} (c : InputCall α) (f : ScriptedFile) : Except Error α × ScriptedFile :=
  match c with
  | .read count => f.answerBuffer (.read count)
  | .readInto target => f.answerInto (.readInto target.length) target
  | .readAt position count => f.answerBuffer (.readAt position count)
  | .readAtInto position target => f.answerInto (.readAtInto position target.length) target
  | .advance count =>
    match f.answerBuffer (.read count) with
    | (.ok b, f) => (.ok b.length, f)
    | (.error e, f) => (.error e, f)
  | .peek _ => (if f.closed then .error (.closed .peek) else .error (.unsupported .peek), f)
  | .tell => (if f.closed then .error (.closed .tell) else .ok f.reads, f)
  | .zeroCopy => (.ok false, f)
  | .seek position =>
    (if f.closed then .error (.closed .seek) else .ok (),
      { f with log := .seek position :: f.log })
  | .size => (if f.closed then .error (.closed .size) else .ok f.size, f)
  | .isClosed => (.ok f.closed, f)
  | .checkOpen during => (if f.closed then .error (.closed during) else .ok (), f)
  | .close =>
    let result :=
      match f.closed, f.closeError with
      | false, some e => .error e
      | _, _ => .ok ()
    (result, { f with log := .close :: f.log, closed := true })

end ScriptedFile

end ByteStreams
