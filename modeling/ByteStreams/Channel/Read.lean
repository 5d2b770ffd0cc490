import ByteStreams.Channel.Failure
import ByteStreams.Input.Reader

/-!
# Reading from a channel

A reader as a channel: reading into targets, reading everything, and reading up to a byte, by lines
and as text. Text must be UTF-8; bytes that are not are read all the same and then refused.
-/

namespace ByteStreams

/-- The byte that ends a line. -/
def newline : UInt8 := 10

/-- The byte that may stand before the end of a line. -/
def carriageReturn : UInt8 := 13

namespace Bytes

/-- The bytes up to and with the first one equal to `b`, all of them if none is. -/
def through (b : UInt8) (bytes : Bytes) : Bytes :=
  bytes.take ((bytes.takeWhile (· != b)).length + 1)

/-- The bytes divided into lines, each with the byte that ends it. -/
def lines (bytes : Bytes) : List Bytes :=
  bytes.foldr
    (fun b later =>
      if b = newline then [b] :: later
      else match later with
        | [] => [[b]]
        | line :: later => (b :: line) :: later)
    []

/-- A line without the bytes that end it. -/
def chomp (line : Bytes) : Bytes :=
  if line.getLast? = some newline then
    let line := line.dropLast
    if line.getLast? = some carriageReturn then line.dropLast else line
  else line

/-- The text that the bytes encode. -/
def text? (bytes : Bytes) : Except ChannelError String :=
  match String.fromUTF8? ⟨bytes.toArray⟩ with
  | some text => .ok text
  | none => .error .invalidText

end Bytes

namespace Reader

variable {α : Type}

/-- A call made through the channel. -/
def channelCall (r : Reader) (c : InputCall α) : Except ChannelError α × Reader :=
  let (result, r) := r.call c
  (onChannel result, r)

/-- Reads into the target. -/
def channelRead (r : Reader) (target : Bytes) : Except ChannelError Filled × Reader :=
  r.channelCall (.readInto target)

/-- Fills the whole target, for which an empty one needs no read. What was read is lost if the
data ends too early. -/
def readExact (r : Reader) (target : Bytes) : Except ChannelError Filled × Reader :=
  if target.isEmpty then (.ok ⟨0, target⟩, r)
  else
    match r.channelRead target with
    | (.ok f, r) => (if f.count < target.length then .error .unexpectedEnd else .ok f, r)
    | (.error e, r) => (.error e, r)

/-- Reads everything to the end. -/
def readToEnd (r : Reader) : Except ChannelError Bytes × Reader :=
  match r.channelCall (.read maxCount) with
  | (.ok b, r) => (.ok b.content, r)
  | (.error e, r) => (.error e, r)

/-- Reads everything to the end as text; the bytes are counted. -/
def readToString (r : Reader) : Except ChannelError (Nat × String) × Reader :=
  match r.readToEnd with
  | (.ok bytes, r) => (bytes.text?.map (bytes.length, ·), r)
  | (.error e, r) => (.error e, r)

/-- Shows all bytes that are left. -/
def fillBuffer (r : Reader) : Except ChannelError Bytes × Reader :=
  r.channelCall (.peek maxCount)

/-- Skips bytes; a failure is not told. -/
def consume (r : Reader) (count : Nat) : Reader := (r.call (.advance count)).2

/-- Reads up to and with the next byte equal to `b`. -/
def readUntil (r : Reader) (b : UInt8) : Except ChannelError Bytes × Reader :=
  match r.fillBuffer with
  | (.ok left, r) => (.ok (left.through b), r.consume (left.through b).length)
  | (.error e, r) => (.error e, r)

/-- Reads a line as text, with the bytes that end it; the bytes are counted. -/
def readLine (r : Reader) : Except ChannelError (Nat × String) × Reader :=
  match r.readUntil newline with
  | (.ok line, r) => (line.text?.map (line.length, ·), r)
  | (.error e, r) => (.error e, r)

/-- The texts of lines, without the bytes that end them, up to the first line that is no text; and
the number of bytes in all lines looked at. -/
def textsOf : List Bytes → Except ChannelError (List String) × Nat
  | [] => (.ok [], 0)
  | line :: later =>
    match line.chomp.text? with
    | .error e => (.error e, line.length)
    | .ok text =>
      let (texts, length) := textsOf later
      (texts.map (text :: ·), line.length + length)

/-- Reads all lines that are left as texts, up to the first one that is no text. -/
def readLines (r : Reader) : Except ChannelError (List String) × Reader :=
  match r.fillBuffer with
  | (.ok left, r) =>
    let (texts, length) := textsOf left.lines
    (texts, r.consume length)
  | (.error e, r) => (.error e, r)

/-- A place to seek to. -/
inductive Place where
  /-- So many bytes from the start. -/
  | start (offset : Nat)
  /-- A distance from the end. -/
  | fromEnd (offset : Int)
  /-- A distance from the cursor. -/
  | fromCursor (offset : Int)
  deriving DecidableEq, Repr

/-- What is sought must be a number that a position can be. -/
def checkedPosition (position : Int) : Except ChannelError Int :=
  if isPosition position then .ok position
  else .error .seekOverflow

/-- The position of a place. -/
def positionOf (r : Reader) : Place → Except ChannelError Int
  | .start offset => checkedPosition offset
  | .fromEnd offset => checkedPosition (r.buffer.length + offset)
  | .fromCursor offset =>
    match (r.channelCall .tell).1 with
    | .ok position => checkedPosition (position + offset)
    | .error e => .error e

/-- Seeks a place and tells its position. -/
def channelSeek (r : Reader) (place : Place) : Except ChannelError Int × Reader :=
  match r.positionOf place with
  | .error e => (.error e, r)
  | .ok position =>
    match r.channelCall (.seek position) with
    | (.ok (), r) => (.ok position, r)
    | (.error e, r) => (.error e, r)

end Reader

end ByteStreams
