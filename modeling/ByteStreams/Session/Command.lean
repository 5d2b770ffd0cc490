import ByteStreams.Channel.Read
import ByteStreams.Copy.Options
import ByteStreams.Input.Scripted
import ByteStreams.Latency.Delays

/-!
# Commands

The commands of a session. Most are offered by several kinds of objects, so a command is understood
only by the object that it is addressed to. Commands name objects by their ids.
-/

namespace ByteStreams.Session

/-- How an object is made. -/
inductive Maker where
  /-- A buffer over a new memory. -/
  | buffer (data : Bytes)
  /-- A block of the given bytes, with no room past them. -/
  | block (data : Bytes)
  /-- A block of zeros. -/
  | allocatedBlock (length : Nat)
  /-- An empty block with room. -/
  | roomyBlock (capacity : Nat)
  /-- An append stream with a block of its own. -/
  | append (capacity : Nat)
  /-- An append stream over a borrowed block. -/
  | wrapped (target : String)
  /-- A writer of fixed capacity over the given bytes. -/
  | fixed (data : Bytes) (options : CopyOptions)
  /-- A writer of fixed capacity over a block, which it takes. -/
  | fixedOver (target : String) (options : CopyOptions)
  /-- A sink that counts. -/
  | counter
  /-- A reader over the given bytes. -/
  | reader (data : Bytes)
  /-- A reader over a buffer. -/
  | readerOver (source : String)
  /-- A handle on a new reader, whose cursor is moved first if a position is given. -/
  | sharedReader (data : Bytes) (position : Option Int)
  /-- A handle on a file that stands for a stream. -/
  | shared (source : String)
  /-- A view of the file of a handle, or of a stream. -/
  | view (source : String) (offset length : Int)
  /-- A stream whose reads wait for a clock. -/
  | slow (source clock : String)
  /-- A stream whose reads wait for delays that spread around an average. -/
  | slowAround (source : String) (nanos : Nat)
  /-- The chunks of a stream. -/
  | chunks (source : String) (blockSize : Nat)
  | clock (delays : Delays)
  /-- A scripted file. -/
  | scripted (size : Int) (answers : List (Except Error Bytes)) (closeError : Option Error)

/-- A command to an object. -/
inductive Command where
  /-- Makes the object. -/
  | make (maker : Maker)
  /-- Lets go of the object. -/
  | drop
  /-- Makes a copy that is independent, or shares what the object shares. -/
  | clone
  /-- Makes an independent reader of the one behind a handle. -/
  | cloneInner
  /-- Shows the object as a diagnostic does, on one line or on several. -/
  | describe (indented : Bool)
  /-- Compares with another object by content. -/
  | equals (other : String)
  /-- Compares the content with bytes. -/
  | equalsBytes (data : Bytes)
  | length
  -- Buffers
  | slice (offset length : Nat)
  | parent
  | data
  | content
  | sharesMemory (other : String)
  -- Blocks
  | resize (length : Nat)
  | reserve (additional : Nat)
  | shrink
  | clear
  | put (offset : Nat) (data : Bytes)
  | hasRoom (count : Nat)
  | freeze
  /-- Takes a block apart for its bytes. -/
  | intoBytes
  -- All streams
  | tell
  | isClosed
  | checkOpen (during : Context)
  | close
  | seek (position : Int)
  /-- Takes a writer apart for its target, or a decorator for its stream. A block that a writer
  gives back is kept under another id, if one is given. -/
  | intoInner (keep : Option String)
  -- Output streams
  | write (data : Bytes)
  | writeBuffer (source : String)
  | flush
  | channelWrite (data : Bytes)
  | channelWriteAll (data : Bytes)
  | channelFlush
  | finish
  | reset (capacity : Nat)
  | capacity
  | writeAt (position : Int) (data : Bytes)
  | setOptions (options : CopyOptions)
  | change (setting : CopyOptions.Setting)
  | options
  | written
  -- Input streams
  | read (count : Nat)
  | readInto (target : Bytes)
  | peek (count : Nat)
  | advance (count : Nat)
  | zeroCopy
  | size
  | readAt (position : Int) (count : Nat)
  | readAtInto (position : Int) (target : Bytes)
  /-- The buffer that a reader reads. -/
  | source
  /-- The window of a view. -/
  | window
  /-- The requests that a scripted file has seen since it was last asked. -/
  | log
  -- Readers as channels
  | channelRead (target : Bytes)
  | readExact (target : Bytes)
  | readToEnd
  | readToString
  | readUntil (b : UInt8)
  | readLine
  | readLines
  | fillBuffer
  | consume (count : Nat)
  | channelSeek (place : Reader.Place)
  | rewind
  -- Chunks and clocks
  /-- The next chunk, or the next delay. -/
  | next
  /-- All chunks that are left. -/
  | collect
  | blockSize
  /-- Waits for one delay. -/
  | sleep

/-- A command, the object it goes to, and what becomes of what it makes. -/
structure Step where
  id : String
  command : Command
  /-- The command goes to the stream inside the object. -/
  inside : Bool := false
  /-- The id under which an object that is given out is kept. -/
  save : Option String := none

end ByteStreams.Session
