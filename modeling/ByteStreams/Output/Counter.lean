import ByteStreams.Output

/-!
# Counting sinks

A stream that drops what is written to it and counts it.
-/

namespace ByteStreams

/-- An output stream that keeps only the number of bytes written. -/
structure CountingSink where
  written : Nat := 0
  closed : Bool := false
  deriving DecidableEq, Repr, Inhabited

namespace CountingSink

/-- Counts the data, unless the sink is closed. -/
def write (s : CountingSink) (data : Bytes) : Except Error Unit × CountingSink :=
  if s.closed then (.error (.closed .write), s)
  else (.ok (), { s with written := s.written + data.length })

/-- The answer to a call, and the sink after it. -/
def call {α : Type} : OutputCall α → CountingSink → Except Error α × CountingSink
  | .write data, s => s.write data
  | .writeBuffer source, s => s.write source.content
  | .flush, s => (whenOpen s.closed .flush (.ok ()), s)
  | .tell, s => (whenOpen s.closed .tell (.ok s.written), s)
  | .checkOpen during, s => (whenOpen s.closed during (.ok ()), s)
  | .isClosed, s => (.ok s.closed, s)
  | .close, s => (.ok (), { s with closed := true })

/-- The sink as a diagnostic shows it. -/
def describe (s : CountingSink) : Text.Description :=
  .record "MockOutputStream" [("written", .count s.written), ("closed", .flag s.closed)] false

end CountingSink

end ByteStreams
