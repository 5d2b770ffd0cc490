import ByteStreams.Error
import ByteStreams.Text.Quoted

/-!
# Symbols of contexts and kinds

The name under which diagnostics show a context or a kind: one word, or `Other` with the quoted
text of one that has a text of its own.
-/

namespace ByteStreams

/-- The symbol of an operation. -/
def Context.symbol : Context → String
  | unknown => "Unknown"
  | write => "Write"
  | read => "Read"
  | peek => "Peek"
  | seek => "Seek"
  | tell => "Tell"
  | size => "Size"
  | finish => "Finish"
  | reset => "Reset"
  | allocate => "Allocate"
  | iterate => "Iterate"
  | other text => "Other(" ++ Text.quote text ++ ")"

/-- The symbol of a class of errors. -/
def Kind.symbol : Kind → String
  | closed => "Closed"
  | outOfBounds => "OutOfBounds"
  | capacity => "Capacity"
  | invalid => "Invalid"
  | unsupported => "Unsupported"
  | allocation => "Alloc"
  | other text => "Other(" ++ Text.quote text ++ ")"

end ByteStreams
