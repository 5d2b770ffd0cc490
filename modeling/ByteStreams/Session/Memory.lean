import ByteStreams.Session.Command
import ByteStreams.Session.State

/-!
# Commands to buffers and blocks

A buffer never changes; a command that changes a block puts the changed block under the same id.
-/

namespace ByteStreams.Session

open SessionM

/-- The answer of a buffer. -/
def answerBuffer (b : Buffer) : Command → SessionM Answer
  | .slice offset length => return .ofBuffer (← ofOption .contract (b.slice? offset length))
  | .clone => return .ofBuffer b
  | .parent => return .ofBuffer? b.parent?
  | .length =>
    let length : Value := .number b.length
    return .of (.list [length, .flag (b.length = 0), length])
  | .data =>
    let content : Value := .bytes b.content
    return .of (.list [content, content, content, .flag b.isSlice])
  | .content => return .of (.bytes b.content)
  | .describe indented => return .describing b.describe indented
  | .equals other => return .of (.flag (b.content = (← buffer other).content))
  | .equalsBytes data => return .of (.flag (b.content = data))
  | .sharesMemory other => return .of (.flag (b.sharesMemory (← buffer other)))
  | _ => throw .misuse

/-- The answer of the block of an id. -/
def answerBlock (id : String) (b : Block) : Command → SessionM Answer
  | .resize length => perform do
    keep id (.block (← ofStream (b.resize (← get).allocator length)))
  | .reserve additional => perform do
    keep id (.block (← ofStream (b.reserve (← get).allocator additional)))
  | .shrink => perform (keep id (.block b.shrinkToFit))
  | .clear => perform (keep id (.block b.clear))
  | .put offset data => perform do keep id (.block (← ofOption .contract (b.put? offset data)))
  | .length =>
    let length : Value := .number b.length
    return .of (.list [length, .flag (b.length = 0), length, length])
  | .hasRoom count => return .of (.flag (count ≤ b.room))
  | .describe indented => return .describing b.describe indented
  | .equals other => return .of (.flag (b == (← block other)))
  | .intoBytes => do
    forget id
    return .of (.bytes b.bytes)
  | .freeze => do
    let frozen := b.freeze (← freshTag)
    keep id (.buffer frozen)
    return .ofBuffer frozen
  | _ => throw .misuse

end ByteStreams.Session
