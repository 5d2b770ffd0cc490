import ByteStreams.Input.Streams

/-!
# Opening views, and dropping views and handles

A view holds a handle on a shared file from its opening until it is closed or dropped. Opening a
view counts it among the handles (`openView`). Dropping a view, or a handle, drops whatever loses
its last handle with that, and closes nothing (`letGo`). Closing a view, which may close the file,
is a call (`Streams.call`).
-/

namespace ByteStreams.Streams

/-- Opens a view of a shared file under a new name, if its window is valid. -/
def openView (streams : Streams) (name file : Nat) (offset length : Int) :
    Except Error Streams :=
  match View.checkWindow offset length with
  | .error e => .error e
  | .ok () => .ok ((name, .view ⟨some file, offset, length, 0⟩) :: streams.retain file)

/-- Gives up a handle, or a view. What a file that loses its last handle stands for is given up in
turn, and so is the handle of a view; a reader is left in the state `leave`. -/
def giveUp (leave : Reader → Reader) : Streams → Nat → Streams
  | [], _ => []
  | (key, node) :: rest, name =>
    if key = name then
      match node with
      | .reader r => (key, .reader (leave r)) :: rest
      | .scripted _ => (key, node) :: rest
      | .shared inner count =>
        (key, .shared inner (count - 1)) :: if count = 1 then giveUp leave rest inner else rest
      | .view v =>
        match v.file with
        | none => (key, node) :: rest
        | some file => (key, .view { v with file := none }) :: giveUp leave rest file
      | .slow inner _ => (key, node) :: giveUp leave rest inner
    else (key, node) :: giveUp leave rest name

/-- Drops a handle, or a view; nothing is closed. -/
def letGo (streams : Streams) (name : Nat) : Streams := streams.giveUp id name

end ByteStreams.Streams
