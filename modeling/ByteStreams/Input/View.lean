import ByteStreams.Input

/-!
# Views

A `View` is a window of a file with a cursor of its own. It reads the file by position only, through
one addressed read a call, so that views of one file do not disturb each other or the file's cursor.
What a view does with a call is a `Plan`: it answers by itself, or it asks the file for one read
and turns the file's answer into its own. A read that fails leaves the view as it was.

A file that delivers more than it was asked for moves the cursor past the window. Once the cursor,
or its place in the file, is no number that a position can be, the call breaks off.
-/

namespace ByteStreams

/-- A window of a file. -/
structure View where
  /-- The name under which the view holds the file, until it is closed. -/
  file : Option Nat
  start : Int
  length : Int
  position : Int := 0
  deriving DecidableEq, Repr

/-- What a view does with a call whose answer has type `α`. -/
inductive View.Plan (α : Type) where
  /-- The view answers by itself. -/
  | answer (result : Except Error α)
  /-- The view moves its cursor and answers. -/
  | move (result : α) (next : View)
  /-- The view asks the file for a buffer; the call breaks off if nothing is made of it. -/
  | readAt (position : Int) (count : Nat) (resume : Buffer → Option (α × View))
  /-- The view asks the file to fill a target; the call breaks off if nothing is made of it. -/
  | readAtInto (position : Int) (target : Bytes) (resume : Filled → Option (α × View))
  /-- The call breaks off at once. -/
  | overflow

namespace View

/-- A window must have no negative part and end at a position that a position can be. -/
def checkWindow (offset length : Int) : Except Error Unit :=
  if offset < 0 then .error (.invalid .openView "negative view offset")
  else if length < 0 then .error (.invalid .openView "negative view length")
  else if maxPosition < offset + length then .error (.invalid .openView "view end overflows")
  else .ok ()

/-- Of `count` bytes from `position` on, those within the window. -/
def clamped (v : View) (position : Int) (count : Nat) : Nat := clampRead position v.length count

/-- The place of the cursor in the file. -/
def address (v : View) : Int := v.start + v.position

/-- The view with its cursor moved on by the bytes it got, if it can be moved so far. -/
def advanced? (v : View) (count : Nat) : Option View :=
  if isPosition (v.position + count) then some { v with position := v.position + count } else none

/-- Asks the file for `count` bytes at the cursor, which moves on by the bytes that come. -/
def planRead {α : Type} (v : View) (count : Nat) (answer : Buffer → α) : Plan α :=
  if isPosition v.address then
    .readAt v.address (v.clamped v.position count)
      fun b => (v.advanced? b.length).map (answer b, ·)
  else .overflow

/-- Asks the file to fill a target from the cursor, which moves on by the bytes that come. -/
def planReadInto (v : View) (target : Bytes) : Plan Filled :=
  let count := v.clamped v.position target.length
  if isPosition v.address then
    .readAtInto v.address (target.take count)
      fun f => (v.advanced? f.count).map (f.append (target.drop count), ·)
  else .overflow

/-- What an open view does with a call; `copiesNothing` is what its file says of itself. -/
def planOpen {α : Type} (c : InputCall α) (v : View) (copiesNothing : Bool) : Plan α :=
  match c with
  | .read count => v.planRead count id
  | .advance count => v.planRead count Buffer.length
  | .readInto target => v.planReadInto target
  | .peek _ => .answer (.error (.unsupported .peek))
  | .tell => .answer (.ok v.position)
  | .zeroCopy => .answer (.ok copiesNothing)
  | .seek position =>
    match checkPosition .seek position v.length with
    | .error e => .answer (.error e)
    | .ok () => .move () { v with position }
  | .size => .answer (.ok v.length)
  | .readAt position count =>
    match checkPosition .read position v.length with
    | .error e => .answer (.error e)
    | .ok () => .readAt (v.start + position) (v.clamped position count) fun b => some (b, v)
  | .readAtInto position target =>
    match checkPosition .read position v.length with
    | .error e => .answer (.error e)
    | .ok () =>
      let count := v.clamped position target.length
      .readAtInto (v.start + position) (target.take count)
        fun f => some (f.append (target.drop count), v)
  | .isClosed => .answer (.ok false)
  | .checkOpen _ => .answer (.ok ())
  | .close => .move () { v with file := none }

/-- What a view does with a call, given whether its file is closed or gone (`shut`). -/
def plan {α : Type} (c : InputCall α) (v : View) (shut copiesNothing : Bool) : Plan α :=
  if shut then .answer (c.whenClosed copiesNothing) else v.planOpen c copiesNothing

end View

end ByteStreams
