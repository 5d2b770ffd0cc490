import ByteStreams.Proofs.Input.Requests

/-!
# Reading through windows that may stick out

The window of a view need not lie within its file: it may stick out of the window beneath it or of
the buffer at the bottom.  What can be read through such views is decided on all levels.  Each level
checks where a read starts and cuts its length, so that a read starts anywhere before all ends, or
exactly at one, and goes on as far as the first of them (`Window.check`, `Window.span`).

`Streams.Chain` says that a name stands for views upon views, and slow streams, over an open reader,
with their windows as ranges of positions of the reader's buffer.  `InputCall.through` and
`InputCall.cursorThrough` are what such a chain answers and where its cursor is then.  The step is
`Streams.Chain.follows`, by induction on the chain, with one lemma for each storey.
-/

namespace ByteStreams

/-! ### What is left of a read -/

namespace Window

variable {size place : Int} {w : Window} {windows : List Window} {count : Nat}

/-- The first end that a read comes to, among those of the windows and of what is beneath them. -/
def limit (size : Int) : List Window → Int
  | [] => size
  | w :: windows => min w.behind (limit size windows)

/-- Of `count` bytes from a place on, those before all ends. -/
def span (size : Int) (windows : List Window) (place : Int) (count : Nat) : Nat :=
  min count (limit size windows - place).toNat

/-- A place is looked for in each window, and in what is beneath them. -/
def check (size : Int) : List Window → Int → Except Error Unit
  | [], place => checkPosition .read place size
  | w :: windows, place =>
    match checkPosition .read (place - w.first) (w.behind - w.first) with
    | .error e => .error e
    | .ok () => check size windows place

/-- The length of the nearest window, or else of what is beneath. -/
def extent (size : Int) : List Window → Int
  | [] => size
  | w :: _ => w.behind - w.first

/-- No end comes before a place exactly if none of them does. -/
lemma le_limit_iff :
    place ≤ limit size windows ↔ (∀ w ∈ windows, place ≤ w.behind) ∧ place ≤ size := by
  induction windows with
  | nil => simp [limit]
  | cons w windows ih =>
    rw [limit, Int.le_min, ih, List.forall_mem_cons, and_assoc]

/-- Among the ends is that of what is beneath the windows. -/
lemma limit_le (windows : List Window) (size : Int) : limit size windows ≤ size := by
  induction windows with
  | nil => exact Int.le_refl size
  | cons w windows ih => exact Int.le_trans (Int.min_le_right ..) ih

/-- A read passes a window if it starts within it, or at its end. -/
lemma check_cons (low : w.first ≤ place) (high : place ≤ w.behind) :
    check size (w :: windows) place = check size windows place := by
  have inside : checkPosition .read (place - w.first) (w.behind - w.first) = .ok () :=
    checkPosition_eq_ok_iff.mpr (by omega)
  simp only [check, inside]

/-- A place that is refused is out of bounds, for the window that refuses it. -/
lemma outOfBounds_of_check {e : Error} (refused : check size windows place = .error e) :
    ∃ position length, e = ⟨.read, .outOfBounds position length⟩ := by
  induction windows with
  | nil => exact ⟨place, size, checkPosition_eq_error refused⟩
  | cons w windows ih =>
    simp only [check] at refused
    split at refused
    · next failed =>
      cases refused
      exact ⟨_, _, checkPosition_eq_error failed⟩
    · exact ih refused

/-- What is left of a read in a window is what the window leaves and then what is beneath it. -/
lemma span_cons (w : Window) (windows : List Window) (size place : Int) (count : Nat) :
    span size (w :: windows) place count =
      span size windows place (min count (w.behind - place).toNat) := by
  simp only [span, limit]
  omega

/-- A read does not get more than it asks for. -/
lemma span_le (size : Int) (windows : List Window) (place : Int) (count : Nat) :
    span size windows place count ≤ count := Nat.min_le_left ..

end Window

open Window (origin)

/-- What is left of a read is there in the buffer. -/
lemma Buffer.Whole.length_window_span {b : Buffer} (whole : b.Whole) {place : Int} (low : 0 ≤ place)
    (windows : List Window) (count : Nat) :
    (b.content.window place.toNat (Window.span b.length windows place count)).length =
      Window.span b.length windows place count := by
  have total : b.content.length = b.length := whole
  have most := Window.limit_le windows b.length
  rw [Bytes.length_window, total]
  unfold Window.span
  omega

namespace InputCall

/-! ### What a chain answers -/

/-- What a stream answers through windows upon an open reader of the buffer, with its cursor at the
position.  Only the reader itself can be peeked into. -/
def through (b : Buffer) (windows : List Window) (cursor : Int) :
    {α : Type} → InputCall α → Except Error α
  | _, read count =>
    (Window.check b.length windows (origin windows + cursor)).map fun _ =>
      b.slice (origin windows + cursor).toNat
        (Window.span b.length windows (origin windows + cursor) count)
  | _, advance count =>
    (Window.check b.length windows (origin windows + cursor)).map fun _ =>
      Window.span b.length windows (origin windows + cursor) count
  | _, readInto target =>
    (Window.check b.length windows (origin windows + cursor)).map fun _ =>
      .ofOverlay target (b.content.window (origin windows + cursor).toNat
        (Window.span b.length windows (origin windows + cursor) target.length))
  | _, readAt position count =>
    (Window.check b.length windows (origin windows + position)).map fun _ =>
      b.slice (origin windows + position).toNat
        (Window.span b.length windows (origin windows + position) count)
  | _, readAtInto position target =>
    (Window.check b.length windows (origin windows + position)).map fun _ =>
      .ofOverlay target (b.content.window (origin windows + position).toNat
        (Window.span b.length windows (origin windows + position) target.length))
  | _, peek count =>
    match windows with
    | [] => .ok (b.content.window cursor.toNat (Window.span b.length [] cursor count))
    | _ :: _ => .error (.unsupported .peek)
  | _, tell => .ok cursor
  | _, size => .ok (Window.extent b.length windows)
  | _, seek position => checkPosition .seek position (Window.extent b.length windows)
  | _, zeroCopy => .ok true
  | _, isClosed => .ok false
  | _, checkOpen _ | _, close => .ok ()

/-- Where the cursor is after a call through windows. -/
def cursorThrough (b : Buffer) (windows : List Window) (cursor : Int) :
    {α : Type} → InputCall α → Int
  | _, read count | _, advance count =>
    cursor + Window.span b.length windows (origin windows + cursor) count
  | _, readInto target =>
    cursor + Window.span b.length windows (origin windows + cursor) target.length
  | _, seek position =>
    if 0 ≤ position ∧ position ≤ Window.extent b.length windows then position else cursor
  | _, peek _ | _, tell | _, zeroCopy | _, size | _, readAt .. | _, readAtInto .. | _, isClosed
  | _, checkOpen _ | _, close => cursor

end InputCall

namespace View

/-! ### One window more -/

variable (v : View)

/-- A place in the window of a view, as a place in its file. -/
lemma place_window (windows : List Window) (position : Int) :
    origin (v.window windows :: windows) + position = origin windows + (v.start + position) :=
  Int.add_assoc ..

/-- The check of a view and then those beneath it. -/
lemma check_window (size : Int) (windows : List Window) (position : Int) :
    Window.check size (v.window windows :: windows) (origin windows + (v.start + position)) =
      match checkPosition .read position v.length with
      | .error e => .error e
      | .ok () => Window.check size windows (origin windows + (v.start + position)) := by
  have place : origin windows + (v.start + position) - (v.window windows).first = position := by
    simp only [window]
    omega
  have length : (v.window windows).behind - (v.window windows).first = v.length := by
    simp only [window]
    omega
  rw [Window.check, place, length]

/-- What a view leaves of a read, and then what is beneath it. -/
lemma span_window (size : Int) (windows : List Window) (position : Int) (count : Nat) :
    Window.span size (v.window windows :: windows) (origin windows + (v.start + position)) count =
      Window.span size windows (origin windows + (v.start + position))
        (v.clamped position count) := by
  have left : (v.window windows).behind - (origin windows + (v.start + position)) =
      v.length - position := by
    simp only [window]
    omega
  rw [Window.span_cons, left]
  rfl

/-- The length of the window of a view. -/
lemma extent_window (size : Int) (windows : List Window) :
    Window.extent size (v.window windows :: windows) = v.length := by
  simp only [Window.extent, View.window]
  omega

variable {v}

/-- The cursor is not before the start of the window beneath. -/
lemma Confined.origin_le (h : v.Confined) {windows : List Window} :
    origin windows ≤ origin windows + v.address := by
  have start := h.start
  have low := h.low
  unfold address
  omega

/-- A confined view can move its cursor over the bytes that it gets. -/
lemma Confined.advanced?_eq (h : v.Confined) {asked count : Nat}
    (few : count ≤ v.clamped v.position asked) :
    v.advanced? count = some { v with position := v.position + count } := by
  obtain ⟨next, advanced, _⟩ := h.advanced few
  unfold advanced? at advanced ⊢
  split
  · rfl
  · next outside =>
    rw [if_neg outside] at advanced
    cases advanced

end View

namespace Streams

/-! ### Chains -/

/-- The name stands for an open chain upon a reader of the buffer: through these windows, the
nearest first, and with its cursor at the position. -/
inductive Chain (b : Buffer) : Streams → Nat → List Window → Int → Prop where
  /-- An open reader, through no window. -/
  | reader {rest : Streams} {name position : Nat} (whole : b.Whole)
      (inside : position ≤ b.length) :
      Chain b ((name, .reader ⟨b, position, false⟩) :: rest) name [] position
  /-- A shared file is what it stands for. -/
  | shared {rest : Streams} {name inner count : Nat} {windows : List Window} {cursor : Int}
      (beneath : Chain b rest inner windows cursor) :
      Chain b ((name, .shared inner count) :: rest) name windows cursor
  /-- A slow stream is what is beneath it. -/
  | slow {rest : Streams} {name inner clock : Nat} {windows : List Window} {cursor : Int}
      (beneath : Chain b rest inner windows cursor) :
      Chain b ((name, .slow inner clock) :: rest) name windows cursor
  /-- An open view has any window and a cursor of its own. -/
  | view {rest : Streams} {name file : Nat} {windows : List Window} {somewhere : Int} {v : View}
      (held : v.file = some file) (confined : v.Confined)
      (beneath : Chain b rest file windows somewhere) :
      Chain b ((name, .view v) :: rest) name (v.window windows :: windows) v.position
  /-- Streams of other names may be anywhere. -/
  | other {rest : Streams} {key name : Nat} {node : Node} {windows : List Window} {cursor : Int}
      (beneath : Chain b rest name windows cursor) (different : key ≠ name) :
      Chain b ((key, node) :: rest) name windows cursor

namespace Chain

variable {α : Type} {b : Buffer} {streams rest : Streams} {name file : Nat}
  {windows : List Window} {cursor place : Int}

/-- The buffer of a chain is whole. -/
lemma whole (h : Chain b streams name windows cursor) : b.Whole := by
  induction h with
  | reader whole _ => exact whole
  | shared _ ih | slow _ ih | view _ _ _ ih | other _ _ ih => exact ih

/-- A chain is open. -/
lemma isClosed (h : Chain b streams name windows cursor) : streams.isClosed name = false := by
  induction h with
  | reader _ _ => simp [Streams.isClosed]
  | shared _ ih | slow _ ih => simpa [Streams.isClosed] using ih
  | view held _ _ ih => simpa [Streams.isClosed, held] using ih
  | other _ different ih => simpa [Streams.isClosed, different] using ih

/-- A chain copies nothing. -/
lemma copiesNothing (h : Chain b streams name windows cursor) :
    streams.copiesNothing name = true := by
  induction h with
  | reader _ _ => simp [Streams.copiesNothing]
  | shared _ ih | slow _ ih => simpa [Streams.copiesNothing] using ih
  | view held _ _ ih => simpa [Streams.copiesNothing, held] using ih
  | other _ different ih => simpa [Streams.copiesNothing, different] using ih

/-- No window starts before the buffer. -/
lemma origin_nonneg (h : Chain b streams name windows cursor) : 0 ≤ origin windows := by
  induction h with
  | reader _ _ => exact Int.le_refl 0
  | shared _ ih | slow _ ih | other _ _ ih => exact ih
  | view _ confined _ ih => exact Int.add_nonneg ih confined.start

/-- The cursor is not before the start of the nearest window, nor behind its end. -/
lemma cursor_inside (h : Chain b streams name windows cursor) :
    0 ≤ cursor ∧ cursor ≤ Window.extent b.length windows := by
  induction h with
  | reader _ inside =>
    exact ⟨Int.natCast_nonneg _, Int.ofNat_le.mpr inside⟩
  | shared _ ih | slow _ ih | other _ _ ih => exact ih
  | @view _ _ _ windows _ v _ confined _ ih =>
    refine ⟨confined.low, ?_⟩
    have high := confined.high
    simp only [Window.extent, View.window]
    omega

/-- **Where a read may start.**  A place that is not before the start of the nearest window passes
all checks exactly if no end comes before it. -/
lemma check_eq_ok_iff (h : Chain b streams name windows cursor) (low : origin windows ≤ place) :
    Window.check b.length windows place = .ok () ↔ place ≤ Window.limit b.length windows := by
  induction h with
  | reader _ _ =>
    have low : 0 ≤ place := low
    simp only [Window.check, Window.limit, checkPosition_eq_ok_iff, low, true_and]
  | shared _ ih | slow _ ih | other _ _ ih => exact ih low
  | @view _ _ _ windows _ v _ confined _ ih =>
    have start := confined.start
    have beneath : origin windows ≤ place := by
      simp only [origin, View.window] at low ⊢
      omega
    rw [Window.limit, Int.le_min]
    by_cases high : place ≤ (v.window windows).behind
    · rw [Window.check_cons low high, ih beneath]
      exact (and_iff_right high).symm
    · refine ⟨fun passed => ?_, fun both => absurd both.1 high⟩
      simp only [Window.check] at passed
      split at passed
      · cases passed
      · next inside =>
        obtain ⟨_, most⟩ := checkPosition_eq_ok_iff.mp inside
        omega

/-- Nothing is left of a read from a place that is refused. -/
lemma span_eq_zero (h : Chain b streams name windows cursor) (low : origin windows ≤ place)
    {e : Error} (refused : Window.check b.length windows place = .error e) (count : Nat) :
    Window.span b.length windows place count = 0 := by
  have behind : ¬(place ≤ Window.limit b.length windows) := by
    rw [← h.check_eq_ok_iff low, refused]
    exact fun passed => by cases passed
  unfold Window.span
  omega

/-! ### One call -/

/-- A call on a chain: it answers as through the windows, and a chain with its cursor there is left.
What does not move the cursor changes nothing. -/
structure Follows (b : Buffer) (streams : Streams) (name : Nat) (windows : List Window)
    (cursor : Int) (c : InputCall α) : Prop where
  result : (streams.call name c).result = (c.through b windows cursor).mapError .error
  stands : Chain b (streams.call name c).streams name windows (c.cursorThrough b windows cursor)
  unmoved : c.cursorThrough b windows cursor = cursor → (streams.call name c).streams = streams

/-- What an open reader answers is what it answers through no window. -/
lemma reader_call {position : Nat} (inside : position ≤ b.length) {c : InputCall α}
    (stays : c.isClose = false) :
    Reader.call c ⟨b, position, false⟩ = (c.through b [] position,
      ⟨b, (c.cursorThrough b [] position).toNat, false⟩) := by
  have here : checkPosition .read (position : Int) b.length = .ok () := by
    rw [checkPosition_eq_ok_iff]
    omega
  cases c with
  | read count | advance count | readInto target =>
    simp only [InputCall.through, InputCall.cursorThrough, Window.check, origin, Int.zero_add, here]
    rfl
  | readAt there _ | readAtInto there _ =>
    simp only [Reader.call, Reader.callOpen, InputCall.through, InputCall.cursorThrough,
      Window.check, origin, Int.zero_add, Int.toNat_natCast, Bool.false_eq_true, if_false]
    rcases checkPosition_cases .read there b.length with ⟨⟨low, _⟩, passed⟩ | ⟨_, e, failed⟩
    · obtain ⟨there, rfl⟩ := Int.eq_ofNat_of_zero_le low
      simp only [passed]
      rfl
    · simp only [failed]
      rfl
  | seek there =>
    have total : Window.extent b.length [] = b.length := rfl
    simp only [Reader.call, Reader.callOpen, InputCall.through, Bool.false_eq_true, if_false]
    rw [InputCall.cursorThrough, total]
    rcases checkPosition_cases .seek there b.length with ⟨within, passed⟩ | ⟨outside, e, failed⟩
    · rw [passed, if_pos within]
    · rw [failed, if_neg outside]
      rfl
  | peek _ | tell | zeroCopy | size | isClosed | checkOpen _ => rfl
  | close => cases stays

/-- The cursor stays within the nearest window. -/
lemma cursorThrough_inside (inside : 0 ≤ cursor ∧ cursor ≤ Window.extent b.length windows)
    (c : InputCall α) :
    0 ≤ c.cursorThrough b windows cursor ∧
      c.cursorThrough b windows cursor ≤ Window.extent b.length windows := by
  -- A read comes to the end of the nearest window, or to an end before it.
  have ends (count : Nat) : (Window.span b.length windows (origin windows + cursor) count : Int) ≤
      Window.extent b.length windows - cursor := by
    cases windows with
    | nil =>
      simp only [Window.span, Window.limit, Window.extent, origin] at inside ⊢
      omega
    | cons w windows =>
      simp only [Window.span, Window.limit, Window.extent, origin] at inside ⊢
      omega
  cases c with
  | read count | advance count =>
    have few := ends count
    simp only [InputCall.cursorThrough]
    omega
  | readInto target =>
    have few := ends target.length
    simp only [InputCall.cursorThrough]
    omega
  | seek there =>
    simp only [InputCall.cursorThrough]
    split
    · next within => exact within
    · exact inside
  | peek _ | tell | zeroCopy | size | readAt _ _ | readAtInto _ _ | isClosed | checkOpen _
  | close => exact inside

/-- An open reader follows its buffer. -/
lemma Follows.reader {position : Nat} (whole : b.Whole) (inside : position ≤ b.length)
    {c : InputCall α} (stays : c.isClose = false) :
    Follows b ((name, .reader ⟨b, position, false⟩) :: rest) name [] position c := by
  have run := call_reader rest name ⟨b, position, false⟩ c
  rw [reader_call inside stays] at run
  have within : 0 ≤ (position : Int) ∧ (position : Int) ≤ Window.extent b.length [] :=
    ⟨Int.natCast_nonneg position, Int.ofNat_le.mpr inside⟩
  obtain ⟨low, high⟩ := cursorThrough_inside within c
  obtain ⟨next, moved⟩ := Int.eq_ofNat_of_zero_le low
  rw [moved] at high run
  refine ⟨?_, ?_, fun same => ?_⟩
  · rw [run]
    rfl
  · rw [run, moved]
    exact .reader whole (Int.ofNat_le.mp high)
  · rw [moved] at same
    rw [run, Int.ofNat.inj same]
    rfl

/-! ### Views -/

/-- What a view makes of the answer of its file, or of a refusal, when the file is left as it
was. -/
lemma through_eq {β : Type} {s : Served β} {answered : Except Error β}
    {resume : β → Option (α × View)} (name : Nat) (v : View) (next : Int) (make : β → α)
    (result : s.result = answered.mapError .error) (left : s.streams = rest)
    (resumed : ∀ y, answered = .ok y → resume y = some (make y, { v with position := next }))
    (refused : ∀ e, answered = .error e → next = v.position) :
    (s.through name v resume).result = (answered.map make).mapError .error ∧
      (s.through name v resume).streams = (name, .view { v with position := next }) :: rest := by
  unfold Served.through
  rw [result, left]
  cases answered with
  | error e => exact ⟨rfl, by rw [refused e rfl]; rfl⟩
  | ok y =>
    have served : (Except.ok y : Except Error β).mapError Fault.error = .ok y := rfl
    simp only [served, resumed y rfl]
    exact ⟨rfl, trivial⟩

/-- A read by position, passed on by a view. -/
lemma through_readAt (b : Buffer) {v : View} {position : Int} (low : 0 ≤ position)
    (high : position ≤ v.length) (windows : List Window) (cursor somewhere : Int) (count : Nat) :
    (InputCall.readAt position count).through b (v.window windows :: windows) cursor =
      (InputCall.readAt (v.start + position) (v.clamped position count)).through b windows
        somewhere := by
  have inside : checkPosition .read position v.length = .ok () :=
    checkPosition_eq_ok_iff.mpr ⟨low, high⟩
  simp only [InputCall.through, v.place_window, v.check_window, v.span_window, inside]

/-- A read by position into a target, passed on by a view.  The bytes that come fill the part of the
target that lies within the window, or less. -/
lemma through_readAtInto {v : View} {somewhere position : Int} (confined : v.Confined)
    (beneath : Chain b rest file windows somewhere) (low : 0 ≤ position)
    (high : position ≤ v.length) (cursor : Int) (target : Bytes) :
    (InputCall.readAtInto position target).through b (v.window windows :: windows) cursor =
      ((InputCall.readAtInto (v.start + position)
        (target.take (v.clamped position target.length))).through b windows somewhere).map
          (·.append (target.drop (v.clamped position target.length))) := by
  have inside : checkPosition .read position v.length = .ok () :=
    checkPosition_eq_ok_iff.mpr ⟨low, high⟩
  have taken := v.length_take_clamped position target
  have place : 0 ≤ origin windows + (v.start + position) :=
    Int.add_nonneg beneath.origin_nonneg (Int.add_nonneg confined.start low)
  have left := beneath.whole.length_window_span place windows (v.clamped position target.length)
  simp only [InputCall.through, v.place_window, v.check_window, v.span_window, inside, taken]
  cases Window.check b.length windows (origin windows + (v.start + position)) with
  | error e => rfl
  | ok done =>
    refine congrArg Except.ok (Filled.append_ofOverlay ?_ target).symm
    rw [left]
    exact Window.span_le ..

section View

variable {v : View} {somewhere : Int} {c : InputCall α} (held : v.file = some file)
  (confined : v.Confined) (beneath : Chain b rest file windows somewhere)

include held beneath in
/-- A view of an open file carries out the plan of an open view. -/
lemma call_view_open (name : Nat) (stays : c.isClose = false) :
    call ((name, .view v) :: rest) name c = (v.planOpen c true).served name v file rest := by
  rw [call_view rest name held stays, beneath.isClosed, beneath.copiesNothing]
  rfl

include held confined beneath

/-- A view that answers as through its window and those beneath it, and changes its cursor alone. -/
lemma Follows.of_view
    (result : (call ((name, .view v) :: rest) name c).result =
      (c.through b (v.window windows :: windows) v.position).mapError .error)
    (left : (call ((name, .view v) :: rest) name c).streams =
      (name, .view { v with
        position := c.cursorThrough b (v.window windows :: windows) v.position }) :: rest) :
    Follows b ((name, .view v) :: rest) name (v.window windows :: windows) v.position c := by
  have inside : 0 ≤ v.position ∧
      v.position ≤ Window.extent b.length (v.window windows :: windows) := by
    rw [v.extent_window]
    exact ⟨confined.low, confined.high⟩
  obtain ⟨low, high⟩ := cursorThrough_inside inside c
  rw [v.extent_window] at high
  refine ⟨result, ?_, fun same => ?_⟩
  · rw [left]
    exact .view (v := { v with position := _ }) held ⟨confined.start, low, high, confined.short⟩
      beneath
  · rw [left, same]

/-- A call that a view refuses, or answers without its file. -/
lemma Follows.of_answer {result : Except Error α} (stays : c.isClose = false)
    (plan : v.planOpen c true = .answer result)
    (through : c.through b (v.window windows :: windows) v.position = result)
    (moved : c.cursorThrough b (v.window windows :: windows) v.position = v.position) :
    Follows b ((name, .view v) :: rest) name (v.window windows :: windows) v.position c := by
  have run := call_view_open held beneath name stays
  rw [plan] at run
  refine .of_view held confined beneath ?_ ?_
  · rw [run, through]
    rfl
  · rw [run, moved]
    rfl

variable (follows : ∀ {β : Type} {d : InputCall β}, d.isClose = false →
  Follows b rest file windows somewhere d)

include follows

/-- A read, or a call that reads and makes something else of the buffer. -/
lemma Follows.of_planRead {count : Nat} {answer : Buffer → α} (stays : c.isClose = false)
    (plan : v.planOpen c true = v.planRead count answer)
    (through : c.through b (v.window windows :: windows) v.position =
      ((InputCall.read count).through b (v.window windows :: windows) v.position).map answer)
    (moved : c.cursorThrough b (v.window windows :: windows) v.position =
      (InputCall.read count).cursorThrough b (v.window windows :: windows) v.position) :
    Follows b ((name, .view v) :: rest) name (v.window windows :: windows) v.position c := by
  have run := call_view_open held beneath name stays
  have here : isPosition v.address = true := confined.isPosition confined.holds_address
  rw [plan, View.planRead, if_pos here, View.Plan.served] at run
  have reads := follows (d := .readAt v.address (v.clamped v.position count)) rfl
  have reading := through_readAt b confined.low confined.high windows v.position somewhere count
  have spanned : c.cursorThrough b (v.window windows :: windows) v.position = v.position +
      (Window.span b.length windows (origin windows + v.address) (v.clamped v.position count) :
        Nat) := by
    rw [moved, InputCall.cursorThrough, v.place_window, v.span_window]
    rfl
  have resumed (y : Buffer) (answered : (InputCall.readAt v.address
      (v.clamped v.position count)).through b windows somewhere = .ok y) :
      (v.advanced? y.length).map (answer y, ·) = some (answer y, { v with
        position := c.cursorThrough b (v.window windows :: windows) v.position }) := by
    obtain ⟨_, _, rfl⟩ := ok_of_map_eq_ok answered
    rw [spanned, Buffer.length_slice, confined.advanced?_eq (Window.span_le ..)]
    rfl
  have refused (e : Error) (failed : (InputCall.readAt v.address
      (v.clamped v.position count)).through b windows somewhere = .error e) :
      c.cursorThrough b (v.window windows :: windows) v.position = v.position := by
    rw [spanned, beneath.span_eq_zero confined.origin_le (error_of_map_eq_error failed)]
    exact Int.add_zero v.position
  obtain ⟨result, left⟩ := through_eq name v _ answer reads.result (reads.unmoved rfl) resumed
    refused
  refine .of_view held confined beneath ?_ ?_
  · rw [run, result, through]
    exact congrArg (fun r => (Except.map answer r).mapError Fault.error) reading.symm
  · rw [run, left]

/-- A read into a target. -/
lemma Follows.of_planReadInto (target : Bytes) :
    Follows b ((name, .view v) :: rest) name (v.window windows :: windows) v.position
      (.readInto target) := by
  have run := call_view_open held beneath name (c := .readInto target) rfl
  have here : isPosition v.address = true := confined.isPosition confined.holds_address
  simp only [View.planOpen, View.planReadInto, if_pos here, View.Plan.served] at run
  have reads := follows (d := .readAtInto v.address
    (target.take (v.clamped v.position target.length))) rfl
  have reading := through_readAtInto confined beneath confined.low confined.high v.position target
  have taken := v.length_take_clamped v.position target
  have spanned : (InputCall.readInto target).cursorThrough b (v.window windows :: windows)
      v.position = v.position + (Window.span b.length windows (origin windows + v.address)
        (v.clamped v.position target.length) : Nat) := by
    rw [InputCall.cursorThrough, v.place_window, v.span_window]
    rfl
  have low : 0 ≤ origin windows + v.address :=
    Int.le_trans beneath.origin_nonneg confined.origin_le
  have resumed (f : Filled) (answered : (InputCall.readAtInto v.address
      (target.take (v.clamped v.position target.length))).through b windows somewhere = .ok f) :
      (v.advanced? f.count).map (f.append (target.drop (v.clamped v.position target.length)), ·) =
        some (f.append (target.drop (v.clamped v.position target.length)), { v with
          position := (InputCall.readInto target).cursorThrough b (v.window windows :: windows)
            v.position }) := by
    obtain ⟨_, _, rfl⟩ := ok_of_map_eq_ok answered
    rw [spanned, Filled.ofOverlay, taken, beneath.whole.length_window_span low,
      confined.advanced?_eq (Window.span_le ..)]
    rfl
  have refused (e : Error) (failed : (InputCall.readAtInto v.address
      (target.take (v.clamped v.position target.length))).through b windows somewhere = .error e) :
      (InputCall.readInto target).cursorThrough b (v.window windows :: windows) v.position =
        v.position := by
    rw [spanned, beneath.span_eq_zero confined.origin_le (error_of_map_eq_error failed)]
    exact Int.add_zero v.position
  obtain ⟨result, left⟩ := through_eq name v _
    (·.append (target.drop (v.clamped v.position target.length))) reads.result (reads.unmoved rfl)
    resumed refused
  refine .of_view held confined beneath ?_ ?_
  · rw [run, result]
    exact congrArg (Except.mapError Fault.error) reading.symm
  · rw [run, left]

/-- A read by position. -/
lemma Follows.of_readAt (position : Int) (count : Nat) :
    Follows b ((name, .view v) :: rest) name (v.window windows :: windows) v.position
      (.readAt position count) := by
  rcases checkPosition_cases .read position v.length with
    ⟨⟨low, high⟩, passed⟩ | ⟨_, e, failed⟩
  · have run := call_view_open held beneath name (c := .readAt position count) rfl
    simp only [View.planOpen, passed, View.Plan.served] at run
    have reads := follows (d := .readAt (v.start + position) (v.clamped position count)) rfl
    have reading := through_readAt b low high windows v.position somewhere count
    obtain ⟨result, left⟩ := through_eq name v v.position id reads.result (reads.unmoved rfl)
      (fun _ _ => rfl) (fun _ _ => rfl)
    refine .of_view held confined beneath ?_ ?_
    · rw [run, reading]
      refine result.trans ?_
      cases (InputCall.readAt (v.start + position) (v.clamped position count)).through b windows
        somewhere <;> rfl
    · rw [run]
      exact left
  · have refuses : v.planOpen (.readAt position count) true = .answer (.error e) := by
      simp only [View.planOpen, failed]
    refine .of_answer held confined beneath rfl refuses ?_ rfl
    simp only [InputCall.through, v.place_window, v.check_window, failed]
    rfl

/-- A read by position into a target. -/
lemma Follows.of_readAtInto (position : Int) (target : Bytes) :
    Follows b ((name, .view v) :: rest) name (v.window windows :: windows) v.position
      (.readAtInto position target) := by
  rcases checkPosition_cases .read position v.length with
    ⟨⟨low, high⟩, passed⟩ | ⟨_, e, failed⟩
  · have run := call_view_open held beneath name (c := .readAtInto position target) rfl
    simp only [View.planOpen, passed, View.Plan.served] at run
    have reads := follows (d := .readAtInto (v.start + position)
      (target.take (v.clamped position target.length))) rfl
    have reading := through_readAtInto confined beneath low high v.position target
    obtain ⟨result, left⟩ := through_eq name v v.position
      (·.append (target.drop (v.clamped position target.length))) reads.result (reads.unmoved rfl)
      (fun _ _ => rfl) (fun _ _ => rfl)
    refine .of_view held confined beneath ?_ ?_
    · rw [run, reading]
      exact result
    · rw [run]
      exact left
  · have refuses : v.planOpen (.readAtInto position target) true = .answer (.error e) := by
      simp only [View.planOpen, failed]
    refine .of_answer held confined beneath rfl refuses ?_ rfl
    simp only [InputCall.through, v.place_window, v.check_window, failed]
    rfl

/-- **One storey.**  A view answers as through its window and those beneath it. -/
lemma Follows.view (stays : c.isClose = false) :
    Follows b ((name, .view v) :: rest) name (v.window windows :: windows) v.position c := by
  cases c with
  | read count =>
    refine .of_planRead held confined beneath follows rfl rfl ?_ rfl
    cases (InputCall.read count).through b (v.window windows :: windows) v.position <;> rfl
  | advance count =>
    refine .of_planRead held confined beneath follows rfl rfl ?_ rfl
    simp only [InputCall.through]
    cases Window.check b.length (v.window windows :: windows)
      (origin (v.window windows :: windows) + v.position) <;> rfl
  | readInto target => exact .of_planReadInto held confined beneath follows target
  | readAt position count => exact .of_readAt held confined beneath follows position count
  | readAtInto position target =>
    exact .of_readAtInto held confined beneath follows position target
  | seek position =>
    have total := v.extent_window b.length windows
    rcases checkPosition_cases .seek position v.length with ⟨within, passed⟩ | ⟨outside, e, failed⟩
    · have run := call_view_open held beneath name (c := .seek position) rfl
      simp only [View.planOpen, passed, View.Plan.served] at run
      refine .of_view held confined beneath ?_ ?_
      · rw [run, InputCall.through, total, passed]
        rfl
      · rw [run, InputCall.cursorThrough, total, if_pos within]
        rfl
    · have refuses : v.planOpen (.seek position) true = .answer (.error e) := by
        simp only [View.planOpen, failed]
      refine .of_answer held confined beneath rfl refuses ?_ ?_
      · rw [InputCall.through, total, failed]
      · rw [InputCall.cursorThrough, total, if_neg outside]
  | size =>
    exact .of_answer held confined beneath rfl rfl (congrArg Except.ok (v.extent_window ..)) rfl
  | tell | zeroCopy | peek _ | isClosed | checkOpen _ =>
    exact .of_answer held confined beneath rfl rfl rfl rfl
  | close => cases stays

end View

/-! ### Whole chains -/

/-- A call that passes by another stream. -/
lemma Follows.other {key : Nat} {c : InputCall α} (beneath : Follows b rest name windows cursor c)
    (different : key ≠ name) (node : Node) :
    Follows b ((key, node) :: rest) name windows cursor c := by
  have run := call_other rest different node c
  refine ⟨?_, ?_, fun same => ?_⟩
  · rw [run]
    exact beneath.result
  · rw [run]
    exact .other beneath.stands different
  · rw [run]
    exact congrArg ((key, node) :: ·) (beneath.unmoved same)

/-- A shared file follows what it stands for. -/
lemma Follows.shared {inner : Nat} {c : InputCall α}
    (beneath : Follows b rest inner windows cursor c) (name count : Nat) :
    Follows b ((name, .shared inner count) :: rest) name windows cursor c := by
  have run := call_shared rest name inner count c
  refine ⟨?_, ?_, fun same => ?_⟩
  · rw [run]
    exact beneath.result
  · rw [run]
    exact .shared beneath.stands
  · rw [run]
    exact congrArg ((name, .shared inner count) :: ·) (beneath.unmoved same)

/-- A slow stream follows what is beneath it; skipping is reading there. -/
lemma Follows.slow {inner : Nat} {c : InputCall α}
    (beneath : ∀ {β : Type} {d : InputCall β}, d.isClose = false →
      Follows b rest inner windows cursor d) (stays : c.isClose = false) (name clock : Nat) :
    Follows b ((name, .slow inner clock) :: rest) name windows cursor c := by
  cases skips : c.isAdvance with
  | false =>
    obtain ⟨result, left⟩ := call_slow rest name inner clock skips
    have follows := beneath stays
    refine ⟨?_, ?_, fun same => ?_⟩
    · rw [result]
      exact follows.result
    · rw [left]
      exact .slow follows.stands
    · rw [left, follows.unmoved same]
  | true =>
    cases c with
    | advance count =>
      have run := call_slow_advance rest name inner clock count
      have reads := beneath (d := .read count) rfl
      refine ⟨?_, ?_, fun same => ?_⟩
      · rw [run]
        refine (congrArg (Except.map Buffer.length) reads.result).trans ?_
        simp only [InputCall.through]
        cases Window.check b.length windows (origin windows + cursor) <;> rfl
      · rw [run]
        exact .slow reads.stands
      · rw [run]
        exact congrArg ((name, .slow inner clock) :: ·) (reads.unmoved same)
    | _ => cases skips

/-- **One step.**  A chain that is not closed answers as through its windows. -/
theorem follows (h : Chain b streams name windows cursor) {c : InputCall α}
    (stays : c.isClose = false) : Follows b streams name windows cursor c := by
  induction h generalizing α with
  | reader whole inside => exact .reader whole inside stays
  | shared beneath ih => exact .shared (ih stays) _ _
  | slow beneath ih => exact .slow ih stays _ _
  | view held confined beneath ih => exact .view held confined beneath ih stays
  | other beneath different ih => exact .other (ih stays) different _

end Chain

end Streams

end ByteStreams
