import ByteStreams.Input.Sharing
import ByteStreams.Proofs.Input.Call

/-!
# Towers of views and slow streams

A tower is a stream that is built upon a reader by views, each the only one of its file, and slow
streams.  `Stands` says of streams that a name stands for an open tower, which bytes it denotes and
where its cursor is; `Shut` says that the tower is closed.  The cursors of the files inside of a
tower are nobody's business, for views read by position.

`Stands.follows` is the step: a tower answers a call as a stream over the bytes that it denotes.  It
is shown by induction on the tower, with one lemma for each storey.
-/

namespace ByteStreams

/-! ### Views of a window -/

/-- A count that is not above a position is a position. -/
lemma isPosition_of_le {n bound : Nat} (short : (bound : Int) ≤ maxPosition) (h : n ≤ bound) :
    isPosition (n : Int) = true := by
  rw [isPosition_iff]
  unfold maxPosition at short ⊢
  omega

namespace View

/-- A view of the window of a file, with its cursor at a position. -/
def ofWindow (file offset length position : Nat) : View := ⟨some file, offset, length, position⟩

variable {offset length position : Nat} (file : Nat)

/-- The cursor of a view can be moved within its window. -/
lemma advanced?_ofWindow (short : (offset + length : Nat) ≤ maxPosition) {count : Nat}
    (inside : position + count ≤ length) :
    (ofWindow file offset length position).advanced? count =
      some (.ofWindow file offset length (position + count)) :=
  if_pos (isPosition_of_le short (Nat.le_trans inside (Nat.le_add_left length offset)))

/-- A view reads through its file. -/
lemma planRead_ofWindow (short : (offset + length : Nat) ≤ maxPosition) (inside : position ≤ length)
    (count : Nat) {α : Type} (answer : Buffer → α) :
    (ofWindow file offset length position).planRead count answer =
      .readAt (offset + position : Nat) (clampRead position length count) fun b =>
        ((ofWindow file offset length position).advanced? b.length).map (answer b, ·) :=
  if_pos (isPosition_of_le short (Nat.add_le_add_left inside offset))

/-- A view reads into a target through its file. -/
lemma planReadInto_ofWindow (short : (offset + length : Nat) ≤ maxPosition)
    (inside : position ≤ length) (target : Bytes) :
    (ofWindow file offset length position).planReadInto target =
      .readAtInto (offset + position : Nat)
        (target.take (clampRead position length target.length)) fun f =>
          ((ofWindow file offset length position).advanced? f.count).map
            (f.append (target.drop (clampRead position length target.length)), ·) :=
  if_pos (isPosition_of_le short (Nat.add_le_add_left inside offset))

end View

namespace Streams

/-! ### Towers -/

/-- The name stands for an open tower that denotes the bytes, with its cursor at the position. -/
inductive Stands : Streams → Nat → Bytes → Nat → Prop where
  /-- A reader over a buffer denotes the content of the buffer. -/
  | reader {rest : Streams} {name : Nat} {r : Reader} (whole : r.buffer.Whole)
      (isOpen : r.closed = false) :
      Stands ((name, .reader r) :: rest) name r.buffer.content r.position
  /-- A slow stream denotes what is beneath it. -/
  | slow {streams : Streams} {name inner clock : Nat} {bytes : Bytes} {position : Nat}
      (beneath : Stands streams inner bytes position) :
      Stands ((name, .slow inner clock) :: streams) name bytes position
  /-- The only view of a file denotes its window. -/
  | view {streams : Streams} {name shared inner : Nat} {bytes : Bytes}
      {offset length position somewhere : Nat} (beneath : Stands streams inner bytes somewhere)
      (within : offset + length ≤ bytes.length) (short : (offset + length : Nat) ≤ maxPosition)
      (inside : position ≤ length) :
      Stands ((name, .view (.ofWindow shared offset length position)) ::
        (shared, .shared inner 1) :: streams) name (bytes.window offset length) position
  /-- Streams of other names may be anywhere. -/
  | other {streams : Streams} {key name : Nat} {node : Node} {bytes : Bytes} {position : Nat}
      (beneath : Stands streams name bytes position) (different : key ≠ name) :
      Stands ((key, node) :: streams) name bytes position

/-- The name stands for a tower that is closed. -/
inductive Shut : Streams → Nat → Prop where
  | reader {rest : Streams} {name : Nat} {r : Reader} (isClosed : r.closed = true) :
      Shut ((name, .reader r) :: rest) name
  | slow {streams : Streams} {name inner clock : Nat} (beneath : Shut streams inner) :
      Shut ((name, .slow inner clock) :: streams) name
  | view {rest : Streams} {name : Nat} {v : View} (givenUp : v.file = none) :
      Shut ((name, .view v) :: rest) name
  | other {streams : Streams} {key name : Nat} {node : Node} (beneath : Shut streams name)
      (different : key ≠ name) : Shut ((key, node) :: streams) name

/-- A call on an open tower: it answers as a stream over the bytes, with its cursor at the position,
and goes on as one.  The call that closes leaves it closed. -/
structure Follows {α : Type} (streams : Streams) (name : Nat) (bytes : Bytes) (position : Nat)
    (c : InputCall α) : Prop where
  result : (streams.call name c).result.map c.seen = (c.outcome bytes position).mapError .error
  opened : c.isClose = false →
    Stands (streams.call name c).streams name bytes (c.cursor bytes position)
  shut : c.isClose = true → Shut (streams.call name c).streams name

variable {α : Type} {streams rest : Streams} {name inner shared clock : Nat} {bytes : Bytes}
  {position somewhere offset length : Nat} {c : InputCall α}

/-- An open tower is open. -/
lemma Stands.isClosed (h : Stands streams name bytes position) :
    streams.isClosed name = false := by
  induction h with
  | reader whole isOpen => simpa [Streams.isClosed] using isOpen
  | slow beneath ih => simpa [Streams.isClosed] using ih
  | view beneath within short inside ih => simpa [Streams.isClosed, View.ofWindow] using ih
  | other beneath different ih => simpa [Streams.isClosed, different] using ih

/-! ### Readers and slow streams -/

/-- An open reader follows the content of its buffer. -/
lemma Follows.reader {r : Reader} (whole : r.buffer.Whole) (isOpen : r.closed = false)
    (c : InputCall α) :
    Follows ((name, .reader r) :: rest) name r.buffer.content r.position c := by
  obtain ⟨answer, state⟩ := Reader.call_open whole isOpen c
  have run := call_reader rest name r c
  refine ⟨?_, fun remains => ?_, fun closes => ?_⟩
  · rw [run, ← answer]
    cases (r.call c).1 <;> rfl
  · rw [run, state, remains]
    exact .reader (r := ⟨r.buffer, _, _⟩) whole rfl
  · rw [run, state, closes]
    exact .reader rfl

/-- A call that passes by another stream follows what is asked. -/
lemma Follows.other {key : Nat} {node : Node} (beneath : Follows streams name bytes position c)
    (different : key ≠ name) : Follows ((key, node) :: streams) name bytes position c := by
  have run := call_other streams different node c
  refine ⟨?_, fun remains => ?_, fun closes => ?_⟩
  · rw [run]
    exact beneath.result
  · rw [run]
    exact .other (beneath.opened remains) different
  · rw [run]
    exact .other (beneath.shut closes) different

/-- If a stream over the bytes has an answer, then the tower has one, which looks the same. -/
lemma Follows.answer (h : Follows streams name bytes position c) {s : Seen}
    (expected : c.outcome bytes position = .ok s) :
    ∃ a, (streams.call name c).result = .ok a ∧ c.seen a = s := by
  have same := h.result
  rw [expected] at same
  cases answered : (streams.call name c).result with
  | error fault =>
    rw [answered] at same
    cases same
  | ok a =>
    rw [answered] at same
    exact ⟨a, rfl, Except.ok.inj same⟩

/-- A slow stream follows what is beneath it. -/
lemma Follows.slow (beneath : ∀ {β : Type} {d : InputCall β}, d.isPlain = true →
      Follows streams inner bytes position d) (plain : c.isPlain = true) :
    Follows ((name, .slow inner clock) :: streams) name bytes position c := by
  cases skips : c.isAdvance with
  | false =>
    obtain ⟨result, after⟩ := call_slow streams name inner clock skips
    refine ⟨?_, fun remains => ?_, fun closes => ?_⟩
    · rw [result]
      exact (beneath plain).result
    · rw [after]
      exact .slow ((beneath plain).opened remains)
    · rw [after]
      exact .slow ((beneath plain).shut closes)
  | true =>
    cases c with
    | advance count =>
      have run := call_slow_advance streams name inner clock count
      have reads := beneath (d := .read count) rfl
      obtain ⟨b, answered, seen⟩ := reads.answer rfl
      obtain ⟨size, _⟩ := Seen.buffer.inj seen
      refine ⟨?_, fun remains => ?_, fun closes => ?_⟩
      · have counted : (call ((name, .slow inner clock) :: streams) name
            (.advance count)).result = Except.ok b.length := by
          rw [run]
          exact congrArg (Except.map Buffer.length) answered
        rw [counted, InputCall.outcome, ← size]
        rfl
      · rw [run]
        exact .slow (reads.opened rfl)
      · cases closes
    | _ => cases skips

/-! ### Views -/

/-- A window of a window, as far as the clamped count reaches. -/
lemma window_clamped (within : offset + length ≤ bytes.length) (position count : Nat) :
    bytes.window (offset + position) (clampRead position length count) =
      (bytes.window offset length).window position count := by
  have total : (bytes.window offset length).length = length := by
    rw [Bytes.length_window]
    omega
  have clamped : clampRead position length count ≤ length - position := by
    unfold clampRead
    omega
  rw [← Bytes.window_window clamped]
  have same := Bytes.window_clamp (bytes.window offset length) position count
  rwa [total] at same

/-- What the view asks its file for lies within the file. -/
lemma length_window_clamped (within : offset + length ≤ bytes.length) (inside : position ≤ length)
    (count : Nat) :
    ((bytes.window offset length).window position count).length =
      clampRead position length count := by
  rw [← window_clamped within, Bytes.length_window]
  unfold clampRead
  omega

/-- A tower that a view can be put upon: it answers every call, and the window is within it. -/
structure Bears (streams : Streams) (inner : Nat) (bytes : Bytes) (somewhere offset length : Nat) :
    Prop where
  standing : Stands streams inner bytes somewhere
  follows {β : Type} {d : InputCall β} (plain : d.isPlain = true) :
    Follows streams inner bytes somewhere d
  within : offset + length ≤ bytes.length
  short : (offset + length : Nat) ≤ maxPosition

/-- The file of a view has delivered, and the tower beneath stands as before. -/
structure Delivered {β : Type} (s : Served β) (shared inner : Nat) (bytes : Bytes)
    (somewhere : Nat) (b : β) : Prop where
  answered : s.result = .ok b
  after : ∃ after, s.streams = (shared, .shared inner 1) :: after ∧
    Stands after inner bytes somewhere

namespace Bears

/-- The streams with a view of a tower put upon them. -/
def withView (name shared inner : Nat) (v : View) (streams : Streams) : Streams :=
  (name, .view v) :: (shared, .shared inner 1) :: streams

variable (h : Bears streams inner bytes somewhere offset length)

include h

/-- The tower is asked for a position within it. -/
lemma checkPosition_address (inside : position ≤ length) :
    checkPosition .read ((offset + position : Nat) : Int) bytes.length = .ok () := by
  have within := h.within
  rw [checkPosition_eq_ok_iff]
  omega

/-- A file that is asked for a buffer within the window delivers it. -/
lemma ask (shared : Nat) (inside : position ≤ length) (count : Nat) :
    ∃ b : Buffer, Delivered (call ((shared, .shared inner 1) :: streams) shared
        (.readAt (offset + position : Nat) (clampRead position length count)))
          shared inner bytes somewhere b ∧
      Seen.buffer b.length b.content =
        .ofBytes ((bytes.window offset length).window position count) := by
  have reads := h.follows
    (d := .readAt (offset + position : Nat) (clampRead position length count)) rfl
  have expected : (InputCall.readAt (offset + position : Nat)
      (clampRead position length count)).outcome bytes somewhere =
        .ok (.ofBytes ((bytes.window offset length).window position count)) := by
    rw [InputCall.outcome, h.checkPosition_address inside, ← window_clamped h.within]
    rfl
  obtain ⟨b, answered, seen⟩ := reads.answer expected
  refine ⟨b, ⟨?_, ?_⟩, seen⟩
  · rw [call_shared]
    exact answered
  · rw [call_shared]
    exact ⟨_, rfl, reads.opened rfl⟩

/-- A file that is asked to fill a target from within the window fills it. -/
lemma askInto (shared : Nat) (inside : position ≤ length) (target : Bytes) :
    ∃ f : Filled, Delivered (call ((shared, .shared inner 1) :: streams) shared
        (.readAtInto (offset + position : Nat)
          (target.take (clampRead position length target.length)))) shared inner bytes somewhere f ∧
      f.count = ((bytes.window offset length).window position target.length).length ∧
      f.append (target.drop (clampRead position length target.length)) =
        .ofOverlay target ((bytes.window offset length).window position target.length) := by
  have reads := h.follows (d := .readAtInto (offset + position : Nat)
    (target.take (clampRead position length target.length))) rfl
  have taken : (target.take (clampRead position length target.length)).length =
      clampRead position length target.length :=
    List.length_take_of_le (clampRead_le _ _ _)
  have expected : (InputCall.readAtInto (offset + position : Nat)
      (target.take (clampRead position length target.length))).outcome bytes somewhere =
        .ok (.filled (.ofOverlay (target.take (clampRead position length target.length))
          ((bytes.window offset length).window position target.length))) := by
    rw [InputCall.outcome, h.checkPosition_address inside, taken, ← window_clamped h.within]
    rfl
  obtain ⟨f, answered, seen⟩ := reads.answer expected
  have same := Seen.filled.inj seen
  refine ⟨f, ⟨?_, ?_⟩, ?_, ?_⟩
  · rw [call_shared]
    exact answered
  · rw [call_shared]
    exact ⟨_, rfl, reads.opened rfl⟩
  · rw [same]
    rfl
  · rw [same]
    exact Filled.append_ofOverlay (Nat.le_of_eq (length_window_clamped h.within inside _)) target

/-- A view of an open file carries out the plan of an open view. -/
lemma call_ofWindow (name shared position : Nat) (stays : c.isClose = false) :
    call (withView name shared inner (.ofWindow shared offset length position) streams) name c =
      ((View.ofWindow shared offset length position).planOpen c
        (copiesNothing ((shared, .shared inner 1) :: streams) shared)).served name
          (.ofWindow shared offset length position) shared
            ((shared, .shared inner 1) :: streams) := by
  have isOpen : isClosed ((shared, .shared inner 1) :: streams) shared = false := by
    simpa [Streams.isClosed] using h.standing.isClosed
  unfold withView
  rw [call_view _ _ rfl stays, isOpen]
  rfl

/-- A call that a view answers without its file. -/
lemma of_quiet {next : Nat} {result : Except Error α} (stays : c.isClose = false)
    (run : call (withView name shared inner (.ofWindow shared offset length position) streams)
        name c =
      .ofResult result (withView name shared inner (.ofWindow shared offset length next) streams))
    (answer : result.map c.seen = c.outcome (bytes.window offset length) position)
    (moved : next = c.cursor (bytes.window offset length) position) (inside : next ≤ length) :
    Follows (withView name shared inner (.ofWindow shared offset length position) streams) name
      (bytes.window offset length) position c := by
  refine ⟨?_, fun _ => ?_, fun closes => ?_⟩
  · rw [run, ← answer]
    cases result <;> rfl
  · rw [run, ← moved]
    exact .view h.standing h.within h.short inside
  · rw [stays] at closes
    cases closes

/-- A call that a view refuses. -/
lemma fails {e : Error} (inside : position ≤ length) (stays : c.isClose = false)
    (answers : ∀ copiesNothing : Bool, (View.ofWindow shared offset length position).planOpen c
      copiesNothing = .answer (.error e))
    (answer : c.outcome (bytes.window offset length) position = .error e)
    (moved : position = c.cursor (bytes.window offset length) position) :
    Follows (withView name shared inner (.ofWindow shared offset length position) streams) name
      (bytes.window offset length) position c := by
  have run := h.call_ofWindow name shared position stays
  rw [answers] at run
  exact h.of_quiet stays run answer.symm moved inside

/-- A call that a view answers through its file. -/
lemma of_delivered {β : Type} {s : Served β} {b : β} {a : α} {next : Nat}
    {resume : β → Option (α × View)} (stays : c.isClose = false)
    (run : call (withView name shared inner (.ofWindow shared offset length position) streams)
        name c = s.through name (.ofWindow shared offset length position) resume)
    (delivered : Delivered s shared inner bytes somewhere b)
    (resumed : resume b = some (a, .ofWindow shared offset length next))
    (answer : c.outcome (bytes.window offset length) position = .ok (c.seen a))
    (moved : next = c.cursor (bytes.window offset length) position) (inside : next ≤ length) :
    Follows (withView name shared inner (.ofWindow shared offset length position) streams) name
      (bytes.window offset length) position c := by
  have whole := run.trans (Served.through_eq delivered.answered resumed)
  obtain ⟨after, left, stands⟩ := delivered.after
  refine ⟨?_, fun _ => ?_, fun closes => ?_⟩
  · rw [whole, answer]
    rfl
  · rw [whole, ← moved, left]
    exact .view stands h.within h.short inside
  · rw [stays] at closes
    cases closes

/-- The length of the bytes that a view denotes. -/
lemma length_window : (bytes.window offset length).length = length := by
  have within := h.within
  rw [Bytes.length_window]
  omega

/-- What is read from a position within the window ends within it. -/
lemma read_inside (inside : position ≤ length) (count : Nat) :
    position + ((bytes.window offset length).window position count).length ≤ length := by
  have total := h.length_window
  rw [Bytes.length_window, total]
  omega

/-- A read, or a call that reads and makes something else of the buffer. -/
lemma reads {answer : Buffer → α} {count : Nat} (inside : position ≤ length)
    (stays : c.isClose = false)
    (run : call (withView name shared inner (.ofWindow shared offset length position) streams)
        name c =
      ((View.ofWindow shared offset length position).planRead count answer).served name
        (.ofWindow shared offset length position) shared ((shared, .shared inner 1) :: streams))
    (seen : ∀ b : Buffer, Seen.buffer b.length b.content =
        .ofBytes ((bytes.window offset length).window position count) →
      c.outcome (bytes.window offset length) position = .ok (c.seen (answer b)))
    (moved : c.cursor (bytes.window offset length) position =
      position + ((bytes.window offset length).window position count).length) :
    Follows (withView name shared inner (.ofWindow shared offset length position) streams) name
      (bytes.window offset length) position c := by
  obtain ⟨b, delivered, looks⟩ := h.ask shared inside count
  obtain ⟨size, _⟩ := Seen.buffer.inj looks
  rw [View.planRead_ofWindow shared h.short inside] at run
  have resumed : ((View.ofWindow shared offset length position).advanced? b.length).map
      (answer b, ·) = some (answer b, .ofWindow shared offset length (position +
        ((bytes.window offset length).window position count).length)) := by
    rw [size, View.advanced?_ofWindow shared h.short (h.read_inside inside count)]
    rfl
  exact h.of_delivered stays run delivered resumed (seen b looks) moved.symm
    (h.read_inside inside count)

/-- A view reads into a target as its window does. -/
lemma view_readInto (inside : position ≤ length) (target : Bytes) :
    Follows (withView name shared inner (.ofWindow shared offset length position) streams) name
      (bytes.window offset length) position (.readInto target) := by
  obtain ⟨f, delivered, count, filled⟩ := h.askInto shared inside target
  have run := h.call_ofWindow name shared position (c := .readInto target) rfl
  rw [View.planOpen, View.planReadInto_ofWindow shared h.short inside] at run
  have ends := h.read_inside inside target.length
  have advanced := View.advanced?_ofWindow shared h.short ends
  rw [← count] at advanced ends
  refine h.of_delivered rfl run delivered (congrArg _ advanced) ?_ ?_ ends
  · rw [InputCall.outcome, ← filled]
    rfl
  · rw [InputCall.cursor, ← count]

/-- A view seeks as its window does. -/
lemma view_seek (inside : position ≤ length) (there : Int) :
    Follows (withView name shared inner (.ofWindow shared offset length position) streams) name
      (bytes.window offset length) position (.seek there) := by
  have total := h.length_window
  rcases checkPosition_cases .seek there length with ⟨⟨low, high⟩, passed⟩ | ⟨outside, e, failed⟩
  · obtain ⟨next, rfl⟩ := Int.eq_ofNat_of_zero_le low
    have run := h.call_ofWindow name shared position (c := .seek next) rfl
    have moves : (View.ofWindow shared offset length position).planOpen (.seek next)
        (copiesNothing ((shared, .shared inner 1) :: streams) shared) =
          .move () (.ofWindow shared offset length next) := by
      simp only [View.planOpen, View.ofWindow, passed]
    rw [moves] at run
    refine h.of_quiet rfl run ?_ ?_ (Int.ofNat_le.mp high)
    · rw [InputCall.outcome, total, passed]
      rfl
    · rw [InputCall.cursor, total, if_pos ⟨low, high⟩]
      rfl
  · refine h.fails (e := e) inside rfl (fun _ => ?_) ?_ ?_
    · simp only [View.planOpen, View.ofWindow, failed]
    · rw [InputCall.outcome, total, failed]
      rfl
    · rw [InputCall.cursor, total, if_neg outside]

/-- A view reads from a position as its window does. -/
lemma view_readAt (inside : position ≤ length) (there : Int) (count : Nat) :
    Follows (withView name shared inner (.ofWindow shared offset length position) streams) name
      (bytes.window offset length) position (.readAt there count) := by
  have total := h.length_window
  rcases checkPosition_cases .read there length with ⟨⟨low, high⟩, passed⟩ | ⟨_, e, failed⟩
  · obtain ⟨place, rfl⟩ := Int.eq_ofNat_of_zero_le low
    have run := h.call_ofWindow name shared position (c := .readAt place count) rfl
    obtain ⟨b, delivered, looks⟩ := h.ask shared (Int.ofNat_le.mp high) count
    have asks : (View.ofWindow shared offset length position).planOpen (.readAt place count)
        (copiesNothing ((shared, .shared inner 1) :: streams) shared) =
          .readAt (offset + place : Nat) (clampRead place length count) fun b =>
            some (b, .ofWindow shared offset length position) := by
      simp only [View.planOpen, View.ofWindow, passed]
      rfl
    rw [asks, View.Plan.served] at run
    refine h.of_delivered rfl run delivered rfl ?_ rfl inside
    rw [InputCall.outcome, total, passed]
    exact congrArg Except.ok looks.symm
  · refine h.fails (e := e) inside rfl (fun _ => ?_) ?_ rfl
    · simp only [View.planOpen, View.ofWindow, failed]
    · rw [InputCall.outcome, total, failed]
      rfl

/-- A view reads from a position into a target as its window does. -/
lemma view_readAtInto (inside : position ≤ length) (there : Int) (target : Bytes) :
    Follows (withView name shared inner (.ofWindow shared offset length position) streams) name
      (bytes.window offset length) position (.readAtInto there target) := by
  have total := h.length_window
  rcases checkPosition_cases .read there length with ⟨⟨low, high⟩, passed⟩ | ⟨_, e, failed⟩
  · obtain ⟨place, rfl⟩ := Int.eq_ofNat_of_zero_le low
    have run := h.call_ofWindow name shared position (c := .readAtInto place target) rfl
    obtain ⟨f, delivered, _, filled⟩ := h.askInto shared (Int.ofNat_le.mp high) target
    have asks : (View.ofWindow shared offset length position).planOpen (.readAtInto place target)
        (copiesNothing ((shared, .shared inner 1) :: streams) shared) =
          .readAtInto (offset + place : Nat)
            (target.take (clampRead place length target.length)) fun f =>
              some (f.append (target.drop (clampRead place length target.length)),
                .ofWindow shared offset length position) := by
      simp only [View.planOpen, View.ofWindow, passed]
      rfl
    rw [asks, View.Plan.served] at run
    refine h.of_delivered rfl run delivered rfl ?_ rfl inside
    rw [InputCall.outcome, total, passed]
    exact congrArg (fun f => Except.ok (Seen.filled f)) filled.symm
  · refine h.fails (e := e) inside rfl (fun _ => ?_) ?_ rfl
    · simp only [View.planOpen, View.ofWindow, failed]
    · rw [InputCall.outcome, total, failed]
      rfl

/-- A view, as the only one of its file, closes the tower beneath and gives it up. -/
lemma view_close :
    Follows (withView name shared inner (.ofWindow shared offset length position) streams) name
      (bytes.window offset length) position .close := by
  obtain ⟨done, closed, _⟩ := (h.follows (d := .close) rfl).answer rfl
  have alone : handles ((shared, .shared inner 1) :: streams) shared = 1 := by
    simp [handles, find?]
  have run := call_view_close _ name (v := .ofWindow shared offset length position) rfl alone
  unfold withView
  refine ⟨?_, fun remains => ?_, fun _ => ?_⟩
  · rw [run, call_shared]
    exact congrArg (Except.map (InputCall.seen .close)) closed
  · cases remains
  · rw [run]
    exact .view rfl

/-- A view answers a plain call as a stream over its window. -/
lemma view (inside : position ≤ length) (plain : c.isPlain = true) :
    Follows (withView name shared inner (.ofWindow shared offset length position) streams) name
      (bytes.window offset length) position c := by
  cases c with
  | read count =>
    exact h.reads inside rfl (h.call_ofWindow name shared position rfl)
      (fun _ looks => congrArg Except.ok looks.symm) rfl
  | advance count =>
    refine h.reads inside rfl (h.call_ofWindow name shared position rfl) (fun b looks => ?_) rfl
    obtain ⟨size, _⟩ := Seen.buffer.inj looks
    rw [InputCall.outcome, ← size]
    rfl
  | readInto target => exact h.view_readInto inside target
  | seek there => exact h.view_seek inside there
  | readAt there count => exact h.view_readAt inside there count
  | readAtInto there target => exact h.view_readAtInto inside there target
  | tell => exact h.of_quiet rfl (h.call_ofWindow name shared position rfl) rfl rfl inside
  | size =>
    refine h.of_quiet rfl (h.call_ofWindow name shared position rfl) ?_ rfl inside
    rw [InputCall.outcome, h.length_window]
    rfl
  | isClosed => exact h.of_quiet rfl (h.call_ofWindow name shared position rfl) rfl rfl inside
  | checkOpen during =>
    exact h.of_quiet rfl (h.call_ofWindow name shared position rfl) rfl rfl inside
  | close => exact h.view_close
  | peek count => cases plain
  | zeroCopy => cases plain

end Bears

/-! ### Whole towers -/

/-- **One step.**  An open tower answers a plain call as a stream over the bytes that it denotes. -/
theorem Stands.follows (h : Stands streams name bytes position) (plain : c.isPlain = true) :
    Follows streams name bytes position c := by
  induction h generalizing α with
  | reader whole isOpen => exact .reader whole isOpen c
  | slow beneath ih => exact .slow ih plain
  | view beneath within short inside ih =>
    exact Bears.view ⟨beneath, ih, within, short⟩ inside plain
  | other beneath different ih => exact .other (ih plain) different

/-- A closed tower answers a plain call as any closed stream, and stays closed. -/
theorem Shut.follows (h : Shut streams name) (plain : c.isPlain = true) :
    (streams.call name c).result = (c.whenClosed true).mapError .error ∧
      Shut (streams.call name c).streams name := by
  induction h generalizing α with
  | @reader rest name r isClosed =>
    have answer := Reader.call_closed isClosed c
    rw [call_reader, answer]
    exact ⟨rfl, .reader isClosed⟩
  | @slow streams name inner clock beneath ih =>
    cases skips : c.isAdvance with
    | false =>
      obtain ⟨result, after⟩ := call_slow streams name inner clock skips
      rw [result, after]
      exact ⟨(ih plain).1, .slow (ih plain).2⟩
    | true =>
      cases c with
      | advance count =>
        obtain ⟨result, after⟩ := ih (c := .read count) rfl
        rw [call_slow_advance]
        exact ⟨congrArg (Except.map Buffer.length) result, .slow after⟩
      | _ => cases skips
  | @view rest name v givenUp =>
    rw [call_view_closed rest name givenUp, InputCall.whenClosed_eq plain true false]
    exact ⟨rfl, .view givenUp⟩
  | other beneath different ih =>
    rw [call_other _ different]
    exact ⟨(ih plain).1, .other (ih plain).2 different⟩

end Streams

end ByteStreams
