import ByteStreams.Proofs.Input.Chain
import Mathlib.Algebra.GroupWithZero.Nat

/-!
# What is read through windows that may stick out

`ReadsExactly` is what a chain of views promises, in terms of the bytes of the buffer and of the
positions where the windows end.  A read from a place gets the bytes from there up to the first end,
as many as it asks for; it fails if an end comes before the place, also if it asks for nothing.
Where a window starts and ends says nothing of whether it lies within what is beneath it: only the
length of the nearest window shows, as the size, and as the bound for the cursor.

Chains are made by opening views of a reader and of each other (`Streams.Chain.openView`), and all
chains keep these promises (`chain_reads_exactly`).
-/

namespace ByteStreams

open Window (origin)

namespace InputCall

/-- Where a read starts in the nearest window, and how many bytes it asks for. -/
def reads? (cursor : Int) : {α : Type} → InputCall α → Option (Int × Nat)
  | _, read count | _, advance count => some (cursor, count)
  | _, readInto target => some (cursor, target.length)
  | _, readAt position count => some (position, count)
  | _, readAtInto position target => some (position, target.length)
  | _, peek _ | _, tell | _, zeroCopy | _, seek _ | _, size | _, isClosed | _, checkOpen _
  | _, close => none

/-- What is seen of a read that gets the bytes. -/
def showing (bytes : Bytes) : {α : Type} → InputCall α → Seen
  | _, read _ | _, readAt .. | _, peek _ => .ofBytes bytes
  | _, readInto target | _, readAtInto _ target => .filled (.ofOverlay target bytes)
  | _, advance _ => .number bytes.length
  | _, tell | _, zeroCopy | _, seek _ | _, size | _, isClosed | _, checkOpen _ | _, close => .done

variable {α : Type} {c : InputCall α} {b : Buffer} {windows : List Window} {cursor position : Int}
  {count : Nat}

/-- What reads does not close. -/
lemma isClose_of_reads? (reads : c.reads? cursor = some (position, count)) : c.isClose = false := by
  cases c <;> first | rfl | cases reads

/-- What is left of a read, as a stretch of the buffer. -/
lemma window_span_eq_between (data : Bytes) {size place : Int} (low : 0 ≤ place)
    (visible : place ≤ Window.limit size windows) (count : Nat) :
    data.window place.toNat (Window.span size windows place count) =
      data.between place (min (place + count) (Window.limit size windows)) := by
  have ends : place + (Window.span size windows place count : Nat) =
      min (place + count) (Window.limit size windows) := by
    unfold Window.span
    omega
  rw [Bytes.window_eq_between data low, ends]

/-- A read through windows gets the bytes up to the first end. -/
lemma through_of_visible (whole : b.Whole) (reads : c.reads? cursor = some (position, count))
    (low : 0 ≤ origin windows + position)
    (passed : Window.check b.length windows (origin windows + position) = .ok ())
    (visible : origin windows + position ≤ Window.limit b.length windows) :
    (c.through b windows cursor).map c.seen = .ok (c.showing (b.content.between
      (origin windows + position)
      (min (origin windows + position + count) (Window.limit b.length windows)))) := by
  rw [← window_span_eq_between b.content low visible count]
  have left := whole.length_window_span low windows count
  have most := Window.limit_le windows b.length
  -- The slice that is handed out lies within the buffer.
  have slice : (b.slice (origin windows + position).toNat
      (Window.span b.length windows (origin windows + position) count)).content =
        b.content.window (origin windows + position).toNat
          (Window.span b.length windows (origin windows + position) count) := by
    refine Buffer.content_slice ?_
    unfold Window.span
    omega
  cases c with
  | read _ | readAt _ _ =>
    cases reads
    simp only [through, passed, showing, Seen.ofBytes, left]
    refine congrArg Except.ok ?_
    rw [seen, slice]
    rfl
  | advance _ =>
    cases reads
    simp only [through, passed, showing, left]
    rfl
  | readInto _ | readAtInto _ _ =>
    cases reads
    simp only [through, passed, showing]
    rfl
  | peek _ | tell | zeroCopy | seek _ | size | isClosed | checkOpen _ | close => cases reads

/-- A read that is refused is refused by the check of its place. -/
lemma through_of_refused {e : Error} (reads : c.reads? cursor = some (position, count))
    (refused : Window.check b.length windows (origin windows + position) = .error e) :
    c.through b windows cursor = .error e := by
  cases c with
  | read _ | readAt _ _ | advance _ | readInto _ | readAtInto _ _ =>
    cases reads
    simp only [through, refused]
    rfl
  | peek _ | tell | zeroCopy | seek _ | size | isClosed | checkOpen _ | close => cases reads

/-- Any read that is no read by position starts at the cursor. -/
lemma eq_cursor_of_reads? (reads : c.reads? cursor = some (position, count))
    (atCursor : c.isAddressed = false) : position = cursor := by
  cases c with
  | read _ | advance _ | readInto _ =>
    cases reads
    rfl
  | readAt _ _ | readAtInto _ _ => cases atCursor
  | peek _ | tell | zeroCopy | seek _ | size | isClosed | checkOpen _ | close => cases reads

/-- The cursor after a read: a read by position leaves it. -/
lemma cursorThrough_of_reads? (reads : c.reads? cursor = some (position, count)) :
    c.cursorThrough b windows cursor = if c.isAddressed then cursor else
      cursor + Window.span b.length windows (origin windows + position) count := by
  cases c with
  | read _ | readAt _ _ | advance _ | readInto _ | readAtInto _ _ =>
    cases reads
    rfl
  | peek _ | tell | zeroCopy | seek _ | size | isClosed | checkOpen _ | close => cases reads

end InputCall

/-! ### The law -/

/-- What can be read through windows.  The place of a read is counted from the start of the nearest
window, `origin windows` is where that is in the buffer. -/
structure ReadsExactly (b : Buffer) (streams : Streams) (name : Nat) (windows : List Window)
    (cursor : Int) : Prop where
  /-- A read from a place that no window and no data ends before gets the bytes up to the first
  end; if it reads at the cursor, it moves the cursor over them. -/
  delivers : ∀ {α : Type} (c : InputCall α) (position : Int) (count : Nat),
    c.reads? cursor = some (position, count) → 0 ≤ position →
    (∀ w ∈ windows, origin windows + position ≤ w.behind) →
    origin windows + position ≤ b.length →
      ∃ bytes, bytes = b.content.between (origin windows + position)
          (min (origin windows + position + count) (Window.limit b.length windows)) ∧
        (streams.call name c).result.map c.seen = .ok (c.showing bytes) ∧
        Streams.Chain b (streams.call name c).streams name windows
          (if c.isAddressed then cursor else cursor + bytes.length)
  /-- Any other read is out of bounds, whatever it asks for, and changes nothing. -/
  refuses : ∀ {α : Type} (c : InputCall α) (position : Int) (count : Nat),
    c.reads? cursor = some (position, count) →
    ¬(0 ≤ position ∧ (∀ w ∈ windows, origin windows + position ≤ w.behind) ∧
      origin windows + position ≤ b.length) →
      (∃ place length, (streams.call name c).result =
        .error (.error ⟨.read, .outOfBounds place length⟩)) ∧
        (streams.call name c).streams = streams
  /-- The size is the length of the nearest window. -/
  size : (streams.call name .size).result = .ok (Window.extent b.length windows)
  /-- The cursor is where reads and searches have left it, within the nearest window. -/
  tell : (streams.call name .tell).result = .ok cursor ∧ 0 ≤ cursor ∧
    cursor ≤ Window.extent b.length windows
  /-- The cursor can be moved to any position within the nearest window. -/
  seeks : ∀ position, 0 ≤ position → position ≤ Window.extent b.length windows →
    (streams.call name (.seek position)).result = .ok () ∧
      Streams.Chain b (streams.call name (.seek position)).streams name windows position
  /-- It can be moved to no other. -/
  seeksNot : ∀ position, ¬(0 ≤ position ∧ position ≤ Window.extent b.length windows) →
    (streams.call name (.seek position)).result =
        .error (.error ⟨.seek, .outOfBounds position (Window.extent b.length windows)⟩) ∧
      (streams.call name (.seek position)).streams = streams
  /-- Reads one after the other, from a place that is not behind any end: none fails, and together
  they get the bytes up to the first end. -/
  sequence : (∀ w ∈ windows, origin windows + cursor ≤ w.behind) →
    origin windows + cursor ≤ b.length → ∀ counts : List Nat, ∃ pieces : List Bytes,
      ((Streams.machine name).transcript (counts.map fun n => ⟨_, .read n⟩) streams).map Prod.snd =
          pieces.map (fun bytes => .ok (.ofBytes bytes)) ∧
        pieces.flatten = b.content.between (origin windows + cursor)
          (min (origin windows + cursor + counts.sum) (Window.limit b.length windows))

namespace Streams.Chain

variable {α : Type} {b : Buffer} {streams : Streams} {name : Nat} {windows : List Window}
  {cursor position : Int} {count : Nat}

/-- A read that no end comes before. -/
lemma call_visible (h : Chain b streams name windows cursor) {c : InputCall α}
    (reads : c.reads? cursor = some (position, count)) (low : 0 ≤ position)
    (visible : origin windows + position ≤ Window.limit b.length windows) :
    ∃ bytes, bytes = b.content.between (origin windows + position)
        (min (origin windows + position + count) (Window.limit b.length windows)) ∧
      (streams.call name c).result.map c.seen = .ok (c.showing bytes) ∧
      Chain b (streams.call name c).streams name windows
        (if c.isAddressed then cursor else cursor + bytes.length) := by
  have place : 0 ≤ origin windows + position := Int.add_nonneg h.origin_nonneg low
  have after : origin windows ≤ origin windows + position := by omega
  have passed := (h.check_eq_ok_iff after).mpr visible
  have answer := InputCall.through_of_visible h.whole reads place passed visible
  have follows := h.follows (InputCall.isClose_of_reads? reads)
  refine ⟨_, rfl, ?_, ?_⟩
  · obtain ⟨a, answered, seen⟩ := ok_of_map_eq_ok answer
    rw [follows.result, answered]
    exact congrArg Except.ok seen
  · have stands := follows.stands
    rw [InputCall.cursorThrough_of_reads? reads] at stands
    rw [← InputCall.window_span_eq_between b.content place visible count,
      h.whole.length_window_span place]
    exact stands

/-- A place before the nearest window, or behind some end, does not pass the checks. -/
lemma check_hidden (h : Chain b streams name windows cursor)
    (hidden : ¬(0 ≤ position ∧ origin windows + position ≤ Window.limit b.length windows)) :
    ∃ e, Window.check b.length windows (origin windows + position) = .error e := by
  cases checked : Window.check b.length windows (origin windows + position) with
  | error e => exact ⟨e, rfl⟩
  | ok passed =>
    -- The nearest window, or the reader, has checked that the place is not before it.
    have low : 0 ≤ position := by
      cases windows with
      | nil =>
        have inside := (checkPosition_eq_ok_iff.mp checked).1
        simp only [origin] at inside
        omega
      | cons w windows =>
        simp only [Window.check] at checked
        split at checked
        · cases checked
        · next inside =>
          have start := (checkPosition_eq_ok_iff.mp inside).1
          simp only [origin] at start
          omega
    have after : origin windows ≤ origin windows + position := by omega
    exact absurd ⟨low, (h.check_eq_ok_iff after).mp checked⟩ hidden

/-- A read that an end comes before. -/
lemma call_hidden (h : Chain b streams name windows cursor) {c : InputCall α}
    (reads : c.reads? cursor = some (position, count))
    (hidden : ¬(0 ≤ position ∧ origin windows + position ≤ Window.limit b.length windows)) :
    (∃ place length, (streams.call name c).result =
      .error (.error ⟨.read, .outOfBounds place length⟩)) ∧
      (streams.call name c).streams = streams := by
  obtain ⟨e, refused⟩ := h.check_hidden hidden
  have follows := h.follows (InputCall.isClose_of_reads? reads)
  refine ⟨?_, follows.unmoved ?_⟩
  · obtain ⟨place, length, rfl⟩ := Window.outOfBounds_of_check refused
    refine ⟨place, length, ?_⟩
    rw [follows.result, InputCall.through_of_refused reads refused]
    rfl
  · rw [InputCall.cursorThrough_of_reads? reads]
    cases atCursor : c.isAddressed with
    | true => rfl
    | false =>
      have same := InputCall.eq_cursor_of_reads? reads atCursor
      have low := h.cursor_inside.1
      have after : origin windows ≤ origin windows + position := by omega
      rw [h.span_eq_zero after refused]
      exact Int.add_zero cursor

/-- Reads one after the other. -/
lemma read_all (h : Chain b streams name windows cursor)
    (visible : origin windows + cursor ≤ Window.limit b.length windows) (counts : List Nat) :
    ∃ pieces : List Bytes,
      ((Streams.machine name).transcript (counts.map fun n => ⟨_, .read n⟩) streams).map Prod.snd =
          pieces.map (fun bytes => .ok (.ofBytes bytes)) ∧
        pieces.flatten = b.content.between (origin windows + cursor)
          (min (origin windows + cursor + counts.sum) (Window.limit b.length windows)) := by
  induction counts generalizing streams cursor with
  | nil =>
    refine ⟨[], rfl, ?_⟩
    have ends : min (origin windows + cursor + ([] : List Nat).sum)
        (Window.limit b.length windows) = origin windows + cursor := by
      rw [List.sum_nil]
      omega
    rw [ends, Bytes.between_self]
    rfl
  | cons n counts ih =>
    obtain ⟨low, _⟩ := h.cursor_inside
    have start := h.origin_nonneg
    obtain ⟨bytes, got, answered, left⟩ := h.call_visible (c := .read n) rfl low visible
    have stands : Chain b (streams.call name (.read n)).streams name windows
        (cursor + bytes.length) := left
    -- The next read starts where this one ends.
    have total : b.content.length = b.length := h.whole
    have most := Window.limit_le windows b.length
    have meets : origin windows + (cursor + bytes.length) =
        min (origin windows + cursor + n) (Window.limit b.length windows) := by
      rw [got, Bytes.length_between (by omega) (by omega)]
      omega
    obtain ⟨pieces, later, flat⟩ := ih stands (by omega)
    have ends : min (origin windows + (cursor + bytes.length) + counts.sum)
        (Window.limit b.length windows) =
          min (origin windows + cursor + (n :: counts).sum) (Window.limit b.length windows) := by
      rw [List.sum_cons]
      omega
    refine ⟨bytes :: pieces, ?_, ?_⟩
    · simp only [List.map_cons, Machine.transcript, Streams.machine]
      rw [answered]
      exact congrArg (_ :: ·) later
    · rw [List.flatten_cons, flat, ends, meets, got]
      refine Bytes.between_append b.content (by omega) ?_
      rw [List.sum_cons]
      omega

/-! ### Making chains -/

/-- A new reader is a chain without windows. -/
lemma new (whole : b.Whole) (rest : Streams) (name : Nat) :
    Chain b ((name, .reader { buffer := b }) :: rest) name [] 0 :=
  .reader whole (Nat.zero_le _)

/-- Handles have nothing to do with reading. -/
lemma setHandles (h : Chain b streams name windows cursor) (change : Nat → Nat) (file : Nat) :
    Chain b (Streams.setHandles change streams file) name windows cursor := by
  induction h with
  | @reader rest key position whole inside =>
    simp only [Streams.setHandles]
    split <;> exact .reader whole inside
  | @shared rest key inner count windows cursor beneath ih =>
    simp only [Streams.setHandles]
    split
    · exact .shared beneath
    · exact .shared ih
  | @slow rest key inner clock windows cursor beneath ih =>
    simp only [Streams.setHandles]
    split
    · exact .slow beneath
    · exact .slow ih
  | @view rest key file windows somewhere v held confined beneath ih =>
    simp only [Streams.setHandles]
    split
    · exact .view held confined beneath
    · exact .view held confined ih
  | @other rest key name node windows cursor beneath different ih =>
    simp only [Streams.setHandles]
    split
    · split <;> exact .other beneath different
    · exact .other ih different

/-- **Opening a view** of a chain puts any valid window before the others, with the cursor at its
start. -/
theorem openView (h : Chain b streams name windows cursor) (view : Nat) (offset length : Int)
    {opened : Streams} (opens : streams.openView view name offset length = .ok opened) :
    Chain b opened view
      (⟨origin windows + offset, origin windows + offset + length⟩ :: windows) 0 := by
  obtain ⟨⟨start, size, short⟩, rfl⟩ := openView_eq_ok_iff.mp opens
  exact .view (v := ⟨some name, offset, length, 0⟩) rfl ⟨start, Int.le_refl 0, size, short⟩
    (h.setHandles _ name)

end Streams.Chain

/-- **Reading through windows.**  A chain of open views of any depth upon an open reader, whatever
their windows, can be read exactly up to the first end. -/
theorem chain_reads_exactly {b : Buffer} {streams : Streams} {name : Nat} {windows : List Window}
    {cursor : Int} (h : Streams.Chain b streams name windows cursor) :
    ReadsExactly b streams name windows cursor where
  delivers c position count reads low visible within :=
    h.call_visible reads low (Window.le_limit_iff.mpr ⟨visible, within⟩)
  refuses c position count reads hidden :=
    h.call_hidden reads fun both => hidden ⟨both.1, Window.le_limit_iff.mp both.2⟩
  size := (h.follows (c := .size) rfl).result
  tell := ⟨(h.follows (c := .tell) rfl).result, h.cursor_inside⟩
  seeks position low high := by
    have follows := h.follows (c := .seek position) rfl
    have passed : checkPosition .seek position (Window.extent b.length windows) = .ok () :=
      checkPosition_eq_ok_iff.mpr ⟨low, high⟩
    refine ⟨?_, ?_⟩
    · rw [follows.result, InputCall.through, passed]
      rfl
    · have stands := follows.stands
      rwa [InputCall.cursorThrough, if_pos ⟨low, high⟩] at stands
  seeksNot position outside := by
    have follows := h.follows (c := .seek position) rfl
    refine ⟨?_, follows.unmoved (if_neg outside)⟩
    rw [follows.result, InputCall.through, checkPosition_outside outside]
    rfl
  sequence visible within := h.read_all (Window.le_limit_iff.mpr ⟨visible, within⟩)

/-- Ten bytes, a view that sticks out of them, and a view that sticks out of that. -/
def overhanging : Streams :=
  [(4, .view ⟨some 3, 2, 9, 0⟩), (3, .shared 2 1), (2, .view ⟨some 1, 5, 6, 0⟩), (1, .shared 0 1),
    (0, .reader { buffer := .ofBytes ⟨0, 0⟩ [10, 11, 12, 13, 14, 15, 16, 17, 18, 19] })]

/-- From the start of the nearest window, at seven, there are three bytes to the end of the data.
One position behind that nothing can be read, not even nothing. -/
theorem overhanging_reads_exactly :
    Streams.Chain (.ofBytes ⟨0, 0⟩ [10, 11, 12, 13, 14, 15, 16, 17, 18, 19]) overhanging 4
        [⟨7, 16⟩, ⟨5, 11⟩] 0 ∧
      (overhanging.call 4 (.read 8)).result.map (InputCall.read 8).seen =
        .ok (.ofBytes [17, 18, 19]) ∧
      (overhanging.call 4 (.readAt 3 8)).result.map (InputCall.readAt 3 8).seen =
        .ok (.ofBytes []) ∧
      ∃ place length, (overhanging.call 4 (.readAt 4 0)).result =
        .error (.error ⟨.read, .outOfBounds place length⟩) := by
  have reader := Streams.Chain.new (Buffer.whole_ofBytes ⟨0, 0⟩
    [10, 11, 12, 13, 14, 15, 16, 17, 18, 19]) [] 0
  have file : Streams.Chain _ [(1, .shared 0 0), _] 1 [] 0 := .shared reader
  have lower := file.openView 2 5 6 rfl
  have above : Streams.Chain _ [(3, .shared 2 0), _, _, _] 3 _ 0 := .shared lower
  have upper : Streams.Chain _ overhanging 4 [⟨7, 16⟩, ⟨5, 11⟩] 0 := above.openView 4 2 9 rfl
  have law := chain_reads_exactly upper
  refine ⟨upper, ?_, ?_, ?_⟩
  · obtain ⟨bytes, rfl, answered, _⟩ := law.delivers (.read 8) 0 8 rfl (by decide) (by decide)
      (by decide)
    exact answered
  · obtain ⟨bytes, rfl, answered, _⟩ := law.delivers (.readAt 3 8) 3 8 rfl (by decide) (by decide)
      (by decide)
    exact answered
  · exact (law.refuses (.readAt 4 0) 4 0 rfl (by decide)).1

end ByteStreams
