import ByteStreams.Input.Chunks
import ByteStreams.Proofs.ClosedStreams
import ByteStreams.Proofs.Input.ChainReading
import Mathlib.Algebra.Ring.Int.Defs

/-!
# Where the buffers come from that are read

Views and slow streams hand out the buffers that they get from the reader that they stand upon, as
they are.  So a buffer that has been read is a slice of the buffer that the reader was set up with,
and of no slice in between; it begins where the starts of all windows and the cursor, or the
position of the read, add up to (`Buffer.CutFrom`).

Buffers are read in the course of deals (`Deal`): streams are set up, used, closed and dropped in
turns, and some are read through iterators.  What has been read is kept, whatever becomes of the
streams (`buffers_come_from_source`).
-/

namespace ByteStreams

open Window (origin)

/-! ### Slices of a source -/

/-- The piece is a slice of the buffer itself, and begins so far from its start. -/
structure Buffer.CutFrom (piece b : Buffer) (place : Int) : Prop where
  memory : piece.memory = b.memory
  parent : piece.parent? = some b
  offset : (piece.extent.offset : Int) = b.extent.offset + place
  low : 0 ≤ place
  within : place + piece.length ≤ b.length

/-- Where the window of a view starts.  Other streams start where the ones beneath them start. -/
def Node.start : Node → Int
  | .view v => v.start
  | .reader _ | .scripted _ | .shared _ _ | .slow _ _ => 0

/-- The starts of all windows that a stream is read through, added up. -/
def Streams.shift (streams : Streams) (name : Nat) : Int :=
  ((streams.parts name).map fun part => part.2.start).sum

/-- The buffer that an answer hands out; most calls hand out none. -/
def InputCall.piece? : {α : Type} → InputCall α → α → Option Buffer
  | _, read _, b | _, readAt .., b => some b
  | _, readInto _, _ | _, peek _, _ | _, advance _, _ | _, tell, _ | _, zeroCopy, _ | _, seek _, _
  | _, size, _ | _, readAtInto .., _ | _, isClosed, _ | _, checkOpen _, _ | _, close, _ => none

/-- A place that passes all checks is not before the start of the nearest window. -/
lemma Window.origin_le_of_check {size place : Int} {windows : List Window}
    (passed : check size windows place = .ok ()) : origin windows ≤ place := by
  cases windows with
  | nil => exact (checkPosition_eq_ok_iff.mp passed).1
  | cons w windows =>
    simp only [check] at passed
    split at passed
    · cases passed
    · next inside =>
      have low := (checkPosition_eq_ok_iff.mp inside).1
      simp only [origin]
      omega

namespace Streams

variable {α : Type} {streams rest before after : Streams} {name key : Nat} {node : Node}
  {b piece : Buffer} {windows : List Window} {cursor position : Int}

/-- The starts from the newest stream on. -/
lemma shift_cons_self {inner : Nat} (upon : node.beneath? = some inner) :
    shift ((key, node) :: rest) key = node.start + shift rest inner := by
  simp only [shift, parts, if_true, upon, List.map_cons, List.sum_cons]

/-- The start of a stream that stands upon nothing. -/
lemma shift_cons_bottom (upon : node.beneath? = none) (key : Nat) (rest : Streams) :
    shift ((key, node) :: rest) key = node.start := by
  simp only [shift, parts, if_true, upon, List.map_cons, List.map_nil, List.sum_cons, List.sum_nil,
    Int.add_zero]

/-- The starts from an older stream on. -/
lemma shift_cons_of_ne (different : key ≠ name) :
    shift ((key, node) :: rest) name = shift rest name := by
  simp only [shift, parts, if_neg different]

namespace Chain

/-- What a chain hands out is cut from its buffer. -/
lemma cutFrom (h : Chain b streams name windows cursor) {count : Nat}
    (passed : Window.check b.length windows (origin windows + position) = .ok ()) :
    (b.slice (origin windows + position).toNat
      (Window.span b.length windows (origin windows + position) count)).CutFrom b
        (origin windows + position) := by
  have start := h.origin_nonneg
  have low := Window.origin_le_of_check passed
  have visible := (h.check_eq_ok_iff low).mp passed
  have most := Window.limit_le windows b.length
  refine ⟨rfl, rfl, ?_, Int.le_trans start low, ?_⟩
  · simp only [Buffer.slice]
    omega
  · rw [Buffer.length_slice]
    unfold Window.span
    omega

/-- A call on a chain that hands out a buffer is a read, of what is at its place. -/
lemma handsOut (h : Chain b streams name windows cursor) {c : InputCall α} {a : α}
    (answered : (streams.call name c).result = .ok a) (handed : c.piece? a = some piece) :
    ∃ place count, c.reads? cursor = some (place, count) ∧
      piece.CutFrom b (origin windows + place) := by
  -- What passes the checks hands out a slice.
  have cut (there : Int) (count : Nat) (passed : ((Window.check b.length windows
      (origin windows + there)).map fun _ => b.slice (origin windows + there).toNat
        (Window.span b.length windows (origin windows + there) count)).mapError Fault.error =
          .ok piece) : piece.CutFrom b (origin windows + there) := by
    cases checked : Window.check b.length windows (origin windows + there) with
    | error e =>
      rw [checked] at passed
      cases passed
    | ok done =>
      rw [checked] at passed
      cases passed
      exact h.cutFrom checked
  cases c with
  | read count =>
    cases handed
    refine ⟨cursor, count, rfl, cut cursor count ?_⟩
    rw [← answered, (h.follows (c := .read count) rfl).result]
    rfl
  | readAt there count =>
    cases handed
    refine ⟨there, count, rfl, cut there count ?_⟩
    rw [← answered, (h.follows (c := .readAt there count) rfl).result]
    rfl
  | readInto _ | peek _ | advance _ | tell | zeroCopy | seek _ | size | readAtInto _ _ | isClosed
  | checkOpen _ | close => cases handed

/-- A chain stands upon a reader of its buffer. -/
lemma exists_reader (h : Chain b streams name windows cursor) :
    ∃ base r, (streams.parts name).getLast? = some (base, .reader r) ∧ r.buffer = b := by
  induction h with
  | @reader _ name position _ _ =>
    exact ⟨name, ⟨b, position, false⟩, by simp [parts, Node.beneath?], rfl⟩
  | shared _ ih | slow _ ih =>
    obtain ⟨base, r, ends, same⟩ := ih
    refine ⟨base, r, ?_, same⟩
    simp only [parts, if_true, Node.beneath?, List.getLast?_cons, ends, Option.getD_some]
  | view held _ _ ih =>
    obtain ⟨base, r, ends, same⟩ := ih
    refine ⟨base, r, ?_, same⟩
    simp only [parts, if_true, Node.beneath?, held, List.getLast?_cons, ends, Option.getD_some]
  | other _ different ih =>
    simp only [parts, if_neg different]
    exact ih

/-- The nearest window begins where the starts of all windows add up to. -/
lemma origin_eq (h : Chain b streams name windows cursor) :
    origin windows = streams.shift name := by
  induction h with
  | @reader rest name position _ _ =>
    have bottom : (Node.reader ⟨b, position, false⟩).beneath? = none := rfl
    exact (shift_cons_bottom bottom name rest).symm
  | shared _ ih | slow _ ih =>
    rw [shift_cons_self rfl, ih]
    exact (Int.zero_add _).symm
  | @view _ _ file _ _ v held _ _ ih =>
    have upon : (Node.view v).beneath? = some file := held
    rw [shift_cons_self upon, ← ih]
    exact Int.add_comm ..
  | other _ different ih =>
    rw [shift_cons_of_ne different]
    exact ih

end Chain

/-- An open stream upon readers is a chain, if all views are confined and the readers have their
cursors within their buffers. -/
lemma exists_chain (onReaders : streams.OnReaders) (confined : streams.Confined)
    (inside : ∀ {key r}, (key, .reader r) ∈ streams →
      r.buffer.Whole ∧ r.position ≤ r.buffer.length)
    (isOpen : streams.isClosed name = false) :
    ∃ b windows cursor, Chain b streams name windows cursor := by
  induction streams generalizing name with
  | nil => cases isOpen
  | cons entry rest ih =>
    obtain ⟨key, node⟩ := entry
    obtain ⟨head, tail⟩ := onReaders_cons_iff.mp onReaders
    obtain ⟨here, older⟩ := confined_cons_iff.mp confined
    have beneath {inner : Nat} (isOpen : isClosed rest inner = false) :
        ∃ b windows cursor, Chain b rest inner windows cursor :=
      ih tail older (fun member => inside (List.mem_cons_of_mem _ member)) isOpen
    by_cases same : key = name
    · subst same
      unfold Streams.isClosed at isOpen
      rw [if_pos rfl] at isOpen
      cases node with
      | reader r =>
        obtain ⟨buffer, position, closed⟩ := r
        cases isOpen
        obtain ⟨whole, low⟩ := inside List.mem_cons_self
        exact ⟨buffer, [], position, .reader whole low⟩
      | scripted f => exact absurd rfl head
      | shared inner count =>
        obtain ⟨b, windows, cursor, chain⟩ := beneath isOpen
        exact ⟨b, windows, cursor, .shared chain⟩
      | slow inner clock =>
        obtain ⟨b, windows, cursor, chain⟩ := beneath isOpen
        exact ⟨b, windows, cursor, .slow chain⟩
      | view v =>
        cases held : v.file with
        | none => simp [held] at isOpen
        | some file =>
          simp only [held] at isOpen
          obtain ⟨b, windows, cursor, chain⟩ := beneath isOpen
          exact ⟨b, v.window windows :: windows, v.position, .view held here chain⟩
    · rw [isClosed_cons_of_ne same] at isOpen
      obtain ⟨b, windows, cursor, chain⟩ := beneath isOpen
      exact ⟨b, windows, cursor, .other chain same⟩

/-! ### Readers keep their buffers -/

/-- Every reader has been a reader of the same buffer, and if its cursor was within the buffer, it
still is. -/
def KeepsReaders (before after : Streams) : Prop :=
  ∀ key s, (key, .reader s) ∈ after → ∃ r, (key, .reader r) ∈ before ∧ s.buffer = r.buffer ∧
    (r.position ≤ r.buffer.length → s.position ≤ s.buffer.length)

namespace KeepsReaders

/-- Nothing happens. -/
lemma refl (streams : Streams) : streams.KeepsReaders streams :=
  fun _ s member => ⟨s, member, rfl, id⟩

/-- A new stream that is no reader. -/
lemma newer (h : before.KeepsReaders after) (key : Nat) {new : Node}
    (noReader : new.kind ≠ .reader) : before.KeepsReaders ((key, new) :: after) := by
  intro other s member
  rcases List.mem_cons.mp member with same | member
  · cases same
    exact absurd rfl noReader
  · exact h other s member

/-- A newer stream that is no reader afterwards. -/
lemma cons (h : rest.KeepsReaders after) (entry : Nat × Node) {new : Node}
    (noReader : new.kind ≠ .reader) : KeepsReaders (entry :: rest) ((key, new) :: after) := by
  intro other s member
  obtain ⟨r, was, kept⟩ := h.newer key noReader other s member
  exact ⟨r, List.mem_cons_of_mem _ was, kept⟩

/-- A newer stream that stays as it is. -/
lemma cons_same (h : rest.KeepsReaders after) (entry : Nat × Node) :
    KeepsReaders (entry :: rest) (entry :: after) := by
  intro other s member
  rcases List.mem_cons.mp member with same | member
  · cases same
    exact ⟨s, List.mem_cons_self, rfl, id⟩
  · obtain ⟨r, was, kept⟩ := h other s member
    exact ⟨r, List.mem_cons_of_mem _ was, kept⟩

/-- Another number of handles. -/
lemma setHandles (h : streams.KeepsReaders after) (change : Nat → Nat) (name : Nat) :
    streams.KeepsReaders (Streams.setHandles change after name) := by
  have stays (key : Nat) (s : Reader)
      (member : (key, .reader s) ∈ Streams.setHandles change after name) :
      (key, .reader s) ∈ after := by
    clear h
    induction after with
    | nil => exact member
    | cons entry rest ih =>
      obtain ⟨newest, node⟩ := entry
      by_cases same : newest = name
      · cases node <;> simpa [Streams.setHandles, same] using member
      · simp only [Streams.setHandles, if_neg same, List.mem_cons] at member ⊢
        exact member.imp_right ih
  exact fun key s member => h key s (stays key s member)

/-- A call keeps the cursor of a reader within its buffer. -/
lemma position_le (r : Reader) (c : InputCall α) (inside : r.position ≤ r.buffer.length) :
    (r.call c).2.position ≤ (r.call c).2.buffer.length := by
  rw [(r.call_snd c).1]
  have skips (count : Nat) : (r.skip count).position ≤ r.buffer.length := by
    simp only [Reader.skip, Reader.readable, clampRead]
    omega
  cases closed : r.closed with
  | true =>
    rw [r.call_closed closed]
    exact inside
  | false =>
    simp only [Reader.call, closed, Bool.false_eq_true, if_false]
    cases c with
    | read count | advance count => exact skips count
    | readInto target => exact skips target.length
    | seek there =>
      simp only [Reader.callOpen]
      split
      · exact inside
      · next passed =>
        have high := (checkPosition_eq_ok_iff.mp passed).2
        simp only
        omega
    | readAt _ _ | readAtInto _ _ =>
      simp only [Reader.callOpen]
      split <;> exact inside
    | peek _ | tell | zeroCopy | size | isClosed | checkOpen _ | close => exact inside

/-- A newer reader that is called. -/
lemma reader (key : Nat) (r : Reader) (c : InputCall α) (rest : Streams) :
    KeepsReaders ((key, .reader r) :: rest) ((key, .reader (r.call c).2) :: rest) := by
  intro other s member
  rcases List.mem_cons.mp member with same | member
  · cases same
    exact ⟨r, List.mem_cons_self, (r.call_snd c).1, position_le r c⟩
  · exact ⟨s, List.mem_cons_of_mem _ member, rfl, id⟩

/-- **A call** leaves all readers with their buffers. -/
theorem call (streams : Streams) (name : Nat) (c : InputCall α) :
    streams.KeepsReaders (streams.call name c).streams := by
  induction streams generalizing name α with
  | nil => exact .refl []
  | cons entry rest ih =>
    obtain ⟨key, node⟩ := entry
    by_cases same : key = name
    · subst same
      cases node with
      | reader r =>
        rw [call_reader]
        exact .reader key r c rest
      | scripted f =>
        simp only [Streams.call, if_true]
        exact .cons (.refl rest) _ fun impossible => by cases impossible
      | shared inner count =>
        rw [call_shared]
        exact .cons_same (ih inner c) _
      | slow inner clock =>
        cases c with
        | advance count =>
          rw [call_slow_advance]
          exact .cons_same (ih inner (.read count)) _
        | _ =>
          rw [(call_slow rest key inner clock rfl).2]
          exact .cons_same (ih inner _) _
      | view v =>
        have noReader (next : View) : (Node.view next).kind ≠ .reader :=
          fun impossible => by cases impossible
        cases held : v.file with
        | none =>
          rw [call_view_closed rest key held]
          exact .refl _
        | some file =>
          cases closes : c.isClose with
          | false =>
            obtain ⟨next, _, unread | ⟨β, d, _, read⟩⟩ := call_view_moved rest key held closes
            · rw [unread]
              exact .cons (.refl rest) _ (noReader next)
            · rw [read]
              exact .cons (ih file d) _ (noReader next)
          | true =>
            cases c with
            | close =>
              simp only [Streams.call, if_true, held]
              refine .cons (.setHandles ?_ (· - 1) file) _ (noReader _)
              by_cases last : handles rest file = 1
              · rw [if_pos last]
                exact ih file .close
              · rw [if_neg last]
                exact .refl rest
            | _ => cases closes
    · rw [call_other rest same]
      exact .cons_same (ih name c) _

/-- Dropping leaves all readers as they are. -/
lemma letGo (streams : Streams) (name : Nat) : streams.KeepsReaders (streams.letGo name) := by
  refine giveUp_induction (motive := fun before after => before.KeepsReaders after)
    (fun streams => .refl streams) (fun entry _ _ kept => kept.cons_same entry)
    (fun key node _ _ kept => ?_) streams name
  cases node with
  | reader r | scripted f => exact kept.cons_same _
  | shared _ _ | view _ | slow _ _ => exact kept.cons _ fun impossible => by cases impossible

/-- **An act** leaves all readers with their buffers. -/
theorem perform (streams : Streams) (act : Act) :
    streams.KeepsReaders (streams.perform act).2 := by
  cases act with
  | share file stream => exact (refl streams).newer file fun impossible => by cases impossible
  | clone file => exact (refl streams).setHandles _ file
  | openView view file offset length =>
    simp only [Streams.perform]
    cases opens : streams.openView view file offset length with
    | error e => exact .refl streams
    | ok opened =>
      obtain ⟨_, rfl⟩ := openView_eq_ok_iff.mp opens
      exact ((refl streams).setHandles _ file).newer view fun impossible => by cases impossible
  | dropHandle name | dropView name => exact .letGo streams name
  | call name c => exact .call streams name c

end KeepsReaders

end Streams

/-! ### Towers and what they are supplied with -/

namespace Towers

variable {α : Type} {stock : Nat → Buffer → Prop} {t : Towers} {name : Nat} {piece : Buffer}

/-- Towers upon readers of the buffers that they have been supplied with. -/
structure Stocked (stock : Nat → Buffer → Prop) (t : Towers) : Prop where
  sound : ∃ closed, t.Sound closed
  confined : t.streams.Confined
  readers : ∀ key r, (key, .reader r) ∈ t.streams →
    stock key r.buffer ∧ r.position ≤ r.buffer.length

namespace Stocked

/-- There is nothing at first. -/
lemma start (stock : Nat → Buffer → Prop) : Stocked stock {} where
  sound := ⟨_, sound_run []⟩
  confined _ impossible := absurd impossible List.not_mem_nil
  readers _ _ impossible := absurd impossible List.not_mem_nil

/-- There may be more in stock. -/
lemma mono (h : t.Stocked stock) {more : Nat → Buffer → Prop}
    (has : ∀ key b, stock key b → more key b) : t.Stocked more where
  sound := h.sound
  confined := h.confined
  readers key r member := by
    obtain ⟨stocked, inside⟩ := h.readers key r member
    exact ⟨has key r.buffer stocked, inside⟩

/-- **A turn** leaves towers upon readers of what is in stock. -/
lemma turn (h : t.Stocked stock) (turn : Turn)
    (brought : ∀ name b, turn = .reader name b → stock name b) :
    (machine turn t).2.Stocked stock := by
  obtain ⟨closed, sound⟩ := h.sound
  have next := sound.of_step (sound.step turn)
  refine ⟨⟨_, next⟩, ?_, ?_⟩
  · unfold machine
    split
    · cases turn with
      | reader _ _ | slow _ _ _ => exact Streams.confined_cons_iff.mpr ⟨trivial, h.confined⟩
      | act done => exact h.confined.perform done
    · exact h.confined
  · unfold machine
    split
    · cases turn with
      | reader name buffer =>
        intro key r member
        rcases List.mem_cons.mp member with same | member
        · cases same
          exact ⟨brought name buffer rfl, Nat.zero_le _⟩
        · exact h.readers key r member
      | slow name inner clock =>
        intro key r member
        exact h.readers key r ((List.mem_cons.mp member).resolve_left fun same => by cases same)
      | act done =>
        intro key s member
        obtain ⟨r, was, same, kept⟩ := Streams.KeepsReaders.perform t.streams done key s member
        obtain ⟨stocked, inside⟩ := h.readers key r was
        exact ⟨same ▸ stocked, kept inside⟩
    · exact h.readers

/-- What a call on towers hands out. -/
lemma handsOut (h : t.Stocked stock) (whole : ∀ key b, stock key b → b.Whole) {c : InputCall α}
    {a : α} (answered : (t.streams.call name c).result = .ok a) (handed : c.piece? a = some piece) :
    ∃ base r cursor place count, (t.streams.parts name).getLast? = some (base, .reader r) ∧
      stock base r.buffer ∧ (t.streams.call name .tell).result = .ok cursor ∧
      c.reads? cursor = some (place, count) ∧
      piece.CutFrom r.buffer (t.streams.shift name + place) := by
  obtain ⟨closed, sound⟩ := h.sound
  have reads : c.isClose = false := by cases c <;> first | rfl | cases handed
  cases isOpen : t.streams.isClosed name with
  | true =>
    obtain ⟨_, refused, _⟩ := Streams.call_of_closed sound.onReaders isOpen reads
    rw [refused] at answered
    cases c <;> cases handed <;> cases answered
  | false =>
    obtain ⟨b, windows, cursor, chain⟩ := Streams.exists_chain sound.onReaders h.confined
      (fun {key r} member => ⟨whole key r.buffer (h.readers key r member).1,
        (h.readers key r member).2⟩) isOpen
    obtain ⟨base, r, ends, rfl⟩ := chain.exists_reader
    obtain ⟨place, count, atPlace, cut⟩ := chain.handsOut answered handed
    have isPart : (base, .reader r) ∈ t.streams.parts name := List.mem_of_getLast? ends
    have stocked := (h.readers base r (Streams.mem_of_mem_parts isPart)).1
    have tells := (chain.follows (c := .tell) rfl).result
    rw [chain.origin_eq] at cut
    exact ⟨base, r, cursor, place, count, ends, stocked, tells, atPlace, cut⟩

end Stocked

end Towers

/-! ### Deals -/

/-- An iterator makes no call and has no chunk, or it makes one read, whose buffer is the chunk if
there is one. -/
lemma Chunks.next_cases (chunks : Chunks) (streams : Streams) :
    ((chunks.next streams).1.streams = streams ∧
      ∀ b, (chunks.next streams).1.result ≠ .ok (some b)) ∨
    ∃ name, chunks.source = some name ∧
      (chunks.next streams).1.streams = (streams.call name (.read chunks.blockSize)).streams ∧
      ∀ b, (chunks.next streams).1.result = .ok (some b) →
        (streams.call name (.read chunks.blockSize)).result = .ok b := by
  obtain ⟨source, blockSize⟩ := chunks
  cases source with
  | none => exact .inl ⟨rfl, fun b impossible => by cases impossible⟩
  | some name =>
    simp only [Chunks.next]
    split
    · exact .inl ⟨rfl, fun b impossible => by cases impossible⟩
    · refine .inr ⟨name, rfl, ?_⟩
      cases answered : (streams.call name (.read blockSize)).result with
      | error fault => exact ⟨rfl, fun b impossible => by cases impossible⟩
      | ok piece =>
        simp only
        split
        · exact ⟨rfl, fun b impossible => by cases impossible⟩
        · refine ⟨rfl, fun b same => ?_⟩
          cases same
          rfl

/-- What can be done with towers and iterators: a turn, an iterator set up over a stream, and its
next chunk. -/
inductive Deal : Type 1 where
  | turn (turn : Turn)
  | iterate (source blockSize : Nat)
  | next (iterator : Nat)

/-- Towers, the iterators that have been set up, and the buffers that have been handed out, all of
which are kept. -/
structure Desk where
  towers : Towers := {}
  iterators : List Chunks := []
  kept : List Buffer := []

namespace Desk

/-- The buffer that a call on a stream hands out, if it succeeds. -/
def pieceOf? {α : Type} (t : Towers) (name : Nat) (c : InputCall α) : Option Buffer :=
  match (t.streams.call name c).result with
  | .ok a => c.piece? a
  | .error _ => none

/-- The buffer that a deal hands out, if any, and the desk after it. -/
def machine : Machine Deal (Option Buffer) Desk := fun deal d =>
  match deal with
  | .turn turn =>
    let piece := match turn with
      | .act (.call name c) => pieceOf? d.towers name c
      | .reader _ _ | .slow _ _ _ | .act _ => none
    (piece, { d with towers := (Towers.machine turn d.towers).2, kept := d.kept ++ piece.toList })
  | .iterate source blockSize =>
    match Chunks.ofStream d.towers.streams source blockSize with
    | .ok chunks => (none, { d with iterators := d.iterators ++ [chunks] })
    | .error _ => (none, d)
  | .next iterator =>
    match d.iterators[iterator]? with
    | none => (none, d)
    | some chunks =>
      let (served, later) := chunks.next d.towers.streams
      let piece := match served.result with
        | .ok piece => piece
        | .error _ => none
      (piece, ⟨{ d.towers with streams := served.streams }, d.iterators.set iterator later,
        d.kept ++ piece.toList⟩)

/-- The call that a deal makes on a stream. -/
def asks? (d : Desk) : Deal → Option (Nat × AnyCall)
  | .turn (.act (.call name c)) => some (name, ⟨_, c⟩)
  | .next iterator =>
    match d.iterators[iterator]? with
    | some ⟨some source, blockSize⟩ => some (source, ⟨_, .read blockSize⟩)
    | some ⟨none, _⟩ | none => none
  | .turn (.reader _ _) | .turn (.slow _ _ _) | .turn (.act _) | .iterate _ _ => none

variable {d : Desk} {deal : Deal} {piece : Buffer}

/-- What a deal hands out is what its call hands out. -/
lemma exists_call (handed : (machine deal d).1 = some piece) :
    ∃ (name : Nat) (α : Type) (c : InputCall α) (a : α), d.asks? deal = some (name, ⟨α, c⟩) ∧
      (d.towers.streams.call name c).result = .ok a ∧ c.piece? a = some piece := by
  cases deal with
  | turn turn =>
    cases turn with
    | reader _ _ | slow _ _ _ => cases handed
    | act done =>
      cases done with
      | call name c =>
        simp only [machine, pieceOf?] at handed
        split at handed
        · next a answered => exact ⟨name, _, c, a, rfl, answered, handed⟩
        · cases handed
      | share _ _ | clone _ | openView _ _ _ _ | dropHandle _ | dropView _ => cases handed
  | iterate source blockSize =>
    simp only [machine] at handed
    split at handed <;> cases handed
  | next iterator =>
    cases there : d.iterators[iterator]? with
    | none =>
      simp only [machine, there] at handed
      cases handed
    | some chunks =>
      simp only [machine, there] at handed
      split at handed
      · next piece answered =>
        subst handed
        rcases chunks.next_cases d.towers.streams with ⟨_, none⟩ | ⟨name, source, _, reads⟩
        · exact absurd answered (none _)
        · obtain ⟨held, blockSize⟩ := chunks
          subst source
          exact ⟨name, _, .read blockSize, _, by simp only [asks?, there], reads _ answered, rfl⟩
      · cases handed

/-- The towers after a deal are those after a turn, if they are others at all. -/
lemma exists_turn (deal : Deal) (d : Desk) :
    (machine deal d).2.towers = d.towers ∨ ∃ turn,
      (machine deal d).2.towers = (Towers.machine turn d.towers).2 ∧
        ∀ name b, turn = .reader name b → deal = .turn turn := by
  cases deal with
  | turn turn => exact .inr ⟨turn, rfl, fun _ _ _ => rfl⟩
  | iterate source blockSize =>
    simp only [machine]
    split <;> exact .inl rfl
  | next iterator =>
    simp only [machine]
    split
    · exact .inl rfl
    · next chunks _ =>
      rcases chunks.next_cases d.towers.streams with ⟨same, _⟩ | ⟨name, _, same, _⟩
      · left
        rw [same]
      · refine .inr ⟨.act (.call name (.read chunks.blockSize)), ?_, fun _ _ impossible => by
          cases impossible⟩
        rw [Towers.machine_call, same]

/-- What is handed out is kept. -/
lemma kept_machine (deal : Deal) (d : Desk) :
    (machine deal d).2.kept = d.kept ++ (machine deal d).1.toList := by
  cases deal with
  | turn turn => rfl
  | iterate source blockSize =>
    simp only [machine]
    split <;> exact (List.append_nil _).symm
  | next iterator =>
    simp only [machine]
    split
    · exact (List.append_nil _).symm
    · rfl

/-- All buffers that are handed out in a run. -/
def handedOut (past : List (Deal × Option Buffer)) : List Buffer := past.filterMap Prod.snd

/-- What a run keeps, and what is handed out in it. -/
lemma kept_final (later : List Deal) (d : Desk) :
    (machine.final later d).kept = d.kept ++ handedOut (machine.transcript later d) := by
  induction later generalizing d with
  | nil => exact (List.append_nil _).symm
  | cons deal later ih =>
    rw [Machine.final, ih, kept_machine, List.append_assoc, Machine.transcript, handedOut,
      handedOut]
    cases (machine deal d).1 <;> rfl

/-- The invariant of runs: all readers are over buffers that they have been set up with, and all
that is kept is cut from such buffers. -/
structure Supplied (deals : List Deal) (d : Desk) : Prop where
  stocked : d.towers.Stocked fun base b => .turn (.reader base b) ∈ deals
  kept : ∀ piece ∈ d.kept, ∃ base b place,
    .turn (.reader base b) ∈ deals ∧ piece.CutFrom b place

/-- A buffer that is handed out for a call on a stream.  The call reads at a place, which may be
where the cursor is.  The stream stands upon a reader, and the buffer is cut from the one that this
reader was set up with: so far from its start as the starts of all windows and the place add up
to. -/
def ReadFrom (deals : List Deal) (d : Desk) (name : Nat) (c : AnyCall) (piece : Buffer) : Prop :=
  ∃ base r cursor place count,
    (d.towers.streams.parts name).getLast? = some (base, .reader r) ∧
    .turn (.reader base r.buffer) ∈ deals ∧
    (d.towers.streams.call name .tell).result = .ok cursor ∧
    c.2.reads? cursor = some (place, count) ∧
    piece.CutFrom r.buffer (d.towers.streams.shift name + place)

/-- What is true of a desk after some deals. -/
structure Provenance (deals : List Deal) (d : Desk) : Prop where
  /-- Whatever is handed out next has been read from its source. -/
  handed : ∀ deal piece, (machine deal d).1 = some piece →
    ∃ name c, d.asks? deal = some (name, c) ∧ ReadFrom deals d name c piece
  /-- Whatever has been handed out is cut from a source, whatever has become of the streams. -/
  kept : ∀ piece ∈ d.kept, ∃ base b place,
    .turn (.reader base b) ∈ deals ∧ piece.CutFrom b place
  /-- It stays as it is, whatever is done afterwards. -/
  keeps : ∀ later,
    (machine.final later d).kept = d.kept ++ handedOut (machine.transcript later d)

namespace Supplied

variable {deals : List Deal} (h : Supplied deals d)
  (whole : ∀ base b, .turn (.reader base b) ∈ deals → b.Whole)

include h whole

/-- What is handed out has been read from its source. -/
lemma readFrom (handed : (machine deal d).1 = some piece) :
    ∃ name c, d.asks? deal = some (name, c) ∧ ReadFrom deals d name c piece := by
  obtain ⟨name, α, c, a, asks, answered, handed⟩ := exists_call handed
  exact ⟨name, ⟨α, c⟩, asks, h.stocked.handsOut whole answered handed⟩

/-- **A deal** keeps the invariant. -/
lemma step (deal : Deal) : Supplied (deals ++ [deal]) (machine deal d).2 := by
  have more (base : Nat) (b : Buffer) (before : .turn (.reader base b) ∈ deals) :
      .turn (.reader base b) ∈ deals ++ [deal] := List.mem_append_left [deal] before
  constructor
  · rcases exists_turn deal d with same | ⟨turn, same, brought⟩
    · rw [same]
      exact h.stocked.mono more
    · rw [same]
      refine (h.stocked.mono more).turn turn fun name b isReader => ?_
      rw [brought name b isReader, isReader]
      exact List.mem_append_right deals List.mem_cons_self
  · intro piece member
    rw [kept_machine, List.mem_append] at member
    rcases member with before | now
    · obtain ⟨base, b, place, setUp, cut⟩ := h.kept piece before
      exact ⟨base, b, place, more base b setUp, cut⟩
    · obtain ⟨name, c, _, base, r, cursor, place, count, _, setUp, _, _, cut⟩ :=
        h.readFrom whole (Option.mem_toList.mp now)
      exact ⟨base, r.buffer, _, more base r.buffer setUp, cut⟩

end Supplied

/-- Every run keeps the invariant. -/
lemma supplied_run (deals : List Deal)
    (whole : ∀ base b, .turn (.reader base b) ∈ deals → b.Whole) :
    Supplied deals (machine.final deals {}) := by
  have run := Machine.run_induction (m := machine) (s := {}) (motive := fun past d =>
    (∀ base b, .turn (.reader base b) ∈ past.map Prod.fst → b.Whole) →
      Supplied (past.map Prod.fst) d)
    (fun _ => ⟨.start _, fun _ impossible => absurd impossible List.not_mem_nil⟩) ?_ deals
  · rw [Machine.map_fst_transcript] at run
    exact run whole
  · intro past d deal now whole
    rw [List.map_append, List.map_singleton] at whole ⊢
    have before : ∀ base b, .turn (.reader base b) ∈ past.map Prod.fst → b.Whole :=
      fun base b member => whole base b (List.mem_append_left _ member)
    exact (now before).step before deal

/-- **Buffers come from their source.**  Set up any readers over buffers, build any towers of views
and slow streams upon them, use, close and drop them in any order, and read them directly or through
iterators.  Every buffer that is read, empty ones included, is a slice of the buffer that the reader
beneath was set up with, in the same memory and with that very buffer as its parent, and begins
where the starts of the windows and the place of the read add up to.  It stays so whatever is done
afterwards. -/
theorem buffers_come_from_source (deals : List Deal)
    (whole : ∀ base b, .turn (.reader base b) ∈ deals → b.Whole) :
    Provenance deals (machine.final deals {}) := by
  have supplied := supplied_run deals whole
  refine ⟨fun deal piece handed => ?_, supplied.kept, fun later => kept_final later _⟩
  exact supplied.readFrom whole handed

/-- A buffer of four bytes that is itself a slice; a slow stream upon a view of two of them.  One
byte is read through an iterator and none at the end of the window; then all is closed. -/
def slowDeals : List Deal :=
  [.turn (.reader 0 ((Buffer.ofBytes ⟨0, 0⟩ [1, 2, 3, 4, 5]).slice 1 4)), .turn (.act (.share 1 0)),
    .turn (.act (.openView 2 1 1 2)), .turn (.slow 3 2 9), .iterate 3 1, .next 0,
    .turn (.act (.call 3 (.readAt 2 7))), .turn (.act (.dropHandle 1)),
    .turn (.act (.call 3 .close))]

/-- Both are slices of the four bytes, and not of all five, nor of the window. -/
theorem slowDeals_come_from_source :
    (∀ base b, .turn (.reader base b) ∈ slowDeals → b.Whole) ∧
      Provenance slowDeals (machine.final slowDeals {}) ∧
      (machine.final slowDeals {}).kept =
        [((Buffer.ofBytes ⟨0, 0⟩ [1, 2, 3, 4, 5]).slice 1 4).slice 1 1,
          ((Buffer.ofBytes ⟨0, 0⟩ [1, 2, 3, 4, 5]).slice 1 4).slice 3 0] := by
  have whole : ∀ base b, .turn (.reader base b) ∈ slowDeals → b.Whole := by
    intro base b member
    simp only [slowDeals, List.mem_cons, Deal.turn.injEq, Turn.reader.injEq, reduceCtorEq,
      List.not_mem_nil, or_false] at member
    rw [member.2]
    rfl
  exact ⟨whole, buffers_come_from_source slowDeals whole, rfl⟩

end Desk

end ByteStreams
