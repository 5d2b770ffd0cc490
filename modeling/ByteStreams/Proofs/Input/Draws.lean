import ByteStreams.Input.Chunks
import ByteStreams.Proofs.Input.Holdings
import Mathlib.Data.List.Basic

/-!
# Which calls draw a delay

A call on a stream may lead to a call on an older one, and so on down (`Streams.handedOn?`).
`Streams.calls` lists all calls that are made on the way, each with the stream it is made on.  What
a call draws can be read off this list: one delay for each call on a slow stream that reads, from
the clock of that stream, in the order of the calls (`Streams.draws_call`).

A slow stream is meant to wait before it reads or looks ahead (`InputCall.waits`), and to hand every
other call on.  Yet it skips by reading, and so it waits before it skips as well.  The delays drawn
in a run are those that are meant exactly if nothing is skipped on a slow stream
(`delays_as_meant_iff`).
-/

namespace ByteStreams

namespace InputCall

variable {α : Type}

/-- A call that a slow stream is meant to wait for. -/
def waits : {α : Type} → InputCall α → Bool
  | _, read _ | _, readInto _ | _, peek _ | _, readAt .. | _, readAtInto .. => true
  | _, advance _ | _, tell | _, zeroCopy | _, seek _ | _, size | _, isClosed | _, checkOpen _
  | _, close => false

/-- A call reads if it is meant to wait, or skips. -/
lemma isReading_eq (c : InputCall α) : c.isReading = (c.waits || c.isAdvance) := by
  cases c <;> rfl

/-- What skips is not meant to wait. -/
lemma waits_of_isAdvance {c : InputCall α} (skips : c.isAdvance = true) : c.waits = false := by
  cases c <;> first | rfl | cases skips

end InputCall

/-! ### The calls that a call leads to -/

namespace View

/-- The read that a view asks its file for. -/
def Plan.call? {α : Type} : Plan α → Option AnyCall
  | .readAt position count _ => some ⟨_, .readAt position count⟩
  | .readAtInto position target _ => some ⟨_, .readAtInto position target⟩
  | .answer _ | .move _ _ | .overflow => none

end View

namespace Streams

/-- The call on an older stream that a call leads to.  A view asks its file for a read, and closes
it if it holds the only handle. -/
def handedOn? {α : Type} (rest : Streams) (c : InputCall α) : Node → Option (Nat × AnyCall)
  | .reader _ | .scripted _ => none
  | .shared inner _ => some (inner, ⟨α, c⟩)
  | .slow inner _ =>
    match c with
    | .advance count => some (inner, ⟨_, .read count⟩)
    | c => some (inner, ⟨_, c⟩)
  | .view v =>
    match v.file with
    | none => none
    | some file =>
      if c.isClose then if handles rest file = 1 then some (file, ⟨_, .close⟩) else none
      else ((v.plan c (isClosed rest file) (copiesNothing rest file)).call?).map (file, ·)

end Streams

/-- A call, with the stream that it is made on. -/
structure Made where
  name : Nat
  node : Node
  call : AnyCall

namespace Made

/-- The clock that the call draws a delay from. -/
def draw? (m : Made) : Option Nat :=
  match m.node with
  | .slow _ clock => if m.call.2.isReading then some clock else none
  | .reader _ | .scripted _ | .shared _ _ | .view _ => none

/-- The clock that the call is meant to draw a delay from. -/
def meant? (m : Made) : Option Nat :=
  match m.node with
  | .slow _ clock => if m.call.2.waits then some clock else none
  | .reader _ | .scripted _ | .shared _ _ | .view _ => none

/-- A call by which something is skipped on a slow stream. -/
def skips (m : Made) : Bool :=
  match m.node with
  | .slow _ _ => m.call.2.isAdvance
  | .reader _ | .scripted _ | .shared _ _ | .view _ => false

end Made

namespace Streams

/-- All calls that are made for a call on the stream of a name, in order: the call itself, and the
calls that it leads to. -/
def calls : Streams → Nat → AnyCall → List Made
  | [], _, _ => []
  | (key, node) :: rest, name, c =>
    if key = name then
      ⟨key, node, c⟩ ::
        match handedOn? rest c.2 node with
        | none => []
        | some (inner, d) => calls rest inner d
    else calls rest name c

variable {α : Type} {rest : Streams} {name key : Nat} {node : Node}

/-- Whether anything is drawn on the way to an older stream. -/
lemma draws_through {β : Type} (s : Served β) (name : Nat) (v : View)
    (resume : β → Option (α × View)) : (s.through name v resume).draws = s.draws := by
  unfold Served.through
  split
  · rfl
  · split <;> rfl

/-- What a view draws by carrying out a plan is drawn for the read that it asks for. -/
lemma draws_served (plan : View.Plan α) (name : Nat) (v : View) (file : Nat) (rest : Streams) :
    (plan.served name v file rest).draws =
      match plan.call? with
      | none => []
      | some d => (rest.call file d.2).draws := by
  cases plan with
  | answer _ | move _ _ | overflow => rfl
  | readAt _ _ _ | readAtInto _ _ _ => exact draws_through ..

/-- **One stream** draws a delay if it is slow and the call reads; what else is drawn is drawn for
the call that it leads to. -/
lemma draws_cons_self (rest : Streams) (name : Nat) (node : Node) (c : InputCall α) :
    (call ((name, node) :: rest) name c).draws = (Made.mk name node ⟨α, c⟩).draw?.toList ++
      match handedOn? rest c node with
      | none => []
      | some (inner, d) => (rest.call inner d.2).draws := by
  cases node with
  | reader r =>
    rw [call_reader]
    rfl
  | scripted f =>
    simp only [call, if_true]
    rfl
  | shared inner count =>
    rw [call_shared]
    rfl
  | slow inner clock =>
    cases c with
    | advance count =>
      rw [call_slow_advance]
      rfl
    | _ =>
      simp only [call, if_true]
      rfl
  | view v =>
    cases held : v.file with
    | none =>
      rw [call_view_closed rest name held]
      simp only [handedOn?, held]
      rfl
    | some file =>
      cases closes : c.isClose with
      | false =>
        rw [call_view rest name held closes, draws_served]
        simp only [handedOn?, held, closes, Bool.false_eq_true, if_false]
        cases (v.plan c (isClosed rest file) (copiesNothing rest file)).call? <;> rfl
      | true =>
        cases c with
        | close =>
          simp only [call, if_true, held, handedOn?, closes]
          split
          · rfl
          · rfl
        | _ => cases closes

/-- **What a call draws** is what the calls draw that are made for it. -/
theorem draws_call (streams : Streams) (name : Nat) (c : AnyCall) :
    (streams.call name c.2).draws = (streams.calls name c).filterMap Made.draw? := by
  induction streams generalizing name c with
  | nil => rfl
  | cons entry rest ih =>
    obtain ⟨key, node⟩ := entry
    by_cases same : key = name
    · subst same
      rw [draws_cons_self, calls, if_pos rfl, List.filterMap_cons]
      have below : (match handedOn? rest c.2 node with
          | none => []
          | some (inner, d) => (call rest inner d.2).draws) =
          (match handedOn? rest c.2 node with
          | none => []
          | some (inner, d) => calls rest inner d).filterMap Made.draw? := by
        cases handedOn? rest c.2 node with
        | none => rfl
        | some handed => exact ih handed.1 handed.2
      rw [below]
      cases (Made.mk key node c).draw? <;> rfl
    · rw [call_other rest same, calls, if_neg same]
      exact ih name c

/-- What a slow stream does with a call: it hands every call on but the one that skips, which it
turns into a read.  Its own delay is drawn before all others. -/
structure SlowForwards (rest : Streams) (name inner clock : Nat) : Prop where
  handsOn : ∀ {α : Type} (c : InputCall α), c.isAdvance = false →
    call ((name, .slow inner clock) :: rest) name c =
      ⟨(rest.call inner c).result, (name, .slow inner clock) :: (rest.call inner c).streams,
        (if c.waits then [clock] else []) ++ (rest.call inner c).draws⟩
  reads : ∀ count, call ((name, .slow inner clock) :: rest) name (.advance count) =
    ⟨(rest.call inner (.read count)).result.map Buffer.length,
      (name, .slow inner clock) :: (rest.call inner (.read count)).streams,
      clock :: (rest.call inner (.read count)).draws⟩

/-- Every slow stream hands calls on in this way. -/
lemma slowForwards (rest : Streams) (name inner clock : Nat) :
    SlowForwards rest name inner clock where
  handsOn c skips := by
    cases c with
    | advance count => cases skips
    | _ =>
      simp only [call, if_true, InputCall.isReading]
      rfl
  reads count := call_slow_advance rest name inner clock count

end Streams

/-! ### Runs -/

/-- What can be done with streams and a sequence of chunks over one of them. -/
inductive Deed : Type 1 where
  | act (done : Act)
  /-- Takes the next chunk. -/
  | next

namespace Deed

/-- The draws of an act: those of a call. -/
def actDraws : Act → Streams → List Nat
  | .call name c, streams => (streams.call name c).draws
  | .share _ _, _ | .clone _, _ | .openView .., _ | .dropHandle _, _ | .dropView _, _ => []

/-- The calls of an act. -/
def actCalls : Act → Streams → List Made
  | .call name c, streams => streams.calls name ⟨_, c⟩
  | .share _ _, _ | .clone _, _ | .openView .., _ | .dropHandle _, _ | .dropView _, _ => []

/-- The calls made for the next chunk: one read, unless the end has been reached or the stream is
closed. -/
def chunkCalls (chunks : Chunks) (streams : Streams) : List Made :=
  match chunks.source with
  | none => []
  | some name =>
    if streams.isClosed name then [] else streams.calls name ⟨_, .read chunks.blockSize⟩

/-- Streams with a sequence of chunks; the answer to a deed is what it draws, and the calls that are
made for it. -/
def machine : Machine Deed (List Nat × List Made) (Streams × Chunks)
  | .act done, (streams, chunks) =>
    ((actDraws done streams, actCalls done streams), ((streams.perform done).2, chunks))
  | .next, (streams, chunks) =>
    (((chunks.next streams).1.draws, chunkCalls chunks streams),
      ((chunks.next streams).1.streams, (chunks.next streams).2))

/-- All draws of a run, in order. -/
def drawn (deeds : List Deed) (s : Streams × Chunks) : List Nat :=
  (machine.transcript deeds s).flatMap fun e => e.2.1

/-- All calls of a run, in order. -/
def made (deeds : List Deed) (s : Streams × Chunks) : List Made :=
  (machine.transcript deeds s).flatMap fun e => e.2.2

/-- What the next chunk draws. -/
lemma draws_next (chunks : Chunks) (streams : Streams) :
    (chunks.next streams).1.draws = (chunkCalls chunks streams).filterMap Made.draw? := by
  unfold Chunks.next chunkCalls
  cases chunks.source with
  | none => rfl
  | some name =>
    simp only
    split
    · rfl
    · rw [← Streams.draws_call]
      split
      · rfl
      · split <;> rfl

/-- What a deed draws. -/
lemma draws_machine (deed : Deed) (s : Streams × Chunks) :
    (machine deed s).1.1 = (machine deed s).1.2.filterMap Made.draw? := by
  cases deed with
  | act done =>
    cases done with
    | call name c => exact s.1.draws_call name ⟨_, c⟩
    | share _ _ | clone _ | openView _ _ _ _ | dropHandle _ | dropView _ => rfl
  | next => exact draws_next s.2 s.1

/-- What a run draws. -/
lemma drawn_eq (deeds : List Deed) (s : Streams × Chunks) :
    drawn deeds s = (made deeds s).filterMap Made.draw? := by
  induction deeds generalizing s with
  | nil => rfl
  | cons deed deeds ih =>
    have first := draws_machine deed s
    have later := ih (machine deed s).2
    simp only [drawn, made, Machine.transcript, List.flatMap_cons, List.filterMap_append] at later ⊢
    rw [first, later]

end Deed

namespace Made

/-- Where nothing is skipped, what is drawn is what is meant. -/
lemma draw?_eq_meant? {m : Made} (kept : m.skips = false) : m.draw? = m.meant? := by
  obtain ⟨name, node, c⟩ := m
  cases node with
  | slow inner clock =>
    have reads : c.2.isReading = c.2.waits := by
      rw [c.2.isReading_eq, show c.2.isAdvance = false from kept, Bool.or_false]
    simp only [draw?, meant?, reads]
  | reader _ | scripted _ | shared _ _ | view _ => rfl

/-- Where something is skipped, a delay is drawn that is not meant. -/
lemma draw?_of_skips {m : Made} (skips : m.skips = true) :
    (∃ clock, m.draw? = some clock) ∧ m.meant? = none := by
  obtain ⟨name, node, c⟩ := m
  cases node with
  | slow inner clock =>
    have advances : c.2.isAdvance = true := skips
    have reads : c.2.isReading = true := by rw [c.2.isReading_eq, advances, Bool.or_true]
    simp only [draw?, meant?, reads, InputCall.waits_of_isAdvance advances, if_true]
    exact ⟨⟨clock, rfl⟩, rfl⟩
  | reader _ | scripted _ | shared _ _ | view _ => cases skips

/-- There are as many draws too many as things that are skipped. -/
lemma length_filterMap_draw? (calls : List Made) :
    (calls.filterMap draw?).length = (calls.filterMap meant?).length + calls.countP skips := by
  induction calls with
  | nil => rfl
  | cons m calls ih =>
    rw [List.filterMap_cons, List.filterMap_cons, List.countP_cons]
    cases kept : m.skips with
    | false =>
      rw [draw?_eq_meant? kept]
      cases m.meant? with
      | none => exact ih
      | some clock =>
        simp only [List.length_cons, ih, Bool.false_eq_true, if_false]
        omega
    | true =>
      obtain ⟨⟨clock, drawn⟩, meant⟩ := draw?_of_skips kept
      simp only [drawn, meant, List.length_cons, ih, if_true]
      omega

/-- The draws are as meant exactly if nothing is skipped. -/
lemma filterMap_draw?_eq_iff (calls : List Made) :
    calls.filterMap draw? = calls.filterMap meant? ↔ ∀ m ∈ calls, m.skips = false := by
  constructor
  · intro same
    have length := length_filterMap_draw? calls
    rw [same] at length
    have none : calls.countP skips = 0 := by omega
    intro m member
    exact Bool.eq_false_iff.mpr (List.countP_eq_zero.mp none m member)
  · intro kept
    exact List.filterMap_congr fun m member => draw?_eq_meant? (kept m member)

end Made

/-- The draws of a run, counted clock by clock, and compared with what is meant. -/
structure DrawsExactly (deeds : List Deed) (s : Streams × Chunks) : Prop where
  /-- Each call on a slow stream that reads or skips draws one delay from the clock of the stream,
  whatever comes of it, and nothing else draws any. -/
  draws : Deed.drawn deeds s = (Deed.made deeds s).filterMap Made.draw?
  /-- So often is each clock drawn from. -/
  count : ∀ clock, (Deed.drawn deeds s).count clock =
    (Deed.made deeds s).countP fun m => m.draw? == some clock
  /-- These are the draws that are meant if and only if nothing is skipped on a slow stream. -/
  meant_iff : Deed.drawn deeds s = (Deed.made deeds s).filterMap Made.meant? ↔
    ∀ m ∈ Deed.made deeds s, m.skips = false

/-- **Delays are drawn as meant but for skipping.**  A slow stream hands on every other call, after
a draw if it is meant to wait for it.  In every run of deeds on streams of any kind, one upon the
other, and on a sequence of chunks, the draws are those of the calls made on slow streams that read
or skip. -/
theorem delays_as_meant_iff (deeds : List Deed) (s : Streams × Chunks) :
    (∀ (rest : Streams) (name inner clock : Nat), Streams.SlowForwards rest name inner clock) ∧
      DrawsExactly deeds s := by
  have draws := Deed.drawn_eq deeds s
  refine ⟨Streams.slowForwards, draws, fun clock => ?_, ?_⟩
  · rw [draws, List.count_filterMap]
  · rw [draws]
    exact Made.filterMap_draw?_eq_iff _

/-- A slow stream upon a reader, with no chunks left. -/
def slowReader : Streams × Chunks :=
  ([(1, .slow 0 9), (0, .reader { buffer := .ofBytes ⟨0, 0⟩ [97, 98, 99, 100, 101, 102] })],
    ⟨none, 1⟩)

/-- Skipping three bytes of a slow stream draws a delay, although none is meant. -/
theorem skipping_draws_delay :
    Deed.drawn [.act (.call 1 (.advance 3))] slowReader = [9] ∧
      (Deed.made [.act (.call 1 (.advance 3))] slowReader).filterMap Made.meant? = [] :=
  ⟨rfl, rfl⟩

/-- Chunks of two bytes of a slow stream, read to the end: one delay for each read. -/
example : Deed.drawn [.next, .next, .next, .next, .next] (slowReader.1, ⟨some 1, 2⟩) =
    [9, 9, 9, 9] := rfl

end ByteStreams
