import ByteStreams.Input.Streams
import ByteStreams.Proofs.Input.Outcome

/-!
# What each kind of stream does with a call

One equation for each kind of stream, so that `Streams.call` need not be unfolded again.  A view
that is not being closed carries out a plan with its file (`View.Plan.served`).
-/

namespace ByteStreams

/-- A plan of a view, carried out with its file. -/
def View.Plan.served {α : Type} (name : Nat) (v : View) (file : Nat) (rest : Streams) :
    View.Plan α → Served α
  | .answer result => .ofResult result ((name, .view v) :: rest)
  | .move result next => .ofResult (.ok result) ((name, .view next) :: rest)
  | .readAt position count resume =>
    (rest.call file (.readAt position count)).through name v resume
  | .readAtInto position target resume =>
    (rest.call file (.readAtInto position target)).through name v resume
  | .overflow => ⟨.error .overflow, (name, .view v) :: rest, []⟩

/-- What a view makes of an answer of its file. -/
lemma Served.through_eq {α β : Type} {s : Served β} {b : β} {a : α} {v next : View}
    {resume : β → Option (α × View)} {name : Nat} (answered : s.result = .ok b)
    (resumed : resume b = some (a, next)) :
    s.through name v resume = ⟨.ok a, (name, .view next) :: s.streams, s.draws⟩ := by
  unfold Served.through
  rw [answered]
  simp only [resumed]

namespace Streams

variable {α : Type} (rest : Streams) (name : Nat)

/-- A call passes by the streams of other names. -/
lemma call_other {name key : Nat} (different : key ≠ name) (node : Node) (c : InputCall α) :
    call ((key, node) :: rest) name c = (call rest name c).under (key, node) := by
  simp only [call, if_neg different]

/-- A reader answers by itself. -/
lemma call_reader (r : Reader) (c : InputCall α) :
    call ((name, .reader r) :: rest) name c =
      .ofResult (r.call c).1 ((name, .reader (r.call c).2) :: rest) := by
  simp only [call, if_true]

/-- A shared file hands a call on. -/
lemma call_shared (inner handles : Nat) (c : InputCall α) :
    call ((name, .shared inner handles) :: rest) name c =
      (call rest inner c).under (name, .shared inner handles) := by
  simp only [call, if_true]

/-- A slow stream skips by reading. -/
lemma call_slow_advance (inner clock count : Nat) :
    call ((name, .slow inner clock) :: rest) name (.advance count) =
      (((call rest inner (.read count)).map Buffer.length).after clock).under
        (name, .slow inner clock) := by
  simp only [call, if_true]

/-- A slow stream hands any other call on. -/
lemma call_slow (inner clock : Nat) {c : InputCall α} (skips : c.isAdvance = false) :
    (call ((name, .slow inner clock) :: rest) name c).result = (call rest inner c).result ∧
      (call ((name, .slow inner clock) :: rest) name c).streams =
        (name, .slow inner clock) :: (call rest inner c).streams := by
  cases c with
  | advance count => cases skips
  | _ =>
    simp only [call, if_true, InputCall.isReading]
    exact ⟨rfl, rfl⟩

/-- A view that is not being closed carries out its plan. -/
lemma call_view {v : View} {file : Nat} (held : v.file = some file) {c : InputCall α}
    (stays : c.isClose = false) :
    call ((name, .view v) :: rest) name c =
      (v.plan c (isClosed rest file) (copiesNothing rest file)).served name v file rest := by
  cases c with
  | close => cases stays
  | _ =>
    simp only [call, if_true, held]
    rfl

/-- A view that has been closed answers as a closed stream. -/
lemma call_view_closed {v : View} (givenUp : v.file = none) (c : InputCall α) :
    call ((name, .view v) :: rest) name c =
      .ofResult (c.whenClosed false) ((name, .view v) :: rest) := by
  simp only [call, if_true, givenUp]

/-- The only view of a file closes the file with itself. -/
lemma call_view_close {v : View} {file : Nat} (held : v.file = some file)
    (alone : handles rest file = 1) :
    call ((name, .view v) :: rest) name .close =
      ⟨(call rest file .close).result,
        (name, .view { v with file := none }) :: release (call rest file .close).streams file,
        (call rest file .close).draws⟩ := by
  simp only [call, if_true, held, alone]

/-- **A stream that is asked whether it is closed** tells, in every state, and nothing changes. -/
theorem call_isClosed (streams : Streams) (name : Nat) :
    streams.call name .isClosed = .ofResult (.ok (streams.isClosed name)) streams := by
  induction streams generalizing name with
  | nil => rfl
  | cons entry rest ih =>
    obtain ⟨key, node⟩ := entry
    by_cases same : key = name
    · subst same
      simp only [isClosed, if_true]
      cases node with
      | reader r =>
        rw [call_reader, Reader.call_isClosed]
      | scripted f => simp only [call, if_true, ScriptedFile.call]
      | shared inner count =>
        rw [call_shared, ih]
        rfl
      | slow inner clock =>
        simp only [call, if_true, ih]
        rfl
      | view v =>
        cases held : v.file with
        | none =>
          rw [call_view_closed rest key held]
          simp only [held]
          rfl
        | some file =>
          rw [call_view rest key held rfl, View.plan]
          simp only [held]
          cases isClosed rest file <;> rfl
    · simp only [isClosed, if_neg same]
      rw [call_other rest same, ih]
      rfl

end Streams

end ByteStreams
