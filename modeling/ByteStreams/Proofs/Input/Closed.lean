import ByteStreams.Proofs.Closed
import ByteStreams.Proofs.Input.Draws
import Mathlib.Data.List.Forall2

/-!
# Closed towers

A tower is closed if a view in it has been closed, or the reader at its bottom.  What is asked of it
then is refused on the way, before anything else is looked at, and nothing changes
(`Streams.call_of_closed`).  Closing it again may make a view give up the handle that it still holds
on a closed file, but closes nothing that is open (`Streams.call_close_of_closed`).  An open tower
refuses nothing for being closed (`Streams.call_of_open`).
-/

namespace ByteStreams

/-- The call failed because a stream is closed. -/
def breaksAsClosed {α : Type} : Except Fault α → Bool
  | .error (.error e) => e.kind = .closed
  | .error .overflow | .ok _ => false

/-- What an answer tells of being closed, if that was asked. -/
def told? : Except Fault Seen → Option Bool
  | .ok (.flag closed) => some closed
  | .ok (.buffer _ _) | .ok (.filled _) | .ok (.number _) | .ok .done | .error _ => none

/-- A stream's own failure is one of the call. -/
lemma breaksAsClosed_mapError {α : Type} (result : Except Error α) :
    breaksAsClosed (result.mapError .error) = failsAsClosed result := by
  cases result <;> rfl

/-- A stream's own success is one of the call. -/
lemma isOk_mapError {α ε δ : Type} (result : Except ε α) (f : ε → δ) :
    (result.mapError f).isOk = result.isOk := by
  cases result <;> rfl

/-- What is made of an answer has nothing to do with a success. -/
lemma isOk_map {α β ε : Type} (result : Except ε α) (f : α → β) :
    (result.map f).isOk = result.isOk := by
  cases result <;> rfl

/-- What is made of an answer has nothing to do with a failure. -/
lemma failsAsClosed_map {α β : Type} (result : Except Error α) (f : α → β) :
    failsAsClosed (result.map f) = failsAsClosed result := by
  cases result <;> rfl

/-- What is made of the answer has nothing to do with a failure. -/
lemma breaksAsClosed_map {α β : Type} (result : Except Fault α) (f : α → β) :
    breaksAsClosed (result.map f) = breaksAsClosed result := by
  rcases result with ⟨_ | _⟩ | _ <;> rfl

namespace InputCall

variable {α : Type}

/-- What a call means to a stream that may be closed. -/
def role : {α : Type} → InputCall α → Role
  | _, read _ | _, readInto _ | _, peek _ | _, advance _ | _, tell | _, seek _ | _, size
  | _, readAt .. | _, readAtInto .. | _, checkOpen _ => .works
  | _, zeroCopy | _, isClosed | _, close => .harmless

/-- The call that asks whether the stream is closed. -/
def asks : {α : Type} → InputCall α → Bool
  | _, isClosed => true
  | _, read _ | _, readInto _ | _, peek _ | _, advance _ | _, tell | _, zeroCopy | _, seek _
  | _, size | _, readAt .. | _, readAtInto .. | _, checkOpen _ | _, close => false

/-- A closed stream refuses what needs it open. -/
lemma failsAsClosed_whenClosed {c : InputCall α} (works : c.role = .works) (copiesNothing : Bool) :
    failsAsClosed (c.whenClosed copiesNothing) = true := by
  cases c <;> first | rfl | cases works

/-- A closed stream answers what does not need it open. -/
lemma isOk_whenClosed {c : InputCall α} (harmless : c.role = .harmless) (copiesNothing : Bool) :
    (c.whenClosed copiesNothing).isOk = true := by
  cases c <;> first | rfl | cases harmless

/-- Closing does not need the stream open. -/
lemma isClose_of_works {c : InputCall α} (works : c.role = .works) : c.isClose = false := by
  cases c <;> first | rfl | cases works

/-- No call opens a stream, and each is about the stream that it is made on. -/
lemma role_cases (c : InputCall α) : c.role = .works ∨ c.role = .harmless := by
  cases c <;> first | exact .inl rfl | exact .inr rfl

end InputCall

namespace Reader

variable {α : Type} {r : Reader}

/-- An open reader refuses nothing for being closed. -/
lemma failsAsClosed_call (isOpen : r.closed = false) (c : InputCall α) :
    failsAsClosed (r.call c).1 = false := by
  simp only [call, isOpen, Bool.false_eq_true, if_false]
  cases c with
  | seek _ | readAt _ _ | readAtInto _ _ =>
    simp only [callOpen]
    split
    · next failed =>
      rw [checkPosition_eq_error failed]
      rfl
    · rfl
  | read _ | readInto _ | peek _ | advance _ | tell | zeroCopy | size | isClosed | checkOpen _
  | close => rfl

/-- A call leaves the buffer, and closes the reader if it is the one that closes. -/
lemma call_snd (r : Reader) (c : InputCall α) :
    (r.call c).2.buffer = r.buffer ∧ (r.call c).2.closed = (r.closed || c.isClose) := by
  cases closed : r.closed with
  | true =>
    rw [call_closed closed]
    exact ⟨rfl, closed⟩
  | false =>
    simp only [call, closed, Bool.false_eq_true, if_false]
    cases c with
    | seek _ | readAt _ _ | readAtInto _ _ =>
      simp only [callOpen]
      split <;> exact ⟨rfl, closed⟩
    | read _ | readInto _ | peek _ | advance _ | tell | zeroCopy | size | isClosed | checkOpen _ =>
      exact ⟨rfl, closed⟩
    | close => exact ⟨rfl, rfl⟩

/-- **Readers** obey the law of closed streams, in every state. -/
theorem closedLaw (r : Reader) :
    ClosedLaw machine Reader.closed (fun c : AnyCall => c.2.role) (fun c => c.2.asks) told?
      breaksAsClosed Except.isOk Eq r := by
  refine .of_steps (fun r c asked => ?_) (fun r c closed works => ?_)
    (fun r c closed harmless => ?_) (fun r c isOpen => ?_) (fun c => ?_) r
  · obtain ⟨α, c⟩ := c
    cases c with
    | isClosed =>
      simp only [machine, call_isClosed]
      exact ⟨rfl, trivial⟩
    | _ => cases asked
  · simp only [machine, call_closed closed, breaksAsClosed_mapError, failsAsClosed_map]
    exact ⟨InputCall.failsAsClosed_whenClosed works true, trivial⟩
  · have answered := InputCall.isOk_whenClosed harmless true
    simp only [machine, call_closed closed]
    refine ⟨?_, trivial, closed⟩
    rwa [isOk_mapError, isOk_map]
  · simp only [machine, breaksAsClosed_mapError, failsAsClosed_map]
    exact failsAsClosed_call isOpen c.2
  · rcases c.2.role_cases with is | is <;> rw [is] <;> exact fun same => by cases same

end Reader

namespace Streams

/-! ### Calls on closed and on open towers -/

/-- No stream is a scripted file: at the bottom of every tower there is a reader. -/
def OnReaders (streams : Streams) : Prop := ∀ entry ∈ streams, entry.2.kind ≠ .scripted

variable {α : Type} {streams rest : Streams} {name : Nat}

/-- The newest stream and the others. -/
lemma onReaders_cons_iff {entry : Nat × Node} :
    OnReaders (entry :: rest) ↔ entry.2.kind ≠ .scripted ∧ rest.OnReaders :=
  List.forall_mem_cons

/-- **A closed tower** answers as a closed stream and is not changed, unless it is closed again. -/
theorem call_of_closed (onReaders : streams.OnReaders) (closed : streams.isClosed name = true)
    {c : InputCall α} (stays : c.isClose = false) :
    ∃ copiesNothing, (streams.call name c).result =
        (c.whenClosed copiesNothing).mapError .error ∧
      (streams.call name c).streams = streams := by
  induction streams generalizing name α with
  | nil => exact ⟨false, rfl, rfl⟩
  | cons entry rest ih =>
    obtain ⟨key, node⟩ := entry
    obtain ⟨head, tail⟩ := onReaders_cons_iff.mp onReaders
    by_cases same : key = name
    · subst same
      simp only [Streams.isClosed, if_true] at closed
      cases node with
      | reader r =>
        rw [call_reader, Reader.call_closed closed]
        exact ⟨true, rfl, rfl⟩
      | scripted f => exact absurd rfl head
      | shared inner count =>
        obtain ⟨copiesNothing, result, left⟩ := ih tail closed stays
        rw [call_shared]
        exact ⟨copiesNothing, result, congrArg (_ :: ·) left⟩
      | slow inner clock =>
        by_cases skips : c.isAdvance = false
        · obtain ⟨copiesNothing, result, left⟩ := ih tail closed stays
          obtain ⟨answered, after⟩ := call_slow rest key inner clock skips
          rw [answered, after, left]
          exact ⟨copiesNothing, result, rfl⟩
        · cases c with
          | advance count =>
            obtain ⟨_, result, left⟩ := ih tail closed (c := .read count) rfl
            rw [call_slow_advance]
            exact ⟨true, congrArg (Except.map Buffer.length) result, congrArg (_ :: ·) left⟩
          | _ => exact absurd rfl skips
      | view v =>
        cases held : v.file with
        | none =>
          rw [call_view_closed rest key held]
          exact ⟨false, rfl, rfl⟩
        | some file =>
          simp only [held] at closed
          rw [call_view rest key held stays, View.plan, if_pos closed]
          exact ⟨Streams.copiesNothing rest file, rfl, rfl⟩
    · simp only [Streams.isClosed, if_neg same] at closed
      obtain ⟨copiesNothing, result, left⟩ := ih tail closed stays
      rw [call_other rest same]
      exact ⟨copiesNothing, result, congrArg (_ :: ·) left⟩

/-- What an open view plans is refused for being out of bounds, or because it cannot be peeked into,
and so is what its file answers if that is not refused for being closed. -/
lemma breaksAsClosed_served {v : View} {plan : View.Plan α} {file : Nat}
    (answers : ∀ result, plan = .answer result → failsAsClosed result = false)
    (reads : ∀ {β : Type} (d : InputCall β), breaksAsClosed (call rest file d).result = false) :
    breaksAsClosed (plan.served name v file rest).result = false := by
  have through {β : Type} (s : Served β) (resume : β → Option (α × View))
      (below : breaksAsClosed s.result = false) :
      breaksAsClosed (s.through name v resume).result = false := by
    unfold Served.through
    split
    · next fault failed =>
      rw [failed] at below
      rcases fault with e | _
      · exact below
      · rfl
    · split <;> rfl
  cases plan with
  | answer result => exact (breaksAsClosed_mapError result).trans (answers result rfl)
  | move _ _ | overflow => rfl
  | readAt position count resume => exact through _ resume (reads (.readAt position count))
  | readAtInto position target resume =>
    exact through _ resume (reads (.readAtInto position target))

/-- What an open view answers by itself. -/
lemma failsAsClosed_planOpen (v : View) (c : InputCall α) (copiesNothing : Bool)
    {result : Except Error α} (answers : v.planOpen c copiesNothing = .answer result) :
    failsAsClosed result = false := by
  cases c with
  | read count | advance count =>
    simp only [View.planOpen, View.planRead] at answers
    split at answers <;> cases answers
  | readInto target =>
    simp only [View.planOpen, View.planReadInto] at answers
    split at answers <;> cases answers
  | seek _ | readAt _ _ | readAtInto _ _ =>
    simp only [View.planOpen] at answers
    split at answers
    · next failed =>
      cases answers
      rw [checkPosition_eq_error failed]
      rfl
    · cases answers
  | peek _ | tell | zeroCopy | size | isClosed | checkOpen _ =>
    cases answers
    rfl
  | close => cases answers

/-- **An open tower** refuses nothing for being closed. -/
theorem call_of_open (onReaders : streams.OnReaders) (isOpen : streams.isClosed name = false)
    (c : InputCall α) : breaksAsClosed (streams.call name c).result = false := by
  induction streams generalizing name α with
  | nil => cases isOpen
  | cons entry rest ih =>
    obtain ⟨key, node⟩ := entry
    obtain ⟨head, tail⟩ := onReaders_cons_iff.mp onReaders
    by_cases same : key = name
    · subst same
      simp only [Streams.isClosed, if_true] at isOpen
      cases node with
      | reader r =>
        rw [call_reader]
        exact (breaksAsClosed_mapError _).trans (Reader.failsAsClosed_call isOpen c)
      | scripted f => exact absurd rfl head
      | shared inner count =>
        rw [call_shared]
        exact ih tail isOpen c
      | slow inner clock =>
        by_cases skips : c.isAdvance = false
        · rw [(call_slow rest key inner clock skips).1]
          exact ih tail isOpen c
        · cases c with
          | advance count =>
            rw [call_slow_advance]
            exact (breaksAsClosed_map _ _).trans (ih tail isOpen (.read count))
          | _ => exact absurd rfl skips
      | view v =>
        cases held : v.file with
        | none =>
          simp only [held] at isOpen
          cases isOpen
        | some file =>
          simp only [held] at isOpen
          by_cases stays : c.isClose = false
          · rw [call_view rest key held stays, View.plan, isOpen]
            exact breaksAsClosed_served (fun _ => failsAsClosed_planOpen v c _)
              fun d => ih tail isOpen d
          · cases c with
            | close =>
              simp only [call, if_true, held]
              split
              · exact ih tail isOpen .close
              · rfl
            | _ => exact absurd rfl stays
    · simp only [Streams.isClosed, if_neg same] at isOpen
      rw [call_other rest same]
      exact ih tail isOpen c

end Streams

/-! ### Closing again -/

/-- The same stream but for handles: those on a shared file may be fewer, and a view may have given
up its own. -/
inductive Node.SameData : Node → Node → Prop
  | reader (r : Reader) : SameData (.reader r) (.reader r)
  | scripted (f : ScriptedFile) : SameData (.scripted f) (.scripted f)
  | shared (inner count left : Nat) : SameData (.shared inner count) (.shared inner left)
  | kept (v : View) : SameData (.view v) (.view v)
  | givenUp (v : View) : SameData (.view v) (.view { v with file := none })
  | slow (inner clock : Nat) : SameData (.slow inner clock) (.slow inner clock)

/-- A stream is the same as itself. -/
lemma Node.SameData.refl (node : Node) : node.SameData node := by
  cases node <;> constructor

/-- Streams that are the same but for handles, and of which the same ones are closed. -/
structure Streams.Kept (before after : Streams) : Prop where
  data : List.Forall₂ (fun a b => b.1 = a.1 ∧ a.2.SameData b.2) before after
  closed : ∀ name, after.isClosed name = before.isClosed name

namespace Streams

variable {streams rest after : Streams} {name key : Nat} {node : Node}

/-- Nothing has happened. -/
lemma Kept.refl (streams : Streams) : streams.Kept streams :=
  ⟨List.forall₂_same.mpr fun entry _ => ⟨rfl, .refl entry.2⟩, fun _ => rfl⟩

/-- Whether a stream is closed depends on what it stands upon. -/
lemma isClosed_cons_congr (same : ∀ name, after.isClosed name = rest.isClosed name)
    (key : Nat) (node : Node) (name : Nat) :
    isClosed ((key, node) :: after) name = isClosed ((key, node) :: rest) name := by
  simp only [Streams.isClosed, same]

/-- What holds of older streams holds with a newer one before them. -/
lemma Kept.cons (h : rest.Kept after) (entry : Nat × Node) :
    Kept (entry :: rest) (entry :: after) where
  data := .cons ⟨rfl, .refl entry.2⟩ h.data
  closed := isClosed_cons_congr h.closed entry.1 entry.2

/-- Handles have nothing to do with being closed. -/
@[simp] lemma isClosed_setHandles (change : Nat → Nat) (streams : Streams) (name other : Nat) :
    (setHandles change streams name).isClosed other = streams.isClosed other := by
  induction streams generalizing other with
  | nil => rfl
  | cons entry rest ih =>
    obtain ⟨key, node⟩ := entry
    by_cases same : key = name
    · cases node <;> simp only [setHandles, if_pos same, Streams.isClosed]
    · simp only [setHandles, if_neg same]
      exact isClosed_cons_congr ih key node other

/-- Whatever holds of streams in the course of time, and does not depend on handles, holds with
another number of handles. -/
lemma forall₂_setHandles {motive : Nat × Node → Nat × Node → Prop}
    (other : ∀ {entry key inner count} left, motive entry (key, .shared inner count) →
      motive entry (key, .shared inner left))
    (h : List.Forall₂ motive streams after) (change : Nat → Nat) (name : Nat) :
    List.Forall₂ motive streams (Streams.setHandles change after name) := by
  induction h with
  | nil => exact .nil
  | @cons a b before after first later ih =>
    obtain ⟨key, node⟩ := b
    by_cases same : key = name
    · cases node with
      | shared inner count =>
        simp only [Streams.setHandles, if_pos same]
        exact .cons (other _ first) later
      | reader _ | scripted _ | view _ | slow _ _ =>
        simp only [Streams.setHandles, if_pos same]
        exact .cons first later
    · simp only [Streams.setHandles, if_neg same]
      exact .cons first ih

/-- A change of handles leaves all data. -/
lemma Kept.setHandles (h : streams.Kept after) (change : Nat → Nat) (name : Nat) :
    streams.Kept (Streams.setHandles change after name) where
  data := by
    refine forall₂_setHandles ?_ h.data change name
    rintro ⟨_, old⟩ key inner count left ⟨same, data⟩
    cases data
    exact ⟨same, .shared ..⟩
  closed other := (isClosed_setHandles ..).trans (h.closed other)

/-- **Closing a closed tower** succeeds.  It closes nothing that was open, and leaves all data and
all cursors. -/
theorem call_close_of_closed (onReaders : streams.OnReaders)
    (closed : streams.isClosed name = true) :
    (streams.call name .close).result = .ok () ∧
      streams.Kept (streams.call name .close).streams := by
  induction streams generalizing name with
  | nil => exact ⟨rfl, .refl []⟩
  | cons entry rest ih =>
    obtain ⟨key, node⟩ := entry
    obtain ⟨head, tail⟩ := onReaders_cons_iff.mp onReaders
    by_cases same : key = name
    · subst same
      simp only [Streams.isClosed, if_true] at closed
      cases node with
      | reader r =>
        rw [call_reader, Reader.call_closed closed]
        exact ⟨rfl, .refl _⟩
      | scripted f => exact absurd rfl head
      | shared inner count =>
        obtain ⟨result, kept⟩ := ih tail closed
        rw [call_shared]
        exact ⟨result, kept.cons _⟩
      | slow inner clock =>
        obtain ⟨result, kept⟩ := ih tail closed
        obtain ⟨answered, left⟩ := call_slow rest key inner clock (c := .close) rfl
        rw [answered, left]
        exact ⟨result, kept.cons _⟩
      | view v =>
        cases held : v.file with
        | none =>
          rw [call_view_closed rest key held]
          exact ⟨rfl, .refl _⟩
        | some file =>
          simp only [held] at closed
          -- The file is closed, whether or not it is closed once more.
          have closing : (if handles rest file = 1 then call rest file .close
                else .ofResult (.ok ()) rest).result = .ok () ∧
              Kept rest (if handles rest file = 1 then call rest file .close
                else .ofResult (.ok ()) rest).streams := by
            split
            · exact ih tail closed
            · exact ⟨rfl, .refl rest⟩
          obtain ⟨result, kept⟩ := closing
          simp only [call, if_true, held]
          have released := kept.setHandles (· - 1) file
          refine ⟨result, .cons ⟨rfl, .givenUp v⟩ released.data, fun name => ?_⟩
          by_cases here : key = name
          · simp only [Streams.isClosed, if_pos here, held, closed]
          · simp only [Streams.isClosed, if_neg here]
            exact released.closed name
    · simp only [Streams.isClosed, if_neg same] at closed
      obtain ⟨result, kept⟩ := ih tail closed
      rw [call_other rest same]
      exact ⟨result, kept.cons _⟩

end Streams

end ByteStreams
