import ByteStreams.Error
import ByteStreams.Proofs.Run

/-!
# What closing means

All streams that can be closed obey one law.  A closed stream refuses whatever needs it open, and is
not changed by that; what it can still be asked or told succeeds and leaves it as it is, as far as
that can be seen; and it stays closed.  An open stream refuses nothing for being closed.  A stream
that is asked whether it is closed tells the truth.

`ClosedLaw` is this law for a machine in a state.  It is told which inputs need the stream open
(`Role`), which of them ask whether it is closed and what is told then, which answers say that the
stream is closed, and what it means for two states to be the same as far as can be seen.
-/

namespace ByteStreams

/-- What an input means to a stream that may be closed. -/
inductive Role where
  /-- It needs the stream open. -/
  | works
  /-- It asks or sets something, or closes the stream. -/
  | harmless
  /-- It opens the stream again. -/
  | reopens
  /-- It is about other streams. -/
  | elsewhere
  deriving DecidableEq, Repr

/-- The operation failed because the stream is closed. -/
def failsAsClosed {α : Type} : Except Error α → Bool
  | .ok _ => false
  | .error e => e.kind = .closed

/-- A result that is no such failure. -/
lemma failsAsClosed_eq_false {α : Type} {result : Except Error α}
    (other : ∀ e, result = .error e → e.kind ≠ .closed) : failsAsClosed result = false := by
  cases result with
  | ok a => rfl
  | error e => exact decide_eq_false (other e rfl)

variable {ι ο σ : Type*}

/-- The law of closed streams, for a state of a machine. -/
structure ClosedLaw (m : Machine ι ο σ) (isClosed : σ → Bool) (role : ι → Role) (asks : ι → Bool)
    (told? : ο → Option Bool) (saysClosed succeeded : ο → Bool) (Kept : σ → σ → Prop) (s : σ) :
    Prop where
  /-- Asked whether it is closed, the stream tells, and stays as it is. -/
  tells : ∀ i, asks i = true → told? (m i s).1 = some (isClosed s) ∧ (m i s).2 = s
  /-- What needs the stream open fails, because it is closed, and changes nothing. -/
  refuses : isClosed s = true → ∀ i, role i = .works →
    saysClosed (m i s).1 = true ∧ (m i s).2 = s
  /-- Anything else succeeds and changes nothing that matters; closing again is of this kind. -/
  keeps : isClosed s = true → ∀ i, role i = .harmless →
    succeeded (m i s).1 = true ∧ Kept s (m i s).2
  /-- The stream stays closed for the rest of the run, unless it is opened again. -/
  stays : isClosed s = true → ∀ inputs, (∀ i ∈ inputs, role i ≠ .reopens) →
    isClosed (m.final inputs s) = true
  /-- An open stream does not fail for being closed. -/
  opened : isClosed s = false → ∀ i, role i ≠ .elsewhere → saysClosed (m i s).1 = false

/-- What no step opens stays closed. -/
lemma Machine.final_closed {m : Machine ι ο σ} {isClosed : σ → Bool} {role : ι → Role}
    (step : ∀ s i, isClosed s = true → role i ≠ .reopens → isClosed (m i s).2 = true)
    (inputs : List ι) (shut : ∀ i ∈ inputs, role i ≠ .reopens) {s : σ}
    (closed : isClosed s = true) : isClosed (m.final inputs s) = true := by
  induction inputs generalizing s with
  | nil => exact closed
  | cons i inputs ih =>
    have next := step s i closed (shut i List.mem_cons_self)
    exact ih (fun j member => shut j (List.mem_cons_of_mem i member)) next

/-- The law of a stream of its own: four facts about a single step give it in every state. -/
lemma ClosedLaw.of_steps {m : Machine ι ο σ} {isClosed : σ → Bool} {role : ι → Role}
    {asks : ι → Bool} {told? : ο → Option Bool} {saysClosed succeeded : ο → Bool}
    {Kept : σ → σ → Prop}
    (tells : ∀ s i, asks i = true → told? (m i s).1 = some (isClosed s) ∧ (m i s).2 = s)
    (refuses : ∀ s i, isClosed s = true → role i = .works →
      saysClosed (m i s).1 = true ∧ (m i s).2 = s)
    (keeps : ∀ s i, isClosed s = true → role i = .harmless →
      succeeded (m i s).1 = true ∧ Kept s (m i s).2 ∧ isClosed (m i s).2 = true)
    (opened : ∀ s i, isClosed s = false → saysClosed (m i s).1 = false)
    (alone : ∀ i, role i ≠ .elsewhere) (s : σ) :
    ClosedLaw m isClosed role asks told? saysClosed succeeded Kept s where
  tells := tells s
  refuses closed i works := refuses s i closed works
  keeps closed i harmless :=
    have kept := keeps s i closed harmless
    ⟨kept.1, kept.2.1⟩
  stays closed inputs shut := by
    refine Machine.final_closed (fun s i closed shut => ?_) inputs shut closed
    cases is : role i with
    | works =>
      rw [(refuses s i closed is).2]
      exact closed
    | harmless => exact (keeps s i closed is).2.2
    | reopens => exact absurd is shut
    | elsewhere => exact absurd is (alone i)
  opened isOpen i _ := opened s i isOpen

end ByteStreams
