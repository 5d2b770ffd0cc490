import Mathlib.Tactic.Lemma
import Mathlib.Tactic.TypeStar

/-!
# Runs

A machine takes an input in a state, answers it and goes on to another state.  `Machine.final` is
the state after a list of inputs, `Machine.transcript` the inputs with their answers.

Two inductions on the inputs are made here once.  `Machine.run_induction` shows of every run what
holds at the start and is kept by each step, where what is kept may speak of the transcript so far;
`Machine.run_simulation` compares two machines step by step.  `Machine.run_erase` compares a run
with the one that is left when silent inputs are erased from it.
-/

namespace ByteStreams

/-- A machine answers an input and goes on to another state. -/
abbrev Machine (ι ο σ : Type*) := ι → σ → ο × σ

namespace Machine

variable {ι ο σ τ : Type*}

/-- The state after a list of inputs. -/
def final (m : Machine ι ο σ) : List ι → σ → σ
  | [], s => s
  | i :: inputs, s => m.final inputs (m i s).2

/-- The inputs, each with its answer. -/
def transcript (m : Machine ι ο σ) : List ι → σ → List (ι × ο)
  | [], _ => []
  | i :: inputs, s => (i, (m i s).1) :: m.transcript inputs (m i s).2

/-- Two runs, one after the other. -/
lemma final_append (m : Machine ι ο σ) (earlier later : List ι) (s : σ) :
    m.final (earlier ++ later) s = m.final later (m.final earlier s) := by
  induction earlier generalizing s with
  | nil => rfl
  | cons i earlier ih => exact ih (m i s).2

/-- A run from the state that another run has led to continues its transcript. -/
lemma transcript_append (m : Machine ι ο σ) (earlier later : List ι) (s : σ) :
    m.transcript (earlier ++ later) s =
      m.transcript earlier s ++ m.transcript later (m.final earlier s) := by
  induction earlier generalizing s with
  | nil => rfl
  | cons i earlier ih => exact congrArg ((i, (m i s).1) :: ·) (ih (m i s).2)

/-- The inputs of a transcript. -/
@[simp] lemma map_fst_transcript (m : Machine ι ο σ) (inputs : List ι) (s : σ) :
    (m.transcript inputs s).map Prod.fst = inputs := by
  induction inputs generalizing s with
  | nil => rfl
  | cons i inputs ih => exact congrArg (i :: ·) (ih (m i s).2)

/-- The step of a run induction, seen from the middle of a run: `past` is the transcript so far. -/
lemma run_induction_from {m : Machine ι ο σ} {motive : List (ι × ο) → σ → Prop}
    (step : ∀ past s i, motive past s → motive (past ++ [(i, (m i s).1)]) (m i s).2)
    (inputs : List ι) (past : List (ι × ο)) (s : σ) (now : motive past s) :
    motive (past ++ m.transcript inputs s) (m.final inputs s) := by
  induction inputs generalizing past s with
  | nil => simpa [transcript, final] using now
  | cons i inputs ih =>
    have later := ih (past ++ [(i, (m i s).1)]) (m i s).2 (step past s i now)
    simpa [transcript, final] using later

/-- **Run induction.**  What holds at the start and is kept by each step holds after every run,
together with the transcript of the run. -/
theorem run_induction {m : Machine ι ο σ} {motive : List (ι × ο) → σ → Prop} {s : σ}
    (start : motive [] s)
    (step : ∀ past s i, motive past s → motive (past ++ [(i, (m i s).1)]) (m i s).2)
    (inputs : List ι) : motive (m.transcript inputs s) (m.final inputs s) :=
  run_induction_from step inputs [] s start

/-- **Simulation.**  If related states answer every admissible input alike and go on to related
states, then runs from related states have one transcript and end in related states. -/
theorem run_simulation {m : Machine ι ο σ} {n : Machine ι ο τ} {R : σ → τ → Prop}
    {admissible : ι → Prop}
    (step : ∀ i s t, admissible i → R s t → (m i s).1 = (n i t).1 ∧ R (m i s).2 (n i t).2)
    {inputs : List ι} (all : ∀ i ∈ inputs, admissible i) {s : σ} {t : τ} (related : R s t) :
    m.transcript inputs s = n.transcript inputs t ∧ R (m.final inputs s) (n.final inputs t) := by
  induction inputs generalizing s t with
  | nil => exact ⟨rfl, related⟩
  | cons i inputs ih =>
    obtain ⟨same, next⟩ := step i s t (all i List.mem_cons_self) related
    obtain ⟨later, last⟩ := ih (fun j hj => all j (List.mem_cons_of_mem i hj)) next
    refine ⟨?_, last⟩
    unfold transcript
    rw [same, later]

/-- **Erasure.**  Suppose that related states answer every input that is not silent alike and go on
to related states, and that a silent input leads to a state related to the same ones.  Then what a
run answers to the inputs that are not silent is what a run on those inputs alone answers. -/
theorem run_erase {m : Machine ι ο σ} {R : σ → σ → Prop} {silent : ι → Bool}
    (quiet : ∀ i s t, silent i = true → R s t → R (m i s).2 t)
    (step : ∀ i s t, silent i = false → R s t → (m i s).1 = (m i t).1 ∧ R (m i s).2 (m i t).2)
    (inputs : List ι) {s t : σ} (related : R s t) :
    (m.transcript inputs s).filter (fun e => !silent e.1) =
        m.transcript (inputs.filter fun i => !silent i) t ∧
      R (m.final inputs s) (m.final (inputs.filter fun i => !silent i) t) := by
  induction inputs generalizing s t with
  | nil => exact ⟨rfl, related⟩
  | cons i inputs ih =>
    cases h : silent i with
    | true =>
      have later := ih (quiet i s t h related)
      simpa [transcript, final, h] using later
    | false =>
      obtain ⟨same, next⟩ := step i s t h related
      have later := ih next
      simpa [transcript, final, h, same] using later

end Machine

end ByteStreams
