import ByteStreams.Session.Make
import ByteStreams.Session.Memory
import ByteStreams.Session.Reading
import ByteStreams.Session.Writing

/-!
# Running a session

A step sends a command to an object, keeps under another id what the object gives out, and shows how
the object stands afterwards, whether the command failed or not. A session is run by its steps in
order (`outcomes`).
-/

namespace ByteStreams.Session

open SessionM

/-- The answer of the object that a step is addressed to. An id in use cannot be used for a new
object. -/
def answer (step : Step) : SessionM Answer := do
  match step.command with
  | .make maker =>
    if ((← get).find? step.id).isSome then throw .misuse
    adopt step.id (← create maker)
    return {}
  | .drop => perform (discard step.id)
  | command =>
    match ← object step.id with
    | .buffer b => answerBuffer b command
    | .block b => answerBlock step.id b command
    | .append s lender => answerAppend step.id s lender command
    | .fixed w spare => answerFixed step.id w spare command
    | .counter s => answerCounter step.id s command
    | .stream name => answerStream step.id name step.inside command
    | .handle file reader => answerHandle file reader command
    | .chunks c => answerChunks step.id c step.inside command
    | .clock name => answerClock name command

/-- The value that a step answers. What the object gives out is kept if the step says where. -/
def value (step : Step) : SessionM Value := do
  let answer ← answer step
  match step.save, answer.made with
  | some id, some made => adopt id made
  | _, _ => pure ()
  return answer.value

/-- What comes of one step. -/
def run (step : Step) : StateM Session Outcome := do
  let result ← (value step).run
  return ⟨result, (← get).status? step.id⟩

/-- What comes of all steps of a new session. -/
def outcomes (allocator : Allocator) (steps : List Step) : List Outcome :=
  ((steps.mapM run).run { allocator }).1

end ByteStreams.Session
