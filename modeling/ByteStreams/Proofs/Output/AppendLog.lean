import ByteStreams.Proofs.Output.Append
import Mathlib.Data.List.DropRight

/-!
# An append stream is an append-only log

The transcript of a run falls into generations, which a successful reset separates.  The log of a
generation is the concatenation of the data that its successful writes were given (`logOf`); what
the generation leaves in its block once it is closed is its log, or nothing if the log has been
handed out (`leftBy`).  Both are read off the transcript alone.

`Tracks start past s` is the invariant of a run from `start` to `s`: the stream stands as the last
generation of the transcript says, and a borrowed block that a reset has replaced holds what the
first generation left.  `append_stream_refines_log` reads the promises of the stream off it.
-/

namespace ByteStreams.AppendStream

/-! ### Generations of a transcript -/

/-- The data that an operation has appended, given its reply. -/
def accepted (e : Request × Reply) : Bytes := if e.2.succeeded then e.1.operation.data else []

/-- A successful reset. -/
def reopens (e : Request × Reply) : Bool :=
  match e.1.operation with
  | .reset _ => e.2.succeeded
  | _ => false

/-- A successful finish. -/
def handsOut (e : Request × Reply) : Bool :=
  match e.1.operation with
  | .finish _ => e.2.succeeded
  | _ => false

/-- What comes before the first successful reset. -/
def firstGeneration (past : List (Request × Reply)) : List (Request × Reply) :=
  past.takeWhile fun e => !reopens e

/-- What comes after the last successful reset. -/
def lastGeneration (past : List (Request × Reply)) : List (Request × Reply) :=
  past.rtakeWhile fun e => !reopens e

/-- The data of all successful writes, one after the other. -/
def logOf (generation : List (Request × Reply)) : Bytes := generation.flatMap accepted

/-- What a generation leaves in its block: its log, if that has not been handed out. -/
def leftBy (generation : List (Request × Reply)) : Bytes :=
  remains (logOf generation) (generation.any handsOut)

variable {past : List (Request × Reply)} {e : Request × Reply}

/-- A successful reset begins a new generation, any other operation continues the last one. -/
lemma lastGeneration_concat (past : List (Request × Reply)) (e : Request × Reply) :
    lastGeneration (past ++ [e]) = if reopens e then [] else lastGeneration past ++ [e] := by
  unfold lastGeneration
  rw [List.rtakeWhile_concat]
  cases reopens e <;> rfl

/-- As long as no reset has succeeded, there is one generation. -/
lemma firstGeneration_eq_self (h : ∀ e ∈ past, reopens e = false) :
    firstGeneration past = past := by
  unfold firstGeneration
  rw [List.takeWhile_eq_self_iff]
  intro e he
  simp [h e he]

/-- As long as no reset has succeeded, the first generation is the last one. -/
lemma lastGeneration_eq_self (h : ∀ e ∈ past, reopens e = false) : lastGeneration past = past := by
  unfold lastGeneration
  rw [List.rtakeWhile_eq_self_iff]
  intro e he
  simp [h e he]

/-- Once a reset has succeeded, the first generation is over. -/
lemma firstGeneration_append (h : ∃ e ∈ past, reopens e = true) (later : List (Request × Reply)) :
    firstGeneration (past ++ later) = firstGeneration past := by
  obtain ⟨e, he, hr⟩ := h
  induction past with
  | nil => cases he
  | cons d past ih =>
    cases hd : reopens d with
    | true => simp [firstGeneration, hd]
    | false =>
      have later : e ∈ past := by
        rcases List.mem_cons.mp he with rfl | he
        · simp [hr] at hd
        · exact he
      simpa [firstGeneration, hd] using ih later

/-- The first successful reset ends the first generation, which is all that came before it. -/
lemma firstGeneration_concat_reopens (h : ∀ d ∈ past, reopens d = false) (he : reopens e = true) :
    firstGeneration (past ++ [e]) = past := by
  have all : ∀ d ∈ past, (!reopens d) = true := fun d hd => by simp [h d hd]
  unfold firstGeneration
  rw [List.takeWhile_append_of_pos all]
  simp [he]

/-! ### One step -/

/-- The log after an operation. -/
def logAfter (log : Bytes) (e : Request × Reply) : Bytes :=
  if reopens e then [] else log ++ accepted e

/-- Whether the log has been handed out after an operation. -/
def finishedAfter (finished : Bool) (e : Request × Reply) : Bool :=
  if reopens e then false else finished || handsOut e

/-- The log of the last generation grows by what the last operation has appended. -/
lemma logOf_lastGeneration_concat (past : List (Request × Reply)) (e : Request × Reply) :
    logOf (lastGeneration (past ++ [e])) = logAfter (logOf (lastGeneration past)) e := by
  rw [lastGeneration_concat]
  unfold logAfter logOf
  cases reopens e <;> simp

/-- Whether the last generation is finished depends on the last operation only by what it hands
out. -/
lemma any_lastGeneration_concat (past : List (Request × Reply)) (e : Request × Reply) :
    (lastGeneration (past ++ [e])).any handsOut =
      finishedAfter ((lastGeneration past).any handsOut) e := by
  rw [lastGeneration_concat]
  unfold finishedAfter
  cases reopens e <;> simp

variable {s : AppendStream} {log : Bytes} {finished : Bool}

/-- What one operation does to a stream and its log: the step of all runs.  The origin of the block
changes only when the stream is opened again. -/
structure StepsTo (s : AppendStream) (log : Bytes) (finished : Bool) (r : Request) : Prop where
  stands : Stands (machine r s).2 (logAfter log (r, (machine r s).1))
    (finishedAfter finished (r, (machine r s).1))
  origin : (machine r s).2.origin =
    if reopens (r, (machine r s).1) then s.origin.replacing (s.close r.allocator).2.target
    else s.origin

/-- An operation that neither reopens the stream nor hands its log out appends to the log what it
accepts. -/
lemma StepsTo.of_run {r : Request} {reply : Reply} {t : AppendStream}
    (run : machine r s = (reply, t)) (reopened : reopens (r, reply) = false)
    (handed : handsOut (r, reply) = false) (stands : Stands t (log ++ accepted (r, reply)) finished)
    (origin : t.origin = s.origin) : StepsTo s log finished r := by
  constructor
  · rw [run]
    simpa [logAfter, finishedAfter, reopened, handed] using stands
  · rw [run]
    simpa [reopened] using origin

/-- An operation that writes its data, and replies with a success exactly if the write succeeds. -/
lemma StepsTo.of_write (h : Stands s log finished) {r : Request}
    (state : (machine r s).2 = (s.write r.allocator r.operation.data).2)
    (reply : (machine r s).1.succeeded = (s.write r.allocator r.operation.data).1.isOk)
    (reopened : reopens (r, (machine r s).1) = false)
    (handed : handsOut (r, (machine r s).1) = false) : StepsTo s log finished r := by
  have run : machine r s = ((machine r s).1, (machine r s).2) := rfl
  refine .of_run run reopened handed ?_ ?_
  · rw [state]
    rcases h.write r.allocator r.operation.data with ⟨e, refused⟩ | ⟨t, written, stands, _⟩
    · simpa [accepted, reply, refused, Except.isOk, Except.toBool] using h
    · simpa [accepted, reply, written, Except.isOk, Except.toBool] using stands
  · rw [state]
    rcases h.write r.allocator r.operation.data with ⟨e, refused⟩ | ⟨t, written, _, origin⟩
    · rw [refused]
    · rw [written]
      exact origin

/-- An operation that leaves the stream as it is and has no data. -/
lemma StepsTo.of_quiet (h : Stands s log finished) {r : Request}
    (state : (machine r s).2 = s) (data : r.operation.data = [])
    (reopened : reopens (r, (machine r s).1) = false)
    (handed : handsOut (r, (machine r s).1) = false) : StepsTo s log finished r := by
  have run : machine r s = ((machine r s).1, s) := Prod.ext rfl state
  refine .of_run run reopened handed ?_ rfl
  simpa [accepted, data] using h

/-- **One step.**  Every operation takes a stream that stands as its log says to one that stands as
the log after the operation says. -/
lemma Stands.step (h : Stands s log finished) (r : Request) : StepsTo s log finished r := by
  obtain ⟨a, operation⟩ := r
  cases operation with
  | call c =>
    cases c with
    | write data => exact .of_write h rfl (OutputCall.succeeded_reply _ _) rfl rfl
    | writeBuffer source => exact .of_write h rfl (OutputCall.succeeded_reply _ _) rfl rfl
    | flush => exact .of_quiet h rfl rfl rfl rfl
    | tell => exact .of_quiet h rfl rfl rfl rfl
    | checkOpen during => exact .of_quiet h rfl rfl rfl rfl
    | isClosed => exact .of_quiet h rfl rfl rfl rfl
    | close =>
      obtain ⟨t, closing, isClosed, left, origin⟩ := h.close a
      have run : machine ⟨a, .call .close⟩ s = (.done, t) := by
        simp [machine, AppendStream.call, closing, OutputCall.reply, Reply.ofResult,
          OutputCall.answer]
      refine .of_run run rfl rfl (.closed isClosed ?_) origin
      simpa [accepted, Operation.data, OutputCall.data] using left
  | channelWrite data =>
    exact .of_write h rfl (Reply.succeeded_ofChannel (fun _ => rfl) _ _) rfl rfl
  | finish tag =>
    rcases h.finish a tag with ⟨isClosed, refused⟩ | ⟨isOpen, unfinished, t, handed, isClosed,
      empty, origin⟩
    · have run : machine ⟨a, .finish tag⟩ s = (.failed (.closed .finish), s) := by
        simp [machine, refused, Reply.ofResult]
      refine .of_run run rfl rfl ?_ rfl
      simpa [accepted, Reply.succeeded] using h
    · have run : machine ⟨a, .finish tag⟩ s = (.buffer (.ofBytes tag log), t) := by
        simp [machine, handed, Reply.ofResult]
      constructor
      · rw [run]
        refine .closed isClosed ?_
        simp [empty, remains, finishedAfter, reopens, handsOut, Reply.succeeded]
      · rw [run]
        simpa [reopens] using origin
  | reset capacity =>
    obtain ⟨t, closing, stands, origin, ⟨e, failed⟩ | ⟨u, reopened, fresh, replaced⟩⟩ :=
      h.reset a capacity
    · have run : machine ⟨a, .reset capacity⟩ s = (.failed e, t) := by
        simp [machine, failed, Reply.ofResult]
      refine .of_run run rfl rfl ?_ origin
      simpa [accepted, Reply.succeeded] using stands
    · have run : machine ⟨a, .reset capacity⟩ s = (.done, u) := by
        simp [machine, reopened, Reply.ofResult]
      constructor
      · rw [run]
        simpa [logAfter, finishedAfter, reopens, Reply.succeeded] using fresh
      · rw [run]
        simpa [reopens, Reply.succeeded, closing] using replaced

/-! ### Whole runs -/

/-- Where the block of a stream comes from, after a run from `start` with the transcript `past`.  A
borrowed block that a reset has replaced holds what the first generation left in it. -/
inductive Lends (start : AppendStream) (past : List (Request × Reply)) : Origin → Prop where
  | owned (own : start.origin = .owned) : Lends start past .owned
  | borrowed (lent : start.origin = .borrowed) (unbroken : ∀ e ∈ past, reopens e = false) :
      Lends start past .borrowed
  | replaced {target : Block} (lent : start.origin = .borrowed)
      (broken : ∃ e ∈ past, reopens e = true)
      (left : target.bytes = leftBy (firstGeneration past)) : Lends start past (.replaced target)

/-- The invariant of runs from `start`. -/
structure Tracks (start : AppendStream) (past : List (Request × Reply)) (s : AppendStream) :
    Prop where
  stands : Stands s (logOf (lastGeneration past)) ((lastGeneration past).any handsOut)
  lends : Lends start past s.origin

/-- An operation that is no successful reset leaves the lending as it is. -/
lemma Lends.continue {start : AppendStream} {o : Origin} (h : Lends start past o)
    (he : reopens e = false) : Lends start (past ++ [e]) o := by
  cases h with
  | owned own => exact .owned own
  | borrowed lent unbroken =>
    refine .borrowed lent fun d hd => ?_
    rcases List.mem_append.mp hd with old | new
    · exact unbroken d old
    · rw [List.mem_singleton.mp new]
      exact he
  | replaced lent broken left =>
    refine .replaced lent ?_ ?_
    · obtain ⟨d, hd, hr⟩ := broken
      exact ⟨d, List.mem_append_left [e] hd, hr⟩
    · rw [firstGeneration_append broken]
      exact left

/-- A successful reset gives a borrowed block back for good, with what the generation left in it. -/
lemma Lends.reopen {start : AppendStream} {o : Origin} (h : Lends start past o)
    (he : reopens e = true) {target : Block} (left : target.bytes = leftBy (lastGeneration past)) :
    Lends start (past ++ [e]) (o.replacing target) := by
  have broken : ∃ d ∈ past ++ [e], reopens d = true :=
    ⟨e, List.mem_append_right past (List.mem_singleton.mpr rfl), he⟩
  cases h with
  | owned own => exact .owned own
  | borrowed lent unbroken =>
    refine .replaced lent broken ?_
    rw [firstGeneration_concat_reopens unbroken he, left, lastGeneration_eq_self unbroken]
  | replaced lent earlier kept =>
    refine .replaced lent broken ?_
    rw [firstGeneration_append earlier]
    exact kept

/-- Each operation keeps the invariant. -/
lemma Tracks.step {start : AppendStream} (h : Tracks start past s) (r : Request) :
    Tracks start (past ++ [(r, (machine r s).1)]) (machine r s).2 := by
  have one := h.stands.step r
  constructor
  · rw [logOf_lastGeneration_concat, any_lastGeneration_concat]
    exact one.stands
  · rw [one.origin]
    cases he : reopens (r, (machine r s).1) with
    | false => exact h.lends.continue he
    | true =>
      obtain ⟨t, closing, _, left, _⟩ := h.stands.close r.allocator
      refine h.lends.reopen he ?_
      rw [closing]
      exact left

/-- A stream that has just been made, on a block of its own or over a borrowed one. -/
inductive Made : AppendStream → Prop where
  | create {a : Allocator} {capacity : Nat} {s : AppendStream} (made : create a capacity = .ok s) :
      Made s
  | wrap (target : Block) : Made (wrap target)

/-- The invariant holds of a new stream. -/
lemma Made.tracks {start : AppendStream} (h : Made start) : Tracks start [] start := by
  cases h with
  | create made =>
    unfold AppendStream.create at made
    split at made
    · cases made
      exact ⟨Stands.fresh rfl rfl, .owned rfl⟩
    · cases made
  | wrap target =>
    refine ⟨Stands.fresh rfl rfl, .borrowed rfl ?_⟩
    intro e he
    cases he

/-- The invariant holds after every run. -/
theorem Made.tracks_run {start : AppendStream} (h : Made start) (requests : List Request) :
    Tracks start (machine.transcript requests start) (machine.final requests start) :=
  Machine.run_induction h.tracks (fun _ _ r now => now.step r) requests

/-- What a dropped stream gives back: nothing if the block was its own, and else the borrowed block
with what the first generation left in it. -/
lemma Tracks.released {start : AppendStream} (h : Tracks start past s) (a : Allocator)
    (lent : start.origin = .borrowed) :
    ∃ b, s.released? a = some b ∧ b.bytes = leftBy (firstGeneration past) := by
  have lends := h.lends
  unfold released?
  generalize s.origin = o at lends
  cases lends with
  | owned own => simp [own] at lent
  | borrowed _ unbroken =>
    obtain ⟨t, closing, _, left, _⟩ := h.stands.close a
    refine ⟨t.target, by rw [closing], ?_⟩
    rw [firstGeneration_eq_self unbroken, left, lastGeneration_eq_self unbroken]
    rfl
  | replaced _ _ left => exact ⟨_, rfl, left⟩

/-- What an append stream promises when its present generation has accepted the bytes `log`. -/
structure BehavesAsLog (log : Bytes) (s : AppendStream) : Prop where
  /-- An open stream tells the length of the log, has room for it and holds it at the start of its
  block, whose length is the capacity. -/
  opened : s.closed = false →
    (∀ a, (s.call a .tell).1 = .ok (log.length : Int)) ∧ log.length ≤ s.capacity ∧
      s.capacity = s.target.bytes.length ∧ s.target.bytes.take log.length = log
  /-- An open stream can be finished. -/
  finishes : s.closed = false → ∀ a tag, ∃ b, (s.finish a tag).1 = .ok b
  /-- What is handed out is the log; the stream is closed then and its block empty. -/
  finished : ∀ a tag b, (s.finish a tag).1 = .ok b →
    b.content = log ∧ (s.finish a tag).2.target.bytes = [] ∧ (s.finish a tag).2.closed = true
  /-- Closing succeeds whatever the allocator refuses.  It leaves the log as the block of an open
  stream, and a closed stream as it is. -/
  closes : ∀ a, (s.close a).1 = .ok () ∧ (s.close a).2.closed = true ∧
    (s.closed = false → (s.close a).2.target.bytes = log) ∧ (s.closed = true → (s.close a).2 = s)

/-- A stream that stands as its log says behaves as the log. -/
lemma Stands.behavesAsLog (h : Stands s log finished) : BehavesAsLog log s where
  opened isOpen := by
    cases h with
    | opened _ cursor kept _ =>
      refine ⟨fun a => ?_, kept.length_le, rfl, (List.prefix_iff_eq_take.mp kept).symm⟩
      simp [AppendStream.call, whenOpen, isOpen, cursor]
    | closed isClosed _ => simp [isOpen] at isClosed
  finishes isOpen a tag := by
    rcases h.finish a tag with ⟨isClosed, _⟩ | ⟨_, _, t, handed, _⟩
    · simp [isOpen] at isClosed
    · exact ⟨_, by rw [handed]⟩
  finished a tag b handed := by
    rcases h.finish a tag with ⟨_, refused⟩ | ⟨_, _, t, done, isClosed, empty, _⟩
    · simp [refused] at handed
    · rw [done] at handed ⊢
      cases handed
      exact ⟨Buffer.content_ofBytes tag log, by rw [empty], isClosed⟩
  closes a := by
    obtain ⟨t, closing, isClosed, left, _⟩ := h.close a
    refine ⟨by rw [closing], by rw [closing]; exact isClosed, fun isOpen => ?_, fun closed => ?_⟩
    · cases h with
      | opened _ _ _ unfinished => simpa [closing, remains, unfinished] using left
      | closed closed _ => simp [isOpen] at closed
    · rw [close_of_closed closed]

/-- **An append stream refines an append-only log.**  Take any run from a new stream, with any
operations in any order, any arguments and any reservations refused.  After it the stream behaves as
the log of its last generation.  If it was made over a borrowed block, dropping it gives that block
back with what its first generation left: its log, or nothing if the log was handed out. -/
theorem append_stream_refines_log {start : AppendStream} (made : Made start)
    (requests : List Request) :
    BehavesAsLog (logOf (lastGeneration (machine.transcript requests start)))
        (machine.final requests start) ∧
      (start.origin = .borrowed → ∀ a, ∃ b,
        (machine.final requests start).released? a = some b ∧
          b.bytes = leftBy (firstGeneration (machine.transcript requests start))) := by
  have tracks := made.tracks_run requests
  exact ⟨tracks.stands.behavesAsLog, fun lent a => tracks.released a lent⟩

/-- A run over a borrowed block: two bytes, a refused reset, a granted one, and one byte. -/
def resetRun : List Request :=
  [⟨.below 8, .call (.write [1, 2])⟩, ⟨.below 8, .reset 8⟩, ⟨.below 8, .reset 4⟩,
    ⟨.below 8, .call (.write [3])⟩]

/-- After that run the log has the one byte, and the borrowed block comes back with the two. -/
theorem resetRun_refines_log :
    Made (wrap (.ofBytes [9, 9, 9])) ∧
      BehavesAsLog [3] (machine.final resetRun (wrap (.ofBytes [9, 9, 9]))) ∧
      ∃ b, (machine.final resetRun (wrap (.ofBytes [9, 9, 9]))).released? ⟨fun _ => false⟩ =
          some b ∧
        b.bytes = [1, 2] := by
  have made : Made (wrap (.ofBytes [9, 9, 9])) := .wrap _
  obtain ⟨behaves, released⟩ := append_stream_refines_log made resetRun
  exact ⟨made, behaves, released rfl ⟨fun _ => false⟩⟩

end ByteStreams.AppendStream
