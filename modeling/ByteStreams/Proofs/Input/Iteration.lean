import ByteStreams.Input.Chunks
import ByteStreams.Proofs.Input.Unreliable
import ByteStreams.Proofs.Run

/-!
# Asking for chunk after chunk

A sequence of chunks is asked for one chunk after the other, and its stream is everybody's.  Between
two askings it may be read by others, be closed, or be exchanged for a stream of another kind, and
what its reads answer is its own affair.  So nothing at all is known of the streams that the next
asking finds.

What an asking does is told by the answers so far: the sequence is done once one of them was the
end.  `Follows` says what it does then, what it does if the stream is closed, and that otherwise it
makes one read and hands on what comes of it.  `chunks_follow_answers` shows this after every run of
askings and changes.  Asking for an item in a loop is asking for a chunk, in other words
(`item_eq_none_iff`).
-/

namespace ByteStreams

namespace Chunks

variable {streams : Streams} {name size : Nat} {b : Buffer}

/-! ### One asking -/

/-- The sequence that reads the stream of a name, as long as it is not done. -/
def standing (name size : Nat) (done : Bool) : Chunks := ⟨if done then none else some name, size⟩

/-- The sequence of an open stream reads it from now on. -/
lemma ofStream_eq_ok_iff {c : Chunks} :
    ofStream streams name size = .ok c ↔
      streams.isClosed name = false ∧ 0 < size ∧ c = standing name size false := by
  unfold ofStream
  cases streams.isClosed name with
  | true => simp
  | false =>
    by_cases empty : size = 0
    · simp [empty]
    · simp [empty, standing, Nat.pos_of_ne_zero empty, eq_comm]

/-- A sequence that is done has reached the end for good. -/
lemma next_done (streams : Streams) (name size : Nat) :
    (standing name size true).next streams =
      (⟨.ok none, streams, []⟩, standing name size true) := rfl

/-- A closed stream is not read. -/
lemma next_closed (shut : streams.isClosed name = true) :
    (standing name size false).next streams =
      (⟨.error (.error (.invalid .iterate "stream closed during iteration")), streams, []⟩,
        standing name size false) := by
  simp only [standing, next, Bool.false_eq_true, if_false, shut, if_true]
  rfl

/-- A read that fails. -/
lemma next_failed (isOpen : streams.isClosed name = false) {fault : Fault}
    (failed : (streams.call name (.read size)).result = .error fault) :
    (standing name size false).next streams =
      (⟨.error (fault.during .iterate), (streams.call name (.read size)).streams,
        (streams.call name (.read size)).draws⟩, standing name size false) := by
  simp only [standing, next, Bool.false_eq_true, if_false, isOpen, failed]

/-- A read that gets bytes. -/
lemma next_chunk (isOpen : streams.isClosed name = false)
    (answered : (streams.call name (.read size)).result = .ok b) (some : 0 < b.length) :
    (standing name size false).next streams =
      (⟨.ok (.some b), (streams.call name (.read size)).streams,
        (streams.call name (.read size)).draws⟩, standing name size false) := by
  have full : b.length ≠ 0 := Nat.ne_of_gt some
  simp only [standing, next, Bool.false_eq_true, if_false, isOpen, answered, full]

/-- A read that gets nothing. -/
lemma next_last (isOpen : streams.isClosed name = false)
    (answered : (streams.call name (.read size)).result = .ok b) (empty : b.length = 0) :
    (standing name size false).next streams =
      (⟨.ok none, (streams.call name (.read size)).streams,
        (streams.call name (.read size)).draws⟩, standing name size true) := by
  simp only [standing, next, Bool.false_eq_true, if_false, isOpen, answered, empty, if_true]

/-- Before the end there are these four cases. -/
lemma next_induction {motive : Served (Option Buffer) × Chunks → Prop}
    (closed : streams.isClosed name = true →
      motive (⟨.error (.error (.invalid .iterate "stream closed during iteration")), streams, []⟩,
        standing name size false))
    (failed : ∀ fault : Fault, motive (⟨.error (fault.during .iterate),
      (streams.call name (.read size)).streams, (streams.call name (.read size)).draws⟩,
        standing name size false))
    (chunk : ∀ b, motive (⟨.ok (some b), (streams.call name (.read size)).streams,
      (streams.call name (.read size)).draws⟩, standing name size false))
    (last : motive (⟨.ok none, (streams.call name (.read size)).streams,
      (streams.call name (.read size)).draws⟩, standing name size true)) :
    motive ((standing name size false).next streams) := by
  cases shut : streams.isClosed name with
  | true =>
    rw [next_closed shut]
    exact closed shut
  | false =>
    cases answered : (streams.call name (.read size)).result with
    | error fault =>
      rw [next_failed shut answered]
      exact failed fault
    | ok b =>
      rcases Nat.eq_zero_or_pos b.length with empty | some
      · rw [next_last shut answered empty]
        exact last
      · rw [next_chunk shut answered some]
        exact chunk b

/-- A sequence that is neither done nor finds its stream closed makes one read. -/
lemma next_open (size : Nat) (isOpen : streams.isClosed name = false) :
    ((standing name size false).next streams).1.streams =
        (streams.call name (.read size)).streams ∧
      ((standing name size false).next streams).1.draws =
        (streams.call name (.read size)).draws := by
  refine next_induction (motive := fun asked =>
    asked.1.streams = (streams.call name (.read size)).streams ∧
      asked.1.draws = (streams.call name (.read size)).draws) (fun shut => ?_)
    (fun _ => ⟨rfl, rfl⟩) (fun _ => ⟨rfl, rfl⟩) ⟨rfl, rfl⟩
  rw [isOpen] at shut
  cases shut

/-- A loop ends exactly where there is no next chunk. -/
lemma item_eq_none_iff {result : Except Fault (Option Buffer)} :
    item result = none ↔ result = .ok none := by
  rcases result with fault | _ | b <;> simp [item]

/-! ### Answers -/

/-- The two ways to ask for the next chunk. -/
inductive Form where
  | chunk
  /-- As the next item of a loop. -/
  | item
  deriving DecidableEq, Repr

/-- What is answered to an asking. -/
inductive Reply where
  | chunk (result : Except Fault (Option Buffer))
  | item (answer : Option (Except Fault Buffer))
  deriving DecidableEq, Repr

/-- The answer that is the end. -/
def Reply.isEnd : Reply → Bool
  | chunk (.ok none) | item none => true
  | chunk (.ok (some _)) | chunk (.error _) | item (some _) => false

/-- A result, in the words of the asking. -/
def Form.reply : Form → Except Fault (Option Buffer) → Reply
  | chunk, result => .chunk result
  | item, result => .item (Chunks.item result)

/-- What happens to a sequence of chunks, or to the streams. -/
inductive Happening where
  | ask (form : Form)
  /-- Somebody uses the streams, closes some, or exchanges them for others. -/
  | change (meanwhile : Streams → Streams)

/-- Streams with a sequence of chunks; an asking is answered. -/
def machine : Machine Happening (Option Reply) (Streams × Chunks)
  | .ask .chunk, (streams, c) =>
    (some (.chunk (c.next streams).1.result), (c.next streams).1.streams, (c.next streams).2)
  | .ask .item, (streams, c) =>
    match c.nextItem streams with
    | (answer, streams, _, c) => (some (.item answer), streams, c)
  | .change meanwhile, (streams, c) => (none, meanwhile streams, c)

/-- Both ways of asking are one, but for the words of the answer. -/
lemma machine_ask (form : Form) (streams : Streams) (c : Chunks) :
    machine (.ask form) (streams, c) =
      (some (form.reply (c.next streams).1.result), (c.next streams).1.streams,
        (c.next streams).2) := by
  cases form <;> rfl

/-- Whether the end has been answered. -/
def ended (past : List (Happening × Option Reply)) : Bool := past.any fun e => e.2.any Reply.isEnd

/-! ### The law -/

/-- What an asking does that finds these streams, told by whether the end has been answered. -/
structure Follows (name size : Nat) (ended : Bool) (streams : Streams) (c : Chunks) : Prop where
  /-- The sequence is done once it has answered with the end, and has let go of its stream. -/
  isDone : c.isDone = ended
  source : c.source = if ended then none else some name
  blockSize : c.blockSize = size
  /-- A sequence that is done answers with the end, whatever has become of the stream, and makes no
  read. -/
  done : ended = true → c.next streams = (⟨.ok none, streams, []⟩, c)
  /-- A stream that is closed before the end is not read, and the sequence is not done. -/
  closed : ended = false → streams.isClosed name = true →
    c.next streams =
      (⟨.error (.error ⟨.iterate, .invalid "stream closed during iteration"⟩), streams, []⟩, c)
  /-- Any other asking makes one read of the block size. -/
  reads : ended = false → streams.isClosed name = false →
    (c.next streams).1.streams = (streams.call name (.read size)).streams ∧
      (c.next streams).1.draws = (streams.call name (.read size)).draws
  /-- An error of the read is handed on as one of the iteration, with its cause, and the sequence is
  not done. -/
  failed : ended = false → streams.isClosed name = false →
    ∀ e, (streams.call name (.read size)).result = .error (.error e) →
      (c.next streams).1.result = .error (.error ⟨.iterate, e.cause⟩) ∧ (c.next streams).2 = c
  /-- A read that breaks off breaks the asking off. -/
  broken : ended = false → streams.isClosed name = false →
    (streams.call name (.read size)).result = .error .overflow →
      (c.next streams).1.result = .error .overflow ∧ (c.next streams).2 = c
  /-- A buffer that is not empty is handed on as it is, and the sequence is not done. -/
  chunk : ended = false → streams.isClosed name = false →
    ∀ b, (streams.call name (.read size)).result = .ok b → 0 < b.length →
      (c.next streams).1.result = .ok (some b) ∧ (c.next streams).2 = c
  /-- An empty buffer is the end. -/
  last : ended = false → streams.isClosed name = false →
    ∀ b, (streams.call name (.read size)).result = .ok b → b.length = 0 →
      (c.next streams).1.result = .ok none ∧ (c.next streams).2 = ⟨none, size⟩
  /-- A file under the name is asked for one read, or for nothing. -/
  requests : ∀ f, streams.find? name = some (.scripted f) →
    ∃ g, (c.next streams).1.streams.find? name = some (.scripted g) ∧
      g.log = (if ended || f.closed then [] else [.read size]) ++ f.log
  /-- A loop gets the same, and ends exactly where there is no next chunk. -/
  item : c.nextItem streams = (Chunks.item (c.next streams).1.result,
      (c.next streams).1.streams, (c.next streams).1.draws, (c.next streams).2) ∧
    ((c.nextItem streams).1 = none ↔ (c.next streams).1.result = .ok none)

/-- What a file under the name is asked for. -/
lemma requests_standing (name size : Nat) (done : Bool) {f : ScriptedFile}
    (found : streams.find? name = some (.scripted f)) :
    ∃ g, ((standing name size done).next streams).1.streams.find? name = some (.scripted g) ∧
      g.log = (if done || f.closed then [] else [.read size]) ++ f.log := by
  have shut : streams.isClosed name = f.closed := by
    rw [Streams.isClosed_of_find? found]
    simp [Streams.isClosed]
  cases done with
  | true => exact ⟨f, found, rfl⟩
  | false =>
    cases closed : f.closed with
    | true =>
      rw [next_closed (shut.trans closed)]
      exact ⟨f, found, rfl⟩
    | false =>
      obtain ⟨left, _⟩ := next_open size (shut.trans closed)
      rw [left]
      have answers : (Streams.call ((name, .scripted f) :: streams.older name) name
          (.read size)).streams =
            (name, .scripted (f.call (.read size)).2) :: streams.older name := by
        simp only [Streams.call, if_true]
        rfl
      obtain ⟨kept, _⟩ := (Streams.call_of_find? found (.read size)).2 answers
      exact ⟨(f.call (.read size)).2, kept, f.log_call _⟩

/-- **One asking**, by where the sequence stands. -/
theorem follows_standing (name size : Nat) (done : Bool) (streams : Streams) :
    Follows name size done streams (standing name size done) where
  isDone := by cases done <;> rfl
  source := rfl
  blockSize := rfl
  done ended := by
    rw [ended]
    exact next_done streams name size
  closed ended shut := by
    rw [ended]
    exact next_closed shut
  reads ended isOpen := by
    rw [ended]
    exact next_open size isOpen
  failed ended isOpen e answered := by
    rw [ended, next_failed isOpen answered]
    exact ⟨rfl, rfl⟩
  broken ended isOpen answered := by
    rw [ended, next_failed isOpen answered]
    exact ⟨rfl, rfl⟩
  chunk ended isOpen b answered some := by
    rw [ended, next_chunk isOpen answered some]
    exact ⟨rfl, rfl⟩
  last ended isOpen b answered empty := by
    rw [ended, next_last isOpen answered empty]
    exact ⟨rfl, rfl⟩
  requests f found := requests_standing name size done found
  item := ⟨rfl, item_eq_none_iff⟩

/-- An asking leaves the sequence done if it was, or if it answers with the end. -/
lemma snd_next (name size : Nat) (done : Bool) (streams : Streams) (form : Form) :
    ((standing name size done).next streams).2 = standing name size
      (done || (form.reply ((standing name size done).next streams).1.result).isEnd) := by
  cases done with
  | true => rfl
  | false =>
    refine next_induction (motive := fun asked =>
      asked.2 = standing name size (form.reply asked.1.result).isEnd) (fun _ => ?_)
      (fun fault => ?_) (fun b => ?_) ?_ <;> cases form <;> rfl

/-- **Where a sequence stands** is told by its answers. -/
lemma standing_final (name size : Nat) (streams : Streams) (happenings : List Happening) :
    (machine.final happenings (streams, standing name size false)).2 =
      standing name size (ended (machine.transcript happenings
        (streams, standing name size false))) := by
  refine machine.run_induction (motive := fun past s => s.2 = standing name size (ended past))
    rfl (fun past s happening stands => ?_) happenings
  obtain ⟨found, c⟩ := s
  have stands : c = standing name size (ended past) := stands
  have later (reply : Option Reply) : ended (past ++ [(happening, reply)]) =
      (ended past || reply.any Reply.isEnd) := by
    simp [ended]
  rw [later]
  cases happening with
  | ask form =>
    rw [machine_ask, stands]
    exact snd_next name size (ended past) found form
  | change meanwhile => exact stands.trans (by simp [machine])

/-- **Asking for chunks of any stream.**  Whatever the stream answers, and whatever happens to it
between the askings, what the next asking does is told by the answers so far and by the one read
that it makes. -/
theorem chunks_follow_answers {c : Chunks} (made : ofStream streams name size = .ok c)
    (happenings : List Happening) :
    Follows name size (ended (machine.transcript happenings (streams, c)))
      (machine.final happenings (streams, c)).1 (machine.final happenings (streams, c)).2 := by
  obtain ⟨_, _, rfl⟩ := ofStream_eq_ok_iff.mp made
  rw [standing_final]
  exact follows_standing ..

/-- A file that fails once, has two bytes and then none, and has another one later. -/
def unsteady : Streams :=
  [(0, .scripted {
    owner := 0
    answers := [fun _ => .error ⟨.read, .other "device failed" (some "no medium")⟩,
      fun _ => .ok [97, 98], fun _ => .ok [], fun _ => .ok [99]] })]

/-- Somebody closes the file. -/
def shutFile : Happening := .change fun streams => (streams.call 0 .close).streams

/-- The file and its chunks of four bytes, after some happenings. -/
def unsteadyAfter (happenings : List Happening) : Streams × Chunks :=
  machine.final happenings (unsteady, ⟨some 0, 4⟩)

/-- After a failure and a chunk the file is closed. -/
def closedEarly : Streams × Chunks := unsteadyAfter [.ask .chunk, .ask .item, shutFile]

/-- After a failure, a chunk and the end the file is closed. -/
def closedLate : Streams × Chunks := unsteadyAfter [.ask .chunk, .ask .item, .ask .item, shutFile]

/-- A file that is closed before the end fails the next asking; after the end it makes no
difference. -/
theorem unsteady_follows_answers :
    ofStream unsteady 0 4 = .ok ⟨some 0, 4⟩ ∧
      (closedEarly.2.isDone = false ∧ (closedEarly.2.next closedEarly.1).1.result =
        .error (.error ⟨.iterate, .invalid "stream closed during iteration"⟩)) ∧
      (closedLate.2.isDone = true ∧ (closedLate.2.next closedLate.1).1.result = .ok none) := by
  have made : ofStream unsteady 0 4 = .ok ⟨some 0, 4⟩ := rfl
  have early : Follows 0 4 false closedEarly.1 closedEarly.2 :=
    chunks_follow_answers made [.ask .chunk, .ask .item, shutFile]
  have late : Follows 0 4 true closedLate.1 closedLate.2 :=
    chunks_follow_answers made [.ask .chunk, .ask .item, .ask .item, shutFile]
  refine ⟨made, ⟨early.isDone, ?_⟩, late.isDone, ?_⟩
  · rw [early.closed rfl rfl]
  · rw [late.done rfl]

end Chunks

end ByteStreams
