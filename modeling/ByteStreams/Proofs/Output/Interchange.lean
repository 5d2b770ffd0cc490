import ByteStreams.Proofs.Output.AppendLog
import ByteStreams.Proofs.Output.Closed

/-!
# Output streams are interchangeable

A counting sink, an append stream and a writer of fixed capacity answer the calls that every output
stream offers.  They find their positions in different ways: the sink counts what it drops, the
append stream has its cursor in a block with room to spare, and the writer has one in a target that
it does not fill.  As long as the accepted bytes fit into the writer's target and no reservation of
the append stream is refused, nobody can tell the three apart by their replies
(`output_streams_interchangeable`).

What the three have in common is the string of the bytes accepted so far.  `Abreast` says how each
of them stands with such a string, `Abreast.step` that a step leaves them so, with the bytes that
the step adds.
-/

namespace ByteStreams

/-- A call that every output stream offers, and the allocator that decides on what is reserved for
it. -/
structure OutputStep where
  allocator : Allocator
  call : Σ α : Type, OutputCall α

namespace OutputStep

/-- The data that a step has written, given its reply. -/
def accepted (e : OutputStep × Reply) : Bytes :=
  if e.2.succeeded then e.1.call.2.data else []

/-- All bytes accepted in a run, in order. -/
def acceptedIn (past : List (OutputStep × Reply)) : Bytes := past.flatMap accepted

end OutputStep

/-- A counting sink reserves nothing. -/
def CountingSink.steps : Machine OutputStep Reply CountingSink := fun i => machine i.call

/-- An append stream asks the allocator of the step. -/
def AppendStream.steps : Machine OutputStep Reply AppendStream :=
  fun i => machine ⟨i.allocator, .call i.call.2⟩

/-- A writer of fixed capacity reserves nothing. -/
def FixedWriter.steps : Machine OutputStep Reply FixedWriter := fun i => machine (.call i.call.2)

open OutputStep (accepted acceptedIn)

namespace AppendStream

/-- How many bytes a write of the data has to reserve: none if the stream is closed, or has room. -/
def reserves (s : AppendStream) (data : Bytes) : Nat :=
  if s.closed ∨ s.position + data.length ≤ s.capacity then 0
  else grownFrom (s.position + data.length) (max s.capacity leastCapacity) - s.capacity

/-- No reservation of the run is refused. -/
def Unrefused : List OutputStep → AppendStream → Prop
  | [], _ => True
  | i :: inputs, s =>
    i.allocator.permits (s.reserves i.call.2.data) = true ∧ Unrefused inputs (steps i s).2

/-- If nothing is refused in a run, nothing is refused in a beginning of it. -/
lemma Unrefused.of_append {earlier later : List OutputStep} {s : AppendStream}
    (h : Unrefused (earlier ++ later) s) : Unrefused earlier s := by
  induction earlier generalizing s with
  | nil => trivial
  | cons i earlier ih => exact ⟨h.1, ih h.2⟩

variable {a : Allocator} {s : AppendStream} {data : Bytes}

/-- A block can be resized if the bytes that it lacks are granted. -/
lemma exists_resize {b : Block} {length : Nat} (granted : a.permits (length - b.length) = true) :
    ∃ c, b.resize a length = .ok c := by
  cases resized : b.resize a length with
  | ok c => exact ⟨c, rfl⟩
  | error e =>
    have denied := (Block.resize_error resized).2.1
    rw [granted] at denied
    cases denied

/-- A block grows if what it has to reserve is granted. -/
lemma exists_grow (isOpen : s.closed = false)
    (granted : a.permits (s.reserves data) = true) :
    ∃ target, s.grow a (s.position + data.length) = .ok target := by
  unfold grow
  by_cases enough : s.position + data.length ≤ s.capacity
  · exact ⟨s.target, if_pos enough⟩
  · have lacks : ¬ (s.closed ∨ s.position + data.length ≤ s.capacity) := by
      simp [isOpen, enough]
    rw [reserves, if_neg lacks] at granted
    obtain ⟨target, resized⟩ := exists_resize granted
    exact ⟨target, by rw [if_neg enough, resized]⟩

/-- An open stream writes if it can count the bytes, and what it has to reserve is granted. -/
lemma write_of_granted (isOpen : s.closed = false) (short : s.position + data.length ≤ maxCount)
    (granted : a.permits (s.reserves data) = true) : (s.write a data).1 = .ok () := by
  obtain ⟨target, grown⟩ := exists_grow isOpen granted
  have fits : ¬ maxCount < s.position + data.length := Nat.not_lt.mpr short
  simp only [write, isOpen, Bool.false_eq_true, if_false, if_neg fits, grown]
  split <;> rfl

end AppendStream

/-! ### Streams abreast of each other -/

/-- The three streams have accepted the same bytes, and are closed or open together. -/
structure Abreast (log : Bytes) (k : CountingSink) (s : AppendStream) (w : FixedWriter) :
    Prop where
  counted : k.written = log.length
  stands : s.Stands log false
  cursor : w.position = log.length
  written : log <+: w.target
  stream : s.closed = k.closed
  writer : w.closed = k.closed

namespace Abreast

variable {log : Bytes} {k : CountingSink} {s : AppendStream} {w : FixedWriter}

/-- New streams have accepted nothing. -/
lemma start {s : AppendStream} (made : s.Made) (target : Bytes) (options : CopyOptions) :
    Abreast [] {} s (FixedWriter.start target options) := by
  have tracks := made.tracks
  have isOpen : s.closed = false := by
    cases made with
    | create made =>
      unfold AppendStream.create at made
      split at made <;> cases made
      rfl
    | wrap target => rfl
  exact ⟨rfl, tracks.stands, rfl, List.nil_prefix, isOpen, rfl⟩

/-- The cursor of an open append stream is behind the bytes accepted. -/
lemma position_eq (h : Abreast log k s w) (isOpen : k.closed = false) :
    s.position = log.length := by
  cases h.stands with
  | opened _ cursor _ _ => exact cursor
  | closed isClosed _ =>
    rw [h.stream, isOpen] at isClosed
    cases isClosed

/-- What the three streams reply to a step, and how they stand after it with the bytes that it
adds. -/
structure Steps (log : Bytes) (k : CountingSink) (s : AppendStream) (w : FixedWriter)
    (i : OutputStep) : Prop where
  stream : (AppendStream.steps i s).1 = (CountingSink.steps i k).1
  writer : (FixedWriter.steps i w).1 = (CountingSink.steps i k).1
  abreast : Abreast (log ++ accepted (i, (CountingSink.steps i k).1)) (CountingSink.steps i k).2
    (AppendStream.steps i s).2 (FixedWriter.steps i w).2

/-- A call that changes nothing has no data. -/
lemma Steps.of_quiet (h : Abreast log k s w) {i : OutputStep} (quiet : i.call.2.data = [])
    (stream : AppendStream.steps i s = ((CountingSink.steps i k).1, s))
    (writer : FixedWriter.steps i w = ((CountingSink.steps i k).1, w))
    (sink : (CountingSink.steps i k).2 = k) : Steps log k s w i where
  stream := by rw [stream]
  writer := by rw [writer]
  abreast := by
    have nothing : accepted (i, (CountingSink.steps i k).1) = [] := by simp [accepted, quiet]
    rw [nothing, List.append_nil, sink, stream, writer]
    exact h

/-- The three streams write data, or refuse it because they are closed. -/
lemma write (h : Abreast log k s w) {a : Allocator} {data : Bytes}
    (room : k.closed = false → (log ++ data).length ≤ w.capacity)
    (short : k.closed = false → (log ++ data).length ≤ maxCount)
    (granted : a.permits (s.reserves data) = true) :
    (s.write a data).1 = (k.write data).1 ∧ (w.write data).1 = (k.write data).1 ∧
      Abreast (log ++ if (k.write data).1.isOk then data else []) (k.write data).2
        (s.write a data).2 (w.write data).2 := by
  cases isOpen : k.closed with
  | true =>
    have refused : k.write data = (.error (.closed .write), k) := if_pos isOpen
    have stream := AppendStream.write_of_closed (h.stream.trans isOpen) a data
    have writer := FixedWriter.write_of_closed (h.writer.trans isOpen) data
    rw [refused, stream, writer]
    refine ⟨rfl, rfl, ?_⟩
    rw [show (if (Except.isOk (.error (.closed .write) : Except Error Unit)) then data else []) =
      [] from rfl, List.append_nil]
    exact h
  | false =>
    have behind := h.position_eq isOpen
    have room := room isOpen
    have short := short isOpen
    rw [List.length_append] at room short
    have counts : k.write data = (.ok (), { k with written := k.written + data.length }) := by
      simp [CountingSink.write, isOpen]
    have appends : (s.write a data).1 = .ok () :=
      AppendStream.write_of_granted (h.stream.trans isOpen) (by omega) granted
    have fits : w.position + data.length ≤ w.capacity := by
      rw [h.cursor]
      exact room
    have overlays := FixedWriter.write_of_room (h.writer.trans isOpen) fits
    rcases h.stands.write a data with ⟨e, refused⟩ | ⟨t, written, stands, _⟩
    · rw [refused] at appends
      cases appends
    · have stillOpen : t.closed = s.closed := by
        rcases AppendStream.write_cases a s data with ⟨e, refused⟩ | ⟨_, _, _, same⟩
        · rw [refused] at written
          cases written
        · rw [same] at written
          cases written
          rfl
      rw [counts, written, overlays]
      refine ⟨rfl, rfl, ?_⟩
      constructor
      · simp [h.counted, Except.isOk, Except.toBool]
      · exact stands
      · simp [h.cursor, Except.isOk, Except.toBool]
      · rw [h.cursor]
        exact Bytes.isPrefix_overlay h.written data
      · exact stillOpen.trans h.stream
      · exact h.writer

/-- A step that writes data. -/
lemma Steps.of_write (h : Abreast log k s w) {i : OutputStep} {data : Bytes}
    (writes : i.call.2.data = data)
    (sink : CountingSink.steps i k =
      (.ofResult (fun _ => .done) (k.write data).1, (k.write data).2))
    (stream : AppendStream.steps i s =
      (.ofResult (fun _ => .done) (s.write i.allocator data).1, (s.write i.allocator data).2))
    (writer : FixedWriter.steps i w =
      (.ofResult (fun _ => .done) (w.write data).1, (w.write data).2))
    (room : (log ++ accepted (i, (CountingSink.steps i k).1)).length ≤ w.capacity)
    (short : (log ++ accepted (i, (CountingSink.steps i k).1)).length ≤ maxCount)
    (granted : i.allocator.permits (s.reserves data) = true) : Steps log k s w i := by
  have taken : accepted (i, (CountingSink.steps i k).1) =
      if (k.write data).1.isOk then data else [] := by
    rw [sink]
    simp only [accepted, writes]
    cases (k.write data).1 <;> rfl
  rw [taken] at room short
  have counts (isOpen : k.closed = false) : (k.write data).1.isOk = true := by
    simp [CountingSink.write, isOpen, Except.isOk, Except.toBool]
  obtain ⟨appends, overlays, abreast⟩ := h.write
    (fun isOpen => by simpa [counts isOpen] using room)
    (fun isOpen => by simpa [counts isOpen] using short) granted
  constructor
  · rw [stream, sink, appends]
  · rw [writer, sink, overlays]
  · rw [taken, stream, sink, writer]
    exact abreast

/-- A step that asks something of open streams, and changes none of them. -/
lemma Steps.of_whenOpen {α : Type} (h : Abreast log k s w) {i : OutputStep}
    (quiet : i.call.2.data = []) {context : Context} {answer : α → Reply} {said told counted : α}
    (same : k.closed = false → said = told ∧ counted = told)
    (sink : CountingSink.steps i k = (.ofResult answer (whenOpen k.closed context (.ok told)), k))
    (stream : AppendStream.steps i s =
      (.ofResult answer (whenOpen s.closed context (.ok said)), s))
    (writer : FixedWriter.steps i w =
      (.ofResult answer (whenOpen w.closed context (.ok counted)), w)) : Steps log k s w i := by
  have alike : whenOpen k.closed context (.ok said) = whenOpen k.closed context (.ok told) ∧
      whenOpen k.closed context (.ok counted) = whenOpen k.closed context (.ok told) := by
    cases isOpen : k.closed with
    | true => exact ⟨rfl, rfl⟩
    | false =>
      obtain ⟨one, other⟩ := same isOpen
      rw [one, other]
      exact ⟨rfl, rfl⟩
  apply Steps.of_quiet h quiet
  · rw [stream, sink, h.stream, alike.1]
  · rw [writer, sink, h.writer, alike.2]
  · rw [sink]

/-- A step that closes the streams. -/
lemma Steps.of_close (h : Abreast log k s w) (a : Allocator) :
    Steps log k s w ⟨a, _, .close⟩ := by
  obtain ⟨t, closing, isClosed, left, _⟩ := h.stands.close a
  have stream : AppendStream.steps ⟨a, _, .close⟩ s = (.done, t) := by
    simp [AppendStream.steps, AppendStream.machine, AppendStream.call, closing, OutputCall.reply,
      Reply.ofResult, OutputCall.answer]
  have nothing : accepted (⟨a, _, .close⟩, (CountingSink.steps ⟨a, _, .close⟩ k).1) = [] := rfl
  constructor
  · rw [stream]
    rfl
  · rfl
  · rw [nothing, List.append_nil, stream]
    exact ⟨h.counted, .closed isClosed left, h.cursor, h.written, isClosed, rfl⟩

/-- **One step.**  Streams abreast of each other reply alike to a call and stay abreast, if the
bytes that the call adds fit into the writer and the append stream gets what it has to reserve. -/
lemma step (h : Abreast log k s w) (i : OutputStep)
    (room : (log ++ accepted (i, (CountingSink.steps i k).1)).length ≤ w.capacity)
    (short : (log ++ accepted (i, (CountingSink.steps i k).1)).length ≤ maxCount)
    (granted : i.allocator.permits (s.reserves i.call.2.data) = true) : Steps log k s w i := by
  obtain ⟨a, α, c⟩ := i
  cases c with
  | write data => exact .of_write h rfl rfl rfl rfl room short granted
  | writeBuffer source => exact .of_write h rfl rfl rfl rfl room short granted
  | flush | checkOpen during => exact .of_whenOpen h rfl (fun _ => ⟨rfl, rfl⟩) rfl rfl rfl
  | tell =>
    refine .of_whenOpen h rfl (fun isOpen => ⟨?_, ?_⟩) rfl rfl rfl
    · rw [h.position_eq isOpen, h.counted]
    · rw [h.cursor, h.counted]
  | isClosed =>
    refine .of_quiet h rfl ?_ ?_ rfl
    · exact congrArg (fun closed => (Reply.flag closed, s)) h.stream
    · exact congrArg (fun closed => (Reply.flag closed, w)) h.writer
  | close => exact .of_close h a

/-- The target of a writer keeps its length. -/
lemma capacity_steps (h : Abreast log k s w) (i : OutputStep) :
    (FixedWriter.steps i w).2.capacity = w.capacity := by
  have inside : w.position ≤ w.capacity := by
    rw [h.cursor]
    exact h.written.length_le
  exact (FixedWriter.does inside (.call i.call.2)).length

/-- **All runs.**  Streams abreast of each other have one transcript and end abreast, if all bytes
that the run adds fit into the writer and the append stream gets whatever it has to reserve. -/
lemma run (h : Abreast log k s w) (inputs : List OutputStep)
    (room : (log ++ acceptedIn (CountingSink.steps.transcript inputs k)).length ≤ w.capacity)
    (short : (log ++ acceptedIn (CountingSink.steps.transcript inputs k)).length ≤ maxCount)
    (granted : AppendStream.Unrefused inputs s) :
    AppendStream.steps.transcript inputs s = CountingSink.steps.transcript inputs k ∧
      FixedWriter.steps.transcript inputs w = CountingSink.steps.transcript inputs k ∧
      Abreast (log ++ acceptedIn (CountingSink.steps.transcript inputs k))
        (CountingSink.steps.final inputs k) (AppendStream.steps.final inputs s)
        (FixedWriter.steps.final inputs w) := by
  induction inputs generalizing log k s w with
  | nil =>
    refine ⟨rfl, rfl, ?_⟩
    rw [Machine.transcript, acceptedIn, List.flatMap_nil, List.append_nil]
    exact h
  | cons i inputs ih =>
    have cut : log ++ acceptedIn (CountingSink.steps.transcript (i :: inputs) k) =
        (log ++ accepted (i, (CountingSink.steps i k).1)) ++
          acceptedIn (CountingSink.steps.transcript inputs (CountingSink.steps i k).2) := by
      rw [Machine.transcript, acceptedIn, List.flatMap_cons, List.append_assoc]
      rfl
    rw [cut] at room short ⊢
    have now := h.step i (by rw [List.length_append] at room; omega)
      (by rw [List.length_append] at short; omega) granted.1
    obtain ⟨streams, writers, last⟩ := ih now.abreast
      (by rw [h.capacity_steps i]; exact room) short granted.2
    refine ⟨?_, ?_, last⟩
    · rw [Machine.transcript, Machine.transcript, now.stream, streams]
    · rw [Machine.transcript, Machine.transcript, now.writer, writers]

end Abreast

/-! ### Interchangeable streams -/

/-- How the three streams compare after a run: a new sink, the append stream `start` and the writer
`begun`, each given the same calls.  The accepted bytes are those of the sink's transcript. -/
structure AlikeAfter (inputs : List OutputStep) (start : AppendStream) (begun : FixedWriter) :
    Prop where
  /-- The append stream has replied to every step as the sink has. -/
  stream : AppendStream.steps.transcript inputs start = CountingSink.steps.transcript inputs {}
  /-- So has the writer. -/
  writer : FixedWriter.steps.transcript inputs begun = CountingSink.steps.transcript inputs {}
  /-- The sink has counted the accepted bytes. -/
  counted : (CountingSink.steps.final inputs {}).written =
    (acceptedIn (CountingSink.steps.transcript inputs {})).length
  /-- They are at the start of the writer's target. -/
  overlaid : (FixedWriter.steps.final inputs begun).target.take
      (CountingSink.steps.final inputs {}).written =
    acceptedIn (CountingSink.steps.transcript inputs {})
  /-- They are what an open append stream has before its cursor. -/
  appended : (AppendStream.steps.final inputs start).closed = false →
    (AppendStream.steps.final inputs start).target.bytes.take
        (AppendStream.steps.final inputs start).position =
      acceptedIn (CountingSink.steps.transcript inputs {})
  /-- They are all that a closed append stream has. -/
  left : (AppendStream.steps.final inputs start).closed = true →
    (AppendStream.steps.final inputs start).target.bytes =
      acceptedIn (CountingSink.steps.transcript inputs {})

/-- Streams that are abreast at the end of a run from new ones have been alike. -/
lemma AlikeAfter.of_run {inputs : List OutputStep} {start : AppendStream}
    (made : start.Made) {target : Bytes} (options : CopyOptions)
    (room : (acceptedIn (CountingSink.steps.transcript inputs {})).length ≤ target.length)
    (short : (acceptedIn (CountingSink.steps.transcript inputs {})).length ≤ maxCount)
    (granted : start.Unrefused inputs) :
    AlikeAfter inputs start (FixedWriter.start target options) := by
  obtain ⟨stream, writer, last⟩ := (Abreast.start made target options).run inputs room short granted
  rw [List.nil_append] at last
  refine ⟨stream, writer, last.counted, ?_, fun isOpen => ?_, fun isClosed => ?_⟩
  · rw [last.counted]
    exact (List.prefix_iff_eq_take.mp last.written).symm
  · cases last.stands with
    | opened _ cursor kept _ =>
      rw [cursor]
      exact (List.prefix_iff_eq_take.mp kept).symm
    | closed isClosed _ =>
      rw [isOpen] at isClosed
      cases isClosed
  · cases last.stands with
    | opened isOpen _ _ _ =>
      rw [isClosed] at isOpen
      cases isOpen
    | closed _ left => exact left

/-- **Output streams are interchangeable.**  Give the same calls, in any order and with any data, to
a new counting sink, to a new append stream, made on a block of its own or over a borrowed one, and
to a new writer over any target with any options.  If the accepted bytes fit into the target and
their number is a position, and if no reservation of the append stream is refused, then at every
point of the run all three have replied alike, the sink has counted the accepted bytes, and these
are at the start of the writer's target and are the content of the append stream. -/
theorem output_streams_interchangeable {inputs : List OutputStep} {start : AppendStream}
    (made : start.Made) (target : Bytes) (options : CopyOptions)
    (room : (acceptedIn (CountingSink.steps.transcript inputs {})).length ≤ target.length)
    (short : ((acceptedIn (CountingSink.steps.transcript inputs {})).length : Int) ≤ maxPosition)
    (granted : start.Unrefused inputs) {earlier : List OutputStep} (part : earlier <+: inputs) :
    AlikeAfter earlier start (FixedWriter.start target options) := by
  obtain ⟨later, rfl⟩ := part
  have less : (acceptedIn (CountingSink.steps.transcript earlier {})).length ≤
      (acceptedIn (CountingSink.steps.transcript (earlier ++ later) {})).length := by
    rw [Machine.transcript_append, acceptedIn, acceptedIn, List.flatMap_append, List.length_append]
    exact Nat.le_add_right _ _
  refine .of_run made options (Nat.le_trans less room) ?_ granted.of_append
  unfold maxPosition at short
  unfold maxCount
  omega

/-- Two bytes over a borrowed block of one, which has to grow, then two more; the streams are closed
and one more byte is refused. -/
def closedRun : List OutputStep :=
  [⟨.below 512, _, .write [1, 2]⟩, ⟨.below 512, _, .tell⟩, ⟨.below 512, _, .write [3, 4]⟩,
    ⟨.below 512, _, .close⟩, ⟨.below 512, _, .write [5]⟩]

set_option maxRecDepth 2000 in
/-- All three streams take the four bytes and refuse the fifth. -/
theorem closedRun_alike :
    (AppendStream.wrap (.ofBytes [9])).Made ∧
      acceptedIn (CountingSink.steps.transcript closedRun {}) = [1, 2, 3, 4] ∧
      AppendStream.Unrefused closedRun (.wrap (.ofBytes [9])) ∧
      AlikeAfter closedRun (.wrap (.ofBytes [9])) (.start [0, 0, 0, 0] {}) := by
  have made : (AppendStream.wrap (.ofBytes [9])).Made := .wrap _
  have taken : acceptedIn (CountingSink.steps.transcript closedRun {}) = [1, 2, 3, 4] := rfl
  have doubled : grownFrom 2 256 = 256 := by
    unfold grownFrom
    rfl
  have granted : AppendStream.Unrefused closedRun (.wrap (.ofBytes [9])) := by
    have resized : (AppendStream.wrap (.ofBytes [9])).target.resize (.below 512) (grownFrom 2
        (max (AppendStream.wrap (.ofBytes [9])).capacity leastCapacity)) =
        .ok ⟨Bytes.resized [9] 256, 0⟩ := by
      have least : max (AppendStream.wrap (.ofBytes [9])).capacity leastCapacity = 256 := rfl
      rw [least, doubled]
      rfl
    have short : ¬ 2 ≤ (AppendStream.wrap (.ofBytes [9])).capacity := by decide
    have grown : (AppendStream.wrap (.ofBytes [9])).grow (.below 512)
        ((AppendStream.wrap (.ofBytes [9])).position + ([1, 2] : Bytes).length) =
        .ok ⟨Bytes.resized [9] 256, 0⟩ := by
      change (AppendStream.wrap (.ofBytes [9])).grow (.below 512) 2 = _
      rw [AppendStream.grow, if_neg short, resized]
    have wrote : (AppendStream.wrap (.ofBytes [9])).write (.below 512) [1, 2] =
        (.ok (), ⟨⟨(Bytes.resized [9] 256).overlay 0 [1, 2], 0⟩, 2, false, .borrowed⟩) := by
      simp only [AppendStream.write, grown]
      rfl
    have first : (AppendStream.steps ⟨.below 512, _, .write [1, 2]⟩ (.wrap (.ofBytes [9]))).2 =
        ⟨⟨(Bytes.resized [9] 256).overlay 0 [1, 2], 0⟩, 2, false, .borrowed⟩ :=
      congrArg Prod.snd wrote
    constructor
    · change (Allocator.below 512).permits (grownFrom 2 256 - 1) = true
      rw [doubled]
      rfl
    · rw [first]
      exact ⟨rfl, rfl, rfl, rfl, trivial⟩
  refine ⟨made, taken, granted, ?_⟩
  exact output_streams_interchangeable made [0, 0, 0, 0] {} (by rw [taken]; decide)
    (by rw [taken]; decide) granted List.prefix_rfl

end ByteStreams
