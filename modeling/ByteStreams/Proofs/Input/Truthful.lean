import ByteStreams.Proofs.Input.Chain

/-!
# Truthful files

A truthful file answers a read by position with an error, or with bytes that it does hold there, but
perhaps with fewer than it was asked for, or with none.  It may answer each time in another way
(`Streams.Truthful`).

A scripted file is truthful if its answers are (`ScriptedFile.Truthful.stream`), and whatever stands
upon a truthful file is truthful itself: shared files, slow streams, and views of a part of the data
(`Streams.Truthful.view`).
-/

namespace ByteStreams

/-- What a stream answers by itself comes of its result. -/
lemma Served.ok_of_ofResult {α : Type} {result : Except Error α} {streams : Streams} {a : α}
    (answered : (ofResult result streams).result = .ok a) : result = .ok a := by
  cases result with
  | error e => cases answered
  | ok b => exact congrArg Except.ok (Except.ok.inj answered)

/-- What a view answers with what it made of its file's answer. -/
lemma Served.ok_of_through {α β : Type} {s : Served β} {name : Nat} {v : View}
    {resume : β → Option (α × View)} {a : α} (answered : (s.through name v resume).result = .ok a) :
    ∃ b next, s.result = .ok b ∧ resume b = some (a, next) := by
  unfold through at answered
  split at answered
  · cases answered
  · next b fetched =>
    split at answered
    · next resumed =>
      cases answered
      exact ⟨b, _, fetched, resumed⟩
    · cases answered

/-! ### Streams that hold data -/

namespace Streams

variable {α : Type} {data : Bytes} {streams rest : Streams} {name inner : Nat}

/-- What a file gets for a read by position are bytes that the data has there, and no more than were
asked for. -/
structure Answers (data : Bytes) (streams : Streams) (file : Nat) : Prop where
  readAt : ∀ {place : Int} {count : Nat} {b : Buffer}, 0 ≤ place →
    (streams.call file (.readAt place count)).result = .ok b →
      b.Whole ∧ b.length ≤ count ∧ b.content <+: data.drop place.toNat
  readAtInto : ∀ {place : Int} {target : Bytes} {filled : Filled}, 0 ≤ place →
    (streams.call file (.readAtInto place target)).result = .ok filled →
      ∃ bytes : Bytes, filled = .ofOverlay target bytes ∧ bytes.length ≤ target.length ∧
        bytes <+: data.drop place.toNat

/-- The file holds the data and never says otherwise, however often it is read by position.  The
condition `among` is one that all such reads keep, so that it holds after any number of them. -/
def Truthful (data : Bytes) (streams : Streams) (file : Nat) : Prop :=
  ∃ among : Streams → Prop, among streams ∧ ∀ rest, among rest → rest.Answers data file ∧
    ∀ {α : Type} (c : InputCall α), c.isAddressed = true → among (rest.call file c).streams

namespace Truthful

/-- What a truthful file answers. -/
lemma answers (h : streams.Truthful data name) : streams.Answers data name := by
  obtain ⟨among, now, kept⟩ := h
  exact (kept streams now).1

/-- A file stays truthful when it is read by position. -/
lemma call (h : streams.Truthful data name) {c : InputCall α} (addressed : c.isAddressed = true) :
    (streams.call name c).streams.Truthful data name := by
  obtain ⟨among, now, kept⟩ := h
  exact ⟨among, (kept streams now).2 c addressed, kept⟩

/-- A stream that hands reads by position on to a truthful file is one too. -/
lemma handedOn (h : rest.Truthful data inner) (entry : Nat × Node)
    (hands : ∀ (rest : Streams) {α : Type} (c : InputCall α), c.isAddressed = true →
      (Streams.call (entry :: rest) name c).result = (rest.call inner c).result ∧
        (Streams.call (entry :: rest) name c).streams = entry :: (rest.call inner c).streams) :
    Truthful data (entry :: rest) name := by
  refine ⟨fun streams => ∃ rest : Streams, streams = entry :: rest ∧ rest.Truthful data inner,
    ⟨rest, rfl, h⟩, ?_⟩
  rintro _ ⟨rest, rfl, h⟩
  refine ⟨⟨fun low answered => ?_, fun low answered => ?_⟩, fun c addressed => ?_⟩
  · rw [(hands rest (.readAt _ _) rfl).1] at answered
    exact h.answers.readAt low answered
  · rw [(hands rest (.readAtInto _ _) rfl).1] at answered
    exact h.answers.readAtInto low answered
  · exact ⟨_, (hands rest c addressed).2, h.call addressed⟩

/-- A shared file is as truthful as what it stands for. -/
lemma shared (h : rest.Truthful data inner) (name handles : Nat) :
    Truthful data ((name, .shared inner handles) :: rest) name := by
  refine h.handedOn _ fun rest _ c _ => ?_
  rw [call_shared]
  exact ⟨rfl, rfl⟩

/-- A slow stream is as truthful as what is beneath it. -/
lemma slow (h : rest.Truthful data inner) (name clock : Nat) :
    Truthful data ((name, .slow inner clock) :: rest) name := by
  refine h.handedOn _ fun rest _ c addressed => call_slow rest name inner clock ?_
  cases c <;> first | rfl | cases addressed

end Truthful

end Streams

namespace ScriptedFile

variable {α : Type} {data : Bytes} {f : ScriptedFile}

/-- Every answer to a read by position is an error, or no more bytes than were asked for, which are
those that the data has from the position on. -/
def Truthful (data : Bytes) (f : ScriptedFile) : Prop :=
  ∀ reply ∈ f.answers, ∀ (request : Request) (place : Int) (count : Nat) (bytes : Bytes),
    request.place? = some (place, count) → 0 ≤ place → reply request = .ok bytes →
      bytes.length ≤ count ∧ bytes <+: data.drop place.toNat

namespace Truthful

/-- What such a file answers. -/
lemma answer (truthful : f.Truthful data) {request : Request} {place : Int} {count : Nat}
    {bytes : Bytes} (asked : request.place? = some (place, count)) (low : 0 ≤ place)
    (answered : (f.answer request).1 = .ok bytes) :
    bytes.length ≤ count ∧ bytes <+: data.drop place.toNat := by
  rcases eq_nil_or_mem_of_answer answered with rfl | ⟨reply, member, replied⟩
  · exact ⟨Nat.zero_le count, List.nil_prefix⟩
  · exact truthful reply member request place count bytes asked low replied

/-- What such a file delivers. -/
lemma readAt (truthful : f.Truthful data) {place : Int} {count : Nat} {b : Buffer} (low : 0 ≤ place)
    (answered : (f.call (.readAt place count)).1 = .ok b) :
    b.Whole ∧ b.length ≤ count ∧ b.content <+: data.drop place.toNat := by
  simp only [ScriptedFile.call, answerBuffer] at answered
  split at answered
  · next bytes g found =>
    cases answered
    have replied : (f.answer (.readAt place count)).1 = .ok bytes := by rw [found]
    obtain ⟨few, held⟩ := truthful.answer rfl low replied
    rw [Buffer.content_ofBytes]
    exact ⟨Buffer.whole_ofBytes _ bytes, few, held⟩
  · cases answered

/-- What such a file fills a target with. -/
lemma readAtInto (truthful : f.Truthful data) {place : Int} {target : Bytes} {filled : Filled}
    (low : 0 ≤ place) (answered : (f.call (.readAtInto place target)).1 = .ok filled) :
    ∃ bytes : Bytes, filled = .ofOverlay target bytes ∧ bytes.length ≤ target.length ∧
      bytes <+: data.drop place.toNat := by
  simp only [ScriptedFile.call, answerInto] at answered
  split at answered
  · next bytes g found =>
    cases answered
    have replied : (f.answer (.readAtInto place target.length)).1 = .ok bytes := by rw [found]
    obtain ⟨few, held⟩ := truthful.answer rfl low replied
    exact ⟨bytes, by rw [List.take_of_length_le few], few, held⟩
  · cases answered

/-- A scripted file whose answers are truthful is a truthful file. -/
lemma stream (truthful : f.Truthful data) (name : Nat) (rest : Streams) :
    Streams.Truthful data ((name, .scripted f) :: rest) name := by
  refine ⟨fun streams => ∃ f, streams = (name, .scripted f) :: rest ∧ f.Truthful data,
    ⟨f, rfl, truthful⟩, ?_⟩
  rintro _ ⟨f, rfl, truthful⟩
  have called {α : Type} (c : InputCall α) : Streams.call ((name, .scripted f) :: rest) name c =
      .ofResult (f.call c).1 ((name, .scripted (f.call c).2) :: rest) := by
    simp only [Streams.call, if_true]
  refine ⟨⟨fun low answered => ?_, fun low answered => ?_⟩, fun c _ => ?_⟩
  · rw [called] at answered
    exact truthful.readAt low (Served.ok_of_ofResult answered)
  · rw [called] at answered
    exact truthful.readAtInto low (Served.ok_of_ofResult answered)
  · refine ⟨(f.call c).2, by rw [called]; rfl, ?_⟩
    exact fun reply member => truthful reply (mem_answers_call member)

end Truthful

end ScriptedFile

/-! ### Views -/

/-- Bytes that the data has from a position on, and that end within a stretch of the data. -/
lemma Bytes.isPrefix_drop_between {data bytes : Bytes} {start length place : Int} (low : 0 ≤ start)
    (inside : 0 ≤ place) (few : bytes.length ≤ (length - place).toNat)
    (held : bytes <+: data.drop (start + place).toNat) :
    bytes <+: (data.between start (start + length)).drop place.toNat := by
  have there : start.toNat + place.toNat = (start + place).toNat := by omega
  have ends : (start + length).toNat - (start + place).toNat = (length - place).toNat := by omega
  rw [between, List.drop_drop, there, List.drop_take, ends]
  exact List.prefix_take_iff.mpr ⟨held, few⟩

namespace View

variable {α : Type} {name file : Nat} {rest : Streams} {v : View} {c : InputCall α}

/-- A view upon a closed file answers as a closed stream. -/
lemma call_shut (held : v.file = some file) (shut : rest.isClosed file = true)
    (stays : c.isClose = false) :
    Streams.call ((name, .view v) :: rest) name c =
      .ofResult (c.whenClosed (rest.copiesNothing file)) ((name, .view v) :: rest) := by
  rw [Streams.call_view rest name held stays, plan, if_pos shut]
  rfl

/-- A view upon an open file carries out its plan. -/
lemma call_planOpen (held : v.file = some file) (opened : rest.isClosed file = false)
    (stays : c.isClose = false) :
    Streams.call ((name, .view v) :: rest) name c =
      (v.planOpen c (rest.copiesNothing file)).served name v file rest := by
  rw [Streams.call_view rest name held stays, plan, opened]
  rfl

/-- A view upon an open file carries out the plan that it has. -/
lemma call_of_planned (name : Nat) (held : v.file = some file)
    (opened : rest.isClosed file = false) (stays : c.isClose = false) {plan : Plan α}
    (planned : v.planOpen c (rest.copiesNothing file) = plan) :
    Streams.call ((name, .view v) :: rest) name c = plan.served name v file rest := by
  rw [call_planOpen held opened stays, planned]

/-- What a view delivers from a position has been delivered by its file. -/
lemma readAt_answered (held : v.file = some file) {place : Int} {count : Nat} {b : Buffer}
    (answered :
      (Streams.call ((name, .view v) :: rest) name (.readAt place count)).result = .ok b) :
    (rest.call file (.readAt (v.start + place) (v.clamped place count))).result = .ok b := by
  cases opened : rest.isClosed file with
  | true =>
    rw [call_shut held opened rfl] at answered
    cases answered
  | false =>
    rw [call_planOpen held opened rfl, planOpen] at answered
    split at answered
    · cases answered
    · obtain ⟨b, next, fetched, resumed⟩ := Served.ok_of_through answered
      cases resumed
      exact fetched

/-- What a view fills a target with from a position is what its file has filled the start of the
target with. -/
lemma readAtInto_answered (held : v.file = some file) {place : Int} {target : Bytes}
    {filled : Filled} (answered : (Streams.call ((name, .view v) :: rest) name
      (.readAtInto place target)).result = .ok filled) :
    ∃ f : Filled, filled = f.append (target.drop (v.clamped place target.length)) ∧
      (rest.call file (.readAtInto (v.start + place)
        (target.take (v.clamped place target.length)))).result = .ok f := by
  cases opened : rest.isClosed file with
  | true =>
    rw [call_shut held opened rfl] at answered
    cases answered
  | false =>
    rw [call_planOpen held opened rfl, planOpen] at answered
    split at answered
    · cases answered
    · obtain ⟨f, next, fetched, resumed⟩ := Served.ok_of_through answered
      cases resumed
      exact ⟨f, rfl, fetched⟩

end View

namespace Streams

variable {data : Bytes} {rest : Streams} {file : Nat} {v : View}

/-- A view of a truthful file answers truthfully. -/
lemma Answers.view (h : rest.Answers data file) (held : v.file = some file) (confined : v.Confined)
    (name : Nat) :
    Answers (data.between v.start (v.start + v.length)) ((name, .view v) :: rest) name where
  readAt := by
    intro place count b low answered
    have there : 0 ≤ v.start + place := Int.add_nonneg confined.start low
    obtain ⟨whole, few, prefixed⟩ := h.readAt there (View.readAt_answered held answered)
    have total : b.content.length = b.length := whole
    refine ⟨whole, Nat.le_trans few (clampRead_le ..), ?_⟩
    refine Bytes.isPrefix_drop_between confined.start low ?_ prefixed
    exact total ▸ Nat.le_trans few (Nat.min_le_right ..)
  readAtInto := by
    intro place target filled low answered
    have there : 0 ≤ v.start + place := Int.add_nonneg confined.start low
    obtain ⟨f, rfl, fetched⟩ := View.readAtInto_answered held answered
    obtain ⟨bytes, rfl, few, prefixed⟩ := h.readAtInto there fetched
    rw [View.length_take_clamped] at few
    refine ⟨bytes, Filled.append_ofOverlay few target, Nat.le_trans few (clampRead_le ..), ?_⟩
    exact Bytes.isPrefix_drop_between confined.start low (Nat.le_trans few (Nat.min_le_right ..))
      prefixed

/-- A view of a truthful file is one too, and what it holds is the part of the data in its
window. -/
theorem Truthful.view (h : rest.Truthful data file) (held : v.file = some file)
    (confined : v.Confined) (name : Nat) :
    Truthful (data.between v.start (v.start + v.length)) ((name, .view v) :: rest) name := by
  refine ⟨fun streams =>
    ∃ rest : Streams, streams = (name, .view v) :: rest ∧ rest.Truthful data file,
    ⟨rest, rfl, h⟩, ?_⟩
  rintro _ ⟨rest, rfl, h⟩
  refine ⟨h.answers.view held confined name, fun c addressed => ?_⟩
  rcases call_view_query rest name held (InputCall.isQuery_of_isAddressed addressed) with
    same | ⟨β, d, asks, left⟩
  · exact ⟨rest, same, h⟩
  · exact ⟨_, left, h.call asks⟩

end Streams

end ByteStreams
