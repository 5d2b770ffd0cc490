import ByteStreams.Proofs.Input.Holdings

/-!
# Views keep within their windows

A view is `Confined` if its cursor lies within its window, and the window ends at a position.  Such
a view asks its file for reads within the window alone, and stays confined if the file delivers no
more than it is asked for (`View.Confined.plan`).

Files that deliver no more than that are `Modest`, and confined views are such files themselves: if
all streams are as they should be, no call breaks off, and it leaves them so
(`Streams.Confined.call`).
-/

namespace ByteStreams

/-! ### Modest files -/

/-- The file never delivers more bytes than it is asked for. -/
def ScriptedFile.Modest (f : ScriptedFile) : Prop :=
  ∀ reply ∈ f.answers, ∀ position count bytes, reply (.readAt position count) = .ok bytes →
    bytes.length ≤ count

/-- The answer to a read by position has no more bytes than were asked for. -/
def InputCall.Bounds : {α : Type} → InputCall α → α → Prop
  | _, readAt _ count, b => b.length ≤ count
  | _, readAtInto _ target, f => f.count ≤ target.length
  | _, read _, _ | _, readInto _, _ | _, peek _, _ | _, advance _, _ | _, tell, _ | _, zeroCopy, _
  | _, size, _ | _, seek _, _ | _, isClosed, _ | _, checkOpen _, _ | _, close, _ => True

namespace InputCall

/-- A call that may have to ask a file for bytes. -/
def fetches : {α : Type} → InputCall α → Bool
  | _, read _ | _, readInto _ | _, advance _ | _, readAt .. | _, readAtInto .. => true
  | _, peek _ | _, tell | _, zeroCopy | _, seek _ | _, size | _, isClosed | _, checkOpen _
  | _, close => false

/-- Where a read by position starts, and how many bytes it asks for. -/
def place? : {α : Type} → InputCall α → Option (Int × Nat)
  | _, readAt position count => some (position, count)
  | _, readAtInto position target => some (position, target.length)
  | _, read _ | _, readInto _ | _, peek _ | _, advance _ | _, tell | _, zeroCopy | _, seek _
  | _, size | _, isClosed | _, checkOpen _ | _, close => none

variable {α : Type} {c : InputCall α} {a : α}

/-- The answer of a closed stream has no bytes. -/
lemma bounds_whenClosed {copiesNothing : Bool} (answered : c.whenClosed copiesNothing = .ok a) :
    c.Bounds a := by
  cases c with
  | readAt _ _ | readAtInto _ _ => cases answered
  | _ => trivial

/-- Calls that are no reads by position have no bounds. -/
lemma bounds_of_place? (free : c.place? = none) (a : α) : c.Bounds a := by
  cases c with
  | readAt _ _ | readAtInto _ _ => cases free
  | _ => trivial

end InputCall

namespace ScriptedFile

variable {α : Type} {f : ScriptedFile} {c : InputCall α}

/-- A file has no other replies after an answer. -/
lemma mem_answers_answer {request : Request} {reply : Request → Except Error Bytes}
    (member : reply ∈ (f.answer request).2.answers) : reply ∈ f.answers := by
  simp only [answer] at member
  split at member
  · exact member
  · split at member
    · exact member
    · next replies =>
      rw [replies]
      exact List.mem_cons_of_mem _ member

/-- The bytes of an answer are those of a reply, or there are none. -/
lemma eq_nil_or_mem_of_answer {request : Request} {bytes : Bytes}
    (answered : (f.answer request).1 = .ok bytes) :
    bytes = [] ∨ ∃ reply ∈ f.answers, reply request = .ok bytes := by
  simp only [answer] at answered
  split at answered
  · cases answered
  · split at answered
    · cases answered
      exact .inl rfl
    · next replies =>
      refine .inr ⟨_, ?_, answered⟩
      rw [replies]
      exact List.mem_cons_self

/-- What an answer with a buffer leaves. -/
lemma answerBuffer_snd (f : ScriptedFile) (request : Request) :
    (f.answerBuffer request).2 = (f.answer request).2 := by
  unfold answerBuffer
  split <;> next answered => rw [answered]

/-- What an answer into a target leaves. -/
lemma answerInto_snd (f : ScriptedFile) (request : Request) (target : Bytes) :
    (f.answerInto request target).2 = (f.answer request).2 := by
  unfold answerInto
  split <;> next answered => rw [answered]

/-- What a read that skips leaves. -/
lemma call_advance_snd (f : ScriptedFile) (count : Nat) :
    (f.call (.advance count)).2 = (f.answer (.read count)).2 := by
  rw [← answerBuffer_snd]
  simp only [call]
  split <;> next answered => rw [answered]

/-- A file has no other replies after a call. -/
lemma mem_answers_call {reply : Request → Except Error Bytes}
    (member : reply ∈ (f.call c).2.answers) : reply ∈ f.answers := by
  cases c with
  | read count =>
    simp only [call, answerBuffer_snd] at member
    exact mem_answers_answer member
  | readAt position count =>
    simp only [call, answerBuffer_snd] at member
    exact mem_answers_answer member
  | advance count =>
    rw [call_advance_snd] at member
    exact mem_answers_answer member
  | readInto target =>
    simp only [call, answerInto_snd] at member
    exact mem_answers_answer member
  | readAtInto position target =>
    simp only [call, answerInto_snd] at member
    exact mem_answers_answer member
  | peek _ | tell | zeroCopy | seek _ | size | isClosed | checkOpen _ | close => exact member

/-- A modest file stays modest. -/
lemma Modest.call (modest : f.Modest) (c : InputCall α) : (f.call c).2.Modest :=
  fun reply member => modest reply (mem_answers_call member)

/-- A modest file answers a read by position with no more bytes than were asked for. -/
lemma Modest.bounds (modest : f.Modest) {a : α} (answered : (f.call c).1 = .ok a) :
    c.Bounds a := by
  cases c with
  | readAt position count =>
    simp only [ScriptedFile.call, answerBuffer] at answered
    split at answered
    · next bytes g found =>
      cases answered
      have replied : (f.answer (.readAt position count)).1 = .ok bytes := by rw [found]
      rcases eq_nil_or_mem_of_answer replied with rfl | ⟨reply, member, same⟩
      · exact Nat.zero_le _
      · exact modest reply member position count bytes same
    · cases answered
  | readAtInto position target =>
    simp only [ScriptedFile.call, answerInto] at answered
    split at answered
    · cases answered
      exact List.length_take_le ..
    · cases answered
  | _ => trivial

end ScriptedFile

/-- A reader answers a read by position with no more bytes than were asked for. -/
lemma Reader.bounds {α : Type} {r : Reader} {c : InputCall α} {a : α}
    (answered : (r.call c).1 = .ok a) : c.Bounds a := by
  unfold call at answered
  split at answered
  · exact InputCall.bounds_whenClosed answered
  cases c with
  | readAt position count =>
    simp only [callOpen] at answered
    split at answered
    · cases answered
    · cases answered
      exact clampRead_le ..
  | readAtInto position target =>
    simp only [callOpen] at answered
    split at answered
    · cases answered
    · cases answered
      refine Nat.le_trans (List.length_take_le ..) (clampRead_le ..)
  | _ => trivial

/-! ### Plans within the window -/

/-- The cursor lies within the window, and the window ends at a position. -/
structure View.Confined (v : View) : Prop where
  start : 0 ≤ v.start
  low : 0 ≤ v.position
  high : v.position ≤ v.length
  short : v.start + v.length ≤ maxPosition

namespace View

variable {α : Type} {v : View}

/-- So many bytes from a place on lie within the window. -/
def Holds (v : View) (place : Int) (count : Nat) : Prop :=
  v.start ≤ place ∧ place + count ≤ v.start + v.length

/-- The read that a view may make of its file to answer a call: within the window, and for a read by
position at the place that is asked for. -/
structure MayAsk (v : View) (c : InputCall α) (place : Int) (count : Nat) : Prop where
  fetches : c.fetches = true
  holds : v.Holds place count
  translates : ∀ position asked, c.place? = some (position, asked) →
    place = v.start + position ∧ count ≤ asked

/-- The place that the plan asks the file for, and the number of bytes from there on. -/
def Plan.asks? : Plan α → Option (Int × Nat)
  | .readAt place count _ => some (place, count)
  | .readAtInto place target _ => some (place, target.length)
  | .answer _ | .move _ _ | .overflow => none

/-- The plan makes one such read at most.  If no more is delivered than was asked for, the view that
is left is confined and the answer has no more bytes than were asked for. -/
def Plan.Within (v : View) (c : InputCall α) : Plan α → Prop
  | .answer result => ∀ a, result = .ok a → c.Bounds a
  | .move a next => next.Confined ∧ c.Bounds a
  | .readAt place count resume =>
    v.MayAsk c place count ∧ ∀ b : Buffer, b.length ≤ count →
      ∃ a next, resume b = some (a, next) ∧ next.Confined ∧ c.Bounds a
  | .readAtInto place target resume =>
    v.MayAsk c place target.length ∧ ∀ f : Filled, f.count ≤ target.length →
      ∃ a next, resume f = some (a, next) ∧ next.Confined ∧ c.Bounds a
  | .overflow => False

/-- What such a plan asks for. -/
lemma Plan.Within.mayAsk {plan : Plan α} {c : InputCall α} (within : plan.Within v c)
    {place : Int} {count : Nat} (asks : plan.asks? = some (place, count)) :
    v.MayAsk c place count := by
  cases plan with
  | readAt _ _ _ | readAtInto _ _ _ =>
    cases asks
    exact within.1
  | answer _ | move _ _ | overflow => cases asks

/-- Places within the window are positions. -/
lemma Confined.isPosition (h : v.Confined) {place : Int} {count : Nat}
    (holds : v.Holds place count) : isPosition place = true := by
  obtain ⟨low, high⟩ := holds
  have start := h.start
  have short := h.short
  rw [isPosition_iff]
  unfold maxPosition at short ⊢
  omega

/-- The bytes that are left of a read are within the window. -/
lemma holds_clamped {position : Int} (low : 0 ≤ position) (high : position ≤ v.length)
    (count : Nat) :
    v.Holds (v.start + position) (v.clamped position count) := by
  unfold Holds clamped clampRead
  omega

/-- The cursor itself lies within the window. -/
lemma Confined.holds_address (h : v.Confined) : v.Holds v.address 0 := by
  obtain ⟨_, low, high, _⟩ := h
  unfold Holds address
  omega

/-- The part of a target that is filled. -/
lemma length_take_clamped (v : View) (position : Int) (target : Bytes) :
    (target.take (v.clamped position target.length)).length =
      v.clamped position target.length :=
  List.length_take_of_le (clampRead_le ..)

/-- The cursor can be moved over no more bytes than are left. -/
lemma Confined.advanced (h : v.Confined) {asked count : Nat}
    (few : count ≤ v.clamped v.position asked) :
    ∃ next, v.advanced? count = some next ∧ next.Confined := by
  obtain ⟨start, low, high, short⟩ := h
  have inside : v.position + count ≤ v.length := by
    unfold clamped clampRead at few
    omega
  have position : ByteStreams.isPosition (v.position + count) = true := by
    rw [isPosition_iff]
    unfold maxPosition at short ⊢
    omega
  exact ⟨_, if_pos position, ⟨start, by simp only; omega, inside, short⟩⟩

/-- A read at the cursor stays within the window. -/
lemma Confined.planRead (h : v.Confined) {c : InputCall α} (fetches : c.fetches = true)
    (free : c.place? = none) (count : Nat) (answer : Buffer → α) :
    (v.planRead count answer).Within v c := by
  have holds := holds_clamped h.low h.high count
  have here : ByteStreams.isPosition v.address = true := h.isPosition holds
  unfold View.planRead
  rw [if_pos here]
  refine ⟨⟨fetches, holds, fun position asked there => ?_⟩, fun b few => ?_⟩
  · rw [free] at there
    cases there
  · obtain ⟨next, advanced, confined⟩ := h.advanced few
    have resumed : (v.advanced? b.length).map (answer b, ·) = some (answer b, next) := by
      rw [advanced]
      rfl
    exact ⟨answer b, next, resumed, confined, c.bounds_of_place? free _⟩

/-- A read into a target stays within the window. -/
lemma Confined.planReadInto (h : v.Confined) (target : Bytes) :
    (v.planReadInto target).Within v (.readInto target) := by
  have holds := holds_clamped h.low h.high target.length
  have here : ByteStreams.isPosition v.address = true := h.isPosition holds
  unfold View.planReadInto
  simp only
  rw [if_pos here]
  simp only [Plan.Within, length_take_clamped]
  refine ⟨⟨rfl, holds, fun _ _ there => by cases there⟩, fun f few => ?_⟩
  obtain ⟨next, advanced, confined⟩ := h.advanced few
  refine ⟨f.append (target.drop (v.clamped v.position target.length)), next, ?_, confined, trivial⟩
  rw [advanced]
  rfl

/-- A view does not let itself be peeked into. -/
lemma plan_peek (v : View) (count : Nat) (shut copiesNothing : Bool) :
    v.plan (.peek count) shut copiesNothing =
      .answer (.error (if shut then .closed .peek else .unsupported .peek)) := by
  cases shut <;> rfl

/-- A view that is closed keeps its window and its cursor. -/
lemma Confined.shut (h : v.Confined) : Confined { v with file := none } :=
  ⟨h.start, h.low, h.high, h.short⟩

/-- **A confined view** asks for reads within its window alone, and stays confined. -/
theorem Confined.plan (h : v.Confined) (c : InputCall α) (shut copiesNothing : Bool) :
    (v.plan c shut copiesNothing).Within v c := by
  unfold View.plan
  split
  · exact fun a answered => InputCall.bounds_whenClosed answered
  cases c with
  | read count => exact h.planRead rfl rfl count id
  | advance count => exact h.planRead rfl rfl count Buffer.length
  | readInto target => exact h.planReadInto target
  | seek position =>
    simp only [planOpen]
    split
    · exact fun _ failed => by cases failed
    · next passed =>
      obtain ⟨low, high⟩ := checkPosition_eq_ok_iff.mp passed
      exact ⟨⟨h.start, low, high, h.short⟩, trivial⟩
  | readAt position count =>
    -- The check of the position and the clamp keep any place and any count within the window.
    simp only [planOpen]
    split
    · exact fun _ failed => by cases failed
    · next passed =>
      obtain ⟨low, high⟩ := checkPosition_eq_ok_iff.mp passed
      have few : v.clamped position count ≤ count := clampRead_le ..
      refine ⟨⟨rfl, holds_clamped low high count, ?_⟩, fun b fewer => ?_⟩
      · rintro place asked ⟨⟩
        exact ⟨rfl, few⟩
      · exact ⟨b, v, rfl, h, Nat.le_trans fewer few⟩
  | readAtInto position target =>
    simp only [planOpen]
    split
    · exact fun _ failed => by cases failed
    · next passed =>
      obtain ⟨low, high⟩ := checkPosition_eq_ok_iff.mp passed
      have few : v.clamped position target.length ≤ target.length := clampRead_le ..
      simp only [Plan.Within, length_take_clamped]
      refine ⟨⟨rfl, holds_clamped low high target.length, ?_⟩, fun f fewer => ?_⟩
      · rintro place asked ⟨⟩
        exact ⟨rfl, few⟩
      · exact ⟨_, v, rfl, h, Nat.le_trans fewer few⟩
  | close => exact ⟨h.shut, trivial⟩
  | peek _ => exact fun _ failed => by cases failed
  | tell | zeroCopy | size | isClosed | checkOpen _ => exact fun _ _ => trivial

end View

/-! ### Calls on streams with confined views -/

/-- A confined view, or a modest file; other streams are as they may be. -/
def Node.Confined : Node → Prop
  | .view v => v.Confined
  | .scripted f => f.Modest
  | .reader _ | .shared _ _ | .slow _ _ => True

/-- All views are confined, and all files are modest. -/
def Streams.Confined (streams : Streams) : Prop := ∀ entry ∈ streams, entry.2.Confined

/-- The call did not break off, what it answered has no more bytes than were asked for, and all
views are confined. -/
structure Served.Confined {α : Type} (s : Served α) (c : InputCall α) : Prop where
  streams : s.streams.Confined
  unbroken : s.result ≠ .error .overflow
  bounds : ∀ a, s.result = .ok a → c.Bounds a

namespace Served

variable {α β : Type} {c : InputCall α}

/-- A stream's own answer. -/
lemma confined_ofResult {result : Except Error α} {streams : Streams} (confined : streams.Confined)
    (bounds : ∀ a, result = .ok a → c.Bounds a) : (ofResult result streams).Confined c where
  streams := confined
  unbroken := by cases result <;> exact fun broken => by cases broken
  bounds a answered := by
    cases result with
    | error e => cases answered
    | ok b =>
      cases answered
      exact bounds a rfl

/-- What holds beneath a stream holds with the stream. -/
lemma Confined.under {s : Served α} (h : s.Confined c) {entry : Nat × Node}
    (confined : entry.2.Confined) : (s.under entry).Confined c where
  streams := List.forall_mem_cons.mpr ⟨confined, h.streams⟩
  unbroken := h.unbroken
  bounds := h.bounds

/-- A draw from a clock changes nothing. -/
lemma Confined.after {s : Served α} (h : s.Confined c) (clock : Nat) :
    (s.after clock).Confined c :=
  ⟨h.streams, h.unbroken, h.bounds⟩

/-- The same with another answer, which has no bounds. -/
lemma Confined.map {s : Served β} {d : InputCall β} (h : s.Confined d) (f : β → α)
    (free : ∀ a, c.Bounds a) : (s.map f).Confined c where
  streams := h.streams
  unbroken := by
    unfold Served.map
    cases answered : s.result with
    | error fault =>
      intro broken
      cases broken
      exact h.unbroken answered
    | ok b => exact fun broken => by cases broken
  bounds a _ := free a

/-- What a confined view makes of the answer to a read. -/
lemma Confined.through {s : Served β} {d : InputCall β} (h : s.Confined d) {v : View}
    (confined : v.Confined) (name : Nat) {resume : β → Option (α × View)}
    (resumes : ∀ b, d.Bounds b → ∃ a next, resume b = some (a, next) ∧ next.Confined ∧ c.Bounds a) :
    (s.through name v resume).Confined c := by
  cases answered : s.result with
  | error fault =>
    have same : s.through name v resume =
        ⟨.error fault, (name, .view v) :: s.streams, s.draws⟩ := by
      unfold Served.through
      rw [answered]
    rw [same]
    refine ⟨List.forall_mem_cons.mpr ⟨confined, h.streams⟩, ?_, fun a failed => by cases failed⟩
    intro broken
    have overflow : fault = .overflow := Except.error.inj broken
    exact h.unbroken (answered.trans (congrArg Except.error overflow))
  | ok b =>
    obtain ⟨a, next, resumed, stays, bounds⟩ := resumes b (h.bounds b answered)
    rw [through_eq answered resumed]
    refine ⟨List.forall_mem_cons.mpr ⟨stays, h.streams⟩, (fun broken => by cases broken), ?_⟩
    rintro _ ⟨⟩
    exact bounds

end Served

namespace Streams

variable {α : Type} {streams rest : Streams}

/-- The newest stream and the others. -/
lemma confined_cons_iff {entry : Nat × Node} :
    Confined (entry :: rest) ↔ entry.2.Confined ∧ rest.Confined :=
  List.forall_mem_cons

/-- Handles have nothing to do with windows. -/
lemma Confined.setHandles (h : streams.Confined) (change : Nat → Nat) (name : Nat) :
    (streams.setHandles change name).Confined := by
  induction streams with
  | nil => exact h
  | cons entry rest ih =>
    obtain ⟨key, node⟩ := entry
    obtain ⟨head, tail⟩ := confined_cons_iff.mp h
    by_cases same : key = name
    · cases node with
      | shared inner count =>
        simp only [Streams.setHandles, if_pos same]
        exact confined_cons_iff.mpr ⟨trivial, tail⟩
      | reader _ | scripted _ | view _ | slow _ _ =>
        simp only [Streams.setHandles, if_pos same]
        exact h
    · simp only [Streams.setHandles, if_neg same]
      exact confined_cons_iff.mpr ⟨head, ih tail⟩

/-- A confined view that carries out a plan within its window. -/
lemma confined_served {v : View} {c : InputCall α} {plan : View.Plan α} (within : plan.Within v c)
    (confined : v.Confined) (older : rest.Confined) (name file : Nat)
    (reads : ∀ {β : Type} (d : InputCall β), (rest.call file d).Confined d) :
    (plan.served name v file rest).Confined c := by
  have same : Confined ((name, .view v) :: rest) := confined_cons_iff.mpr ⟨confined, older⟩
  cases plan with
  | answer result => exact Served.confined_ofResult same within
  | move a next =>
    have moved : Confined ((name, .view next) :: rest) := confined_cons_iff.mpr ⟨within.1, older⟩
    refine Served.confined_ofResult moved ?_
    rintro _ ⟨⟩
    exact within.2
  | readAt place count resume =>
    exact (reads (.readAt place count)).through confined name within.2
  | readAtInto place target resume =>
    exact (reads (.readAtInto place target)).through confined name within.2
  | overflow => cases within

/-- **Calls keep views confined.**  No call breaks off if all views are confined, and it leaves them
so. -/
theorem Confined.call (h : streams.Confined) (name : Nat) (c : InputCall α) :
    (streams.call name c).Confined c := by
  induction streams generalizing name α with
  | nil => exact Served.confined_ofResult h fun a answered => InputCall.bounds_whenClosed answered
  | cons entry rest ih =>
    obtain ⟨key, node⟩ := entry
    obtain ⟨head, tail⟩ := confined_cons_iff.mp h
    by_cases same : key = name
    · subst same
      cases node with
      | reader r =>
        rw [call_reader]
        exact Served.confined_ofResult (confined_cons_iff.mpr ⟨trivial, tail⟩) fun a => r.bounds
      | scripted f =>
        have modest : f.Modest := head
        simp only [Streams.call, if_true]
        refine Served.confined_ofResult ?_ fun a => modest.bounds
        exact confined_cons_iff.mpr ⟨modest.call c, tail⟩
      | shared inner count =>
        rw [call_shared]
        exact (ih tail inner c).under head
      | slow inner clock =>
        by_cases skips : c.isAdvance = false
        · obtain ⟨answered, left⟩ := call_slow rest key inner clock skips
          have beneath := ih tail inner c
          refine ⟨?_, ?_, ?_⟩
          · rw [left]
            exact confined_cons_iff.mpr ⟨head, beneath.streams⟩
          · rw [answered]
            exact beneath.unbroken
          · rw [answered]
            exact beneath.bounds
        · cases c with
          | advance count =>
            rw [call_slow_advance]
            have skipped := (ih tail inner (.read count)).map Buffer.length
              (InputCall.bounds_of_place? (c := .advance count) rfl)
            exact (skipped.after clock).under head
          | _ => exact absurd rfl skips
      | view v =>
        have confined : v.Confined := head
        cases held : v.file with
        | none =>
          rw [call_view_closed rest key held]
          exact Served.confined_ofResult h fun a answered => InputCall.bounds_whenClosed answered
        | some file =>
          by_cases stays : c.isClose = false
          · rw [call_view rest key held stays]
            exact confined_served (confined.plan c _ _) confined tail key file (ih tail file)
          · cases c with
            | close =>
              -- The file may be closed beneath; windows, cursors and answers stay as they are.
              have closing : Served.Confined (if handles rest file = 1 then
                  Streams.call rest file .close else .ofResult (.ok ()) rest) .close := by
                split
                · exact ih tail file .close
                · exact Served.confined_ofResult tail fun _ _ => trivial
              simp only [Streams.call, if_true, held]
              have released := closing.streams.setHandles (· - 1) file
              exact ⟨confined_cons_iff.mpr ⟨confined.shut, released⟩, closing.unbroken,
                fun _ _ => trivial⟩
            | _ => exact absurd rfl stays
    · rw [call_other rest same]
      exact (ih tail name c).under head

end Streams

end ByteStreams
