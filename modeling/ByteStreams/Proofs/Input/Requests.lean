import ByteStreams.Proofs.Input.Confined

/-!
# Requests keep within windows

A call on a stream may have to pass through several views before it comes to the file beneath them.
`Streams.windows?` gives the windows of these views as ranges of positions of the file, and
`InputCall.Issues` says what the file may then be asked for: to be closed, or one read by position
within all of the windows, at the place that the call asks for if it is a read by position itself.

`Streams.Confined.call_records` shows this of a single call.  `views_stay_confined` is about runs:
whatever is done with views of one file and of each other, however the file changes meanwhile, the
views are confined and so are the requests.
-/

namespace ByteStreams

/-! ### Requests -/

/-- Where a read by position starts, and how many bytes it asks for. -/
def Request.place? : Request → Option (Int × Nat)
  | .readAt position count | .readAtInto position count => some (position, count)
  | .read _ | .readInto _ | .seek _ | .close => none

/-- What a scripted file sees of a call on it. -/
def InputCall.request? : {α : Type} → InputCall α → Option Request
  | _, read count | _, advance count => some (.read count)
  | _, readInto target => some (.readInto target.length)
  | _, readAt position count => some (.readAt position count)
  | _, readAtInto position target => some (.readAtInto position target.length)
  | _, seek position => some (.seek position)
  | _, close => some .close
  | _, peek _ | _, tell | _, zeroCopy | _, size | _, isClosed | _, checkOpen _ => none

/-- A read by position is seen at its place. -/
lemma InputCall.place?_of_request? {α : Type} {c : InputCall α} {request : Request}
    (seen : c.request? = some request) : request.place? = c.place? := by
  cases c <;> cases seen <;> rfl

namespace ScriptedFile

variable {α : Type} (f : ScriptedFile)

/-- A read is logged, whatever the answer. -/
lemma log_answer (request : Request) : (f.answer request).2.log = request :: f.log := by
  unfold answer
  simp only
  split
  · rfl
  · split <;> rfl

/-- A call is logged if it is a request. -/
lemma log_call (c : InputCall α) : (f.call c).2.log = c.request?.toList ++ f.log := by
  cases c with
  | read count | readAt position count =>
    exact (congrArg log (answerBuffer_snd ..)).trans (log_answer ..)
  | readInto target | readAtInto position target =>
    exact (congrArg log (answerInto_snd ..)).trans (log_answer ..)
  | advance count => exact (congrArg log (call_advance_snd ..)).trans (log_answer ..)
  | peek _ | tell | zeroCopy | seek _ | size | isClosed | checkOpen _ | close => rfl

end ScriptedFile

/-! ### Windows upon windows -/

/-- A range of positions of a file. -/
structure Window where
  first : Int
  /-- The position behind the last one. -/
  behind : Int
  deriving DecidableEq, Repr

namespace Window

/-- So many bytes from a place on lie within the window. -/
def Holds (w : Window) (place : Int) (count : Nat) : Prop :=
  w.first ≤ place ∧ place + count ≤ w.behind

/-- Where the nearest window starts, or else the file. -/
def origin : List Window → Int
  | [] => 0
  | w :: _ => w.first

end Window

open Window (origin)

/-- The window of a view that sees the file through other windows. -/
def View.window (v : View) (windows : List Window) : Window :=
  ⟨origin windows + v.start, origin windows + v.start + v.length⟩

namespace Streams

/-- The windows that a call on a stream passes through before it comes to a scripted file, the
nearest first; there are none if it does not come to one. -/
def windows? : Streams → Nat → Option (List Window)
  | [], _ => none
  | (key, node) :: rest, name =>
    if key = name then
      match node with
      | .reader _ => none
      | .scripted _ => some []
      | .shared inner _ | .slow inner _ => windows? rest inner
      | .view v => match v.file with
        | none => none
        | some file => (windows? rest file).map fun beneath => v.window beneath :: beneath
    else windows? rest name

/-- The requests that were made of the newest scripted file. -/
def log : Streams → List Request
  | [] => []
  | (_, node) :: rest =>
    match node with
    | .scripted f => f.log
    | .reader _ | .shared _ _ | .view _ | .slow _ _ => log rest

end Streams

/-- What a call may ask a scripted file for when it passes through these windows. -/
inductive InputCall.Issues {α : Type} (c : InputCall α) : List Window → Request → Prop
  /-- A file sees the calls on it as they are. -/
  | direct {request : Request} (seen : c.request? = some request) : Issues c [] request
  /-- Closing a view may close the file. -/
  | close {windows : List Window} (closes : c.isClose = true) : Issues c windows .close
  /-- A call that needs bytes leads to a read by position within all windows. -/
  | read {windows : List Window} {request : Request} {place : Int} {count : Nat}
    (fetches : c.fetches = true) (asks : request.place? = some (place, count))
    (within : ∀ w ∈ windows, w.Holds place count)
    (translates : ∀ position asked, c.place? = some (position, asked) →
      place = origin windows + position ∧ count ≤ asked) : Issues c windows request

namespace InputCall.Issues

variable {windows : List Window} {request : Request}

/-- A file is closed by closing alone. -/
lemma eq_close (issues : InputCall.close.Issues windows request) : request = .close := by
  cases issues with
  | direct seen =>
    cases seen
    rfl
  | close _ => rfl
  | read fetches => cases fetches

/-- Skipping asks for what reading asks for. -/
lemma skip {count : Nat} (issues : (InputCall.read count).Issues windows request) :
    (InputCall.advance count).Issues windows request := by
  cases issues with
  | direct seen => exact .direct seen
  | close closes => cases closes
  | read _ asks within _ => exact .read rfl asks within fun _ _ there => by cases there

end InputCall.Issues

/-- What a view asks for on behalf of a call is within its own window too. -/
lemma View.MayAsk.issues {α β : Type} {v : View} {c : InputCall α} {d : InputCall β} {place : Int}
    {count : Nat} {windows : List Window} {request : Request} (mayAsk : v.MayAsk c place count)
    (placed : d.place? = some (place, count)) (issues : d.Issues windows request) :
    c.Issues (v.window windows :: windows) request := by
  -- The request is a read by position, translated to the file, within the windows beneath.
  obtain ⟨there, fewer, asks, same, few, within⟩ : ∃ there fewer,
      request.place? = some (there, fewer) ∧ there = origin windows + place ∧ fewer ≤ count ∧
        ∀ w ∈ windows, w.Holds there fewer := by
    cases issues with
    | direct seen =>
      refine ⟨place, count, (InputCall.place?_of_request? seen).trans placed, ?_, Nat.le_refl _, ?_⟩
      · exact (Int.zero_add place).symm
      · exact fun w member => absurd member List.not_mem_nil
    | close closes =>
      cases d with
      | close => cases placed
      | _ => cases closes
    | read _ asks within translates =>
      obtain ⟨same, few⟩ := translates place count placed
      exact ⟨_, _, asks, same, few, within⟩
  obtain ⟨low, high⟩ := mayAsk.holds
  refine .read mayAsk.fetches asks (List.forall_mem_cons.mpr ⟨?_, within⟩) ?_
  · unfold Window.Holds window
    simp only
    omega
  · intro position asked placed
    obtain ⟨shifted, fewest⟩ := mayAsk.translates position asked placed
    refine ⟨?_, Nat.le_trans few fewest⟩
    unfold origin window
    simp only
    omega

namespace Streams

variable {α : Type} {streams rest : Streams} {name : Nat} {c : InputCall α}

/-- A call has asked the file for nothing, or for one thing that the windows allow. -/
def Records (streams : Streams) (name : Nat) (c : InputCall α) (later : Streams) : Prop :=
  later.log = streams.log ∨ ∃ windows request, streams.windows? name = some windows ∧
    later.log = request :: streams.log ∧ c.Issues windows request

/-- A stream that is no scripted file has no log of its own. -/
lemma log_cons {node : Node} (noFile : node.kind ≠ .scripted) (key : Nat) (rest : Streams) :
    log ((key, node) :: rest) = rest.log := by
  cases node with
  | scripted f => exact absurd rfl noFile
  | reader _ | shared _ _ | view _ | slow _ _ => rfl

/-- The windows of an older stream. -/
lemma windows?_cons_of_ne {key : Nat} {node : Node} (different : key ≠ name) :
    windows? ((key, node) :: rest) name = rest.windows? name :=
  if_neg different

/-- Handles have nothing to do with logs. -/
@[simp] lemma log_setHandles (change : Nat → Nat) (streams : Streams) (name : Nat) :
    (setHandles change streams name).log = streams.log := by
  induction streams with
  | nil => rfl
  | cons entry rest ih =>
    obtain ⟨key, node⟩ := entry
    by_cases same : key = name
    · cases node with
      | shared inner count =>
        simp only [setHandles, if_pos same]
        rfl
      | reader _ | scripted _ | view _ | slow _ _ => simp only [setHandles, if_pos same]
    · cases node <;> simp only [setHandles, if_neg same, log, ih]

/-- What a view makes of an answer has nothing to do with logs. -/
lemma log_through {β : Type} (s : Served β) (name : Nat) (v : View)
    (resume : β → Option (α × View)) : (s.through name v resume).streams.log = s.streams.log := by
  unfold Served.through
  split
  · rfl
  · split <;> rfl

/-- What a plan within the window asks for. -/
lemma log_served {v : View} {plan : View.Plan α} (within : plan.Within v c) (name file : Nat)
    (rest : Streams) :
    (plan.served name v file rest).streams.log = rest.log ∨
      ∃ (β : Type) (d : InputCall β) (place : Int) (count : Nat),
        d.place? = some (place, count) ∧ v.MayAsk c place count ∧
          (plan.served name v file rest).streams.log = (call rest file d).streams.log := by
  cases plan with
  | answer _ | move _ _ | overflow => exact .inl rfl
  | readAt place count resume =>
    exact .inr ⟨_, .readAt place count, place, count, rfl, within.1, log_through ..⟩
  | readAtInto place target resume =>
    exact .inr ⟨_, .readAtInto place target, place, target.length, rfl, within.1, log_through ..⟩

/-- What is recorded of a call is recorded of the call that led to it. -/
lemma Records.above {β : Type} {d : InputCall β} {inner : Nat} {later before after : Streams}
    {lift : List Window → List Window} (records : rest.Records inner d later)
    (started : before.log = rest.log) (ended : after.log = later.log)
    (passes : ∀ windows, rest.windows? inner = some windows →
      before.windows? name = some (lift windows))
    (issues : ∀ windows request, d.Issues windows request → c.Issues (lift windows) request) :
    before.Records name c after := by
  rcases records with same | ⟨windows, request, passed, logged, issued⟩
  · exact .inl (by rw [ended, started, same])
  · refine .inr ⟨lift windows, request, passes windows passed, ?_, issues windows request issued⟩
    rw [ended, started, logged]

/-- **A call** asks the file for one thing at most, and for nothing that the windows do not
allow. -/
theorem Confined.call_records (h : streams.Confined) (name : Nat) (c : InputCall α) :
    streams.Records name c (streams.call name c).streams := by
  induction streams generalizing name α with
  | nil => exact .inl rfl
  | cons entry rest ih =>
    obtain ⟨key, node⟩ := entry
    obtain ⟨head, tail⟩ := confined_cons_iff.mp h
    by_cases same : key = name
    · subst same
      cases node with
      | reader r =>
        rw [call_reader]
        exact .inl rfl
      | scripted f =>
        have logged : (Streams.call ((key, .scripted f) :: rest) key c).streams.log =
            c.request?.toList ++ f.log := by
          simp only [Streams.call, if_true]
          exact f.log_call c
        cases seen : c.request? with
        | none =>
          rw [seen] at logged
          exact .inl logged
        | some request =>
          rw [seen] at logged
          exact .inr ⟨[], request, if_pos rfl, logged, .direct seen⟩
      | shared inner count =>
        rw [call_shared]
        exact (ih tail inner c).above rfl rfl (fun _ => (if_pos rfl).trans) fun _ _ => id
      | slow inner clock =>
        by_cases skips : c.isAdvance = false
        · obtain ⟨_, left⟩ := call_slow rest key inner clock skips
          rw [left]
          exact (ih tail inner c).above rfl rfl (fun _ => (if_pos rfl).trans) fun _ _ => id
        · cases c with
          | advance count =>
            rw [call_slow_advance]
            exact (ih tail inner (.read count)).above rfl rfl (fun _ => (if_pos rfl).trans)
              fun _ _ => .skip
          | _ => exact absurd rfl skips
      | view v =>
        have confined : v.Confined := head
        cases held : v.file with
        | none =>
          rw [call_view_closed rest key held]
          exact .inl rfl
        | some file =>
          have passes (windows : List Window) (beneath : windows? rest file = some windows) :
              windows? ((key, .view v) :: rest) key = some (v.window windows :: windows) := by
            simp only [windows?, if_true, held, beneath, Option.map_some]
          by_cases stays : c.isClose = false
          · rw [call_view rest key held stays]
            have within := confined.plan c (isClosed rest file) (copiesNothing rest file)
            rcases log_served within key file rest with
              unread | ⟨β, d, place, count, placed, mayAsk, read⟩
            · exact .inl unread
            · exact (ih tail file d).above rfl read passes fun _ _ => mayAsk.issues placed
          · cases c with
            | close =>
              simp only [Streams.call, if_true, held]
              split
              · refine (ih tail file .close).above rfl (log_setHandles ..) passes ?_
                intro windows request issues
                rw [issues.eq_close]
                exact .close rfl
              · exact .inl (log_setHandles ..)
            | _ => exact absurd rfl stays
    · rw [call_other rest same]
      by_cases noFile : node.kind = .scripted
      · cases node with
        | scripted f => exact .inl rfl
        | reader _ | shared _ _ | view _ | slow _ _ => cases noFile
      · refine (ih tail name c).above (log_cons noFile ..) (log_cons noFile ..) (fun windows => ?_)
          fun _ _ => id
        exact (windows?_cons_of_ne same).trans

/-! ### Runs -/

/-- Giving up leaves views where they are. -/
lemma Confined.giveUp (h : streams.Confined) (leave : Reader → Reader) (name : Nat) :
    (streams.giveUp leave name).Confined := by
  refine giveUp_induction (motive := fun before after => before.Confined → after.Confined)
    (fun _ => id) (fun entry rest later kept h => ?_) (fun key node rest later kept h => ?_)
    streams name h
  · obtain ⟨head, tail⟩ := confined_cons_iff.mp h
    exact confined_cons_iff.mpr ⟨head, kept tail⟩
  · obtain ⟨head, tail⟩ := confined_cons_iff.mp h
    refine confined_cons_iff.mpr ⟨?_, kept tail⟩
    cases node with
    | view v => exact View.Confined.shut head
    | scripted f => exact head
    | reader _ | shared _ _ | slow _ _ => trivial

/-- Giving up asks a file for nothing. -/
@[simp] lemma log_giveUp (leave : Reader → Reader) (streams : Streams) (name : Nat) :
    (streams.giveUp leave name).log = streams.log := by
  refine giveUp_induction (motive := fun before after => after.log = before.log)
    (fun _ => rfl) (fun ⟨key, node⟩ rest later kept => ?_) (fun key node rest later kept => ?_)
    streams name <;> cases node <;> first | rfl | exact kept

/-- **An act** leaves all views confined. -/
lemma Confined.perform (h : streams.Confined) (act : Act) : (streams.perform act).2.Confined := by
  cases act with
  | share file stream => exact confined_cons_iff.mpr ⟨trivial, h⟩
  | clone file => exact h.setHandles _ file
  | openView view file offset length =>
    simp only [Streams.perform]
    cases opens : streams.openView view file offset length with
    | error e => exact h
    | ok opened =>
      obtain ⟨⟨start, size, short⟩, rfl⟩ := openView_eq_ok_iff.mp opens
      exact confined_cons_iff.mpr ⟨⟨start, Int.le_refl 0, size, short⟩, h.setHandles _ file⟩
  | dropHandle name | dropView name => exact h.giveUp id name
  | call name c => exact (h.call name c).streams

/-- No act breaks off. -/
lemma Confined.perform_unbroken (h : streams.Confined) (act : Act) :
    (streams.perform act).1 ≠ .error .overflow := by
  cases act with
  | openView view file offset length =>
    simp only [Streams.perform]
    cases streams.openView view file offset length <;> exact fun broken => by cases broken
  | call name c =>
    intro broken
    have unbroken := (h.call name c).unbroken
    simp only [Streams.perform] at broken
    cases answered : (streams.call name c).result with
    | error fault =>
      rw [answered] at broken
      cases broken
      exact unbroken answered
    | ok a =>
      rw [answered] at broken
      cases broken
  | share _ _ | clone _ | dropHandle _ | dropView _ => exact fun broken => by cases broken

/-- An act that is a call asks the file for what the call may ask for, and any other for nothing. -/
lemma Confined.perform_records (h : streams.Confined) (act : Act) :
    (streams.perform act).2.log = streams.log ∨
      ∃ (name : Nat) (β : Type) (c : InputCall β), act = .call name c ∧
        streams.Records name c (streams.perform act).2 := by
  cases act with
  | share _ _ => exact .inl rfl
  | clone file => exact .inl (log_setHandles ..)
  | openView view file offset length =>
    refine .inl ?_
    simp only [Streams.perform]
    cases opens : streams.openView view file offset length with
    | error e => rfl
    | ok opened =>
      obtain ⟨_, rfl⟩ := openView_eq_ok_iff.mp opens
      exact log_setHandles ..
  | dropHandle name | dropView name => exact .inl (log_giveUp ..)
  | call name c => exact .inr ⟨name, _, c, rfl, h.call_records name c⟩

/-- The streams after a change of the files, which keep their logs. -/
def changed (f : ScriptedFile) (streams : Streams) : Streams :=
  streams.map fun (key, node) =>
    match node with
    | .scripted old => (key, .scripted { f with log := old.log })
    | .reader _ | .shared _ _ | .view _ | .slow _ _ => (key, node)

/-- Views do not care how a file changes that stays modest. -/
lemma Confined.changed (h : streams.Confined) {f : ScriptedFile} (modest : f.Modest) :
    (streams.changed f).Confined := by
  intro entry member
  obtain ⟨⟨key, node⟩, earlier, same⟩ := List.mem_map.mp member
  subst same
  cases node with
  | scripted old => exact modest
  | reader _ | shared _ _ | view _ | slow _ _ => exact h _ earlier

end Streams

/-- A file that never delivers more bytes than it is asked for. -/
structure ModestFile extends ScriptedFile where
  modest : toScriptedFile.Modest

/-- What can happen to views of a file. -/
inductive Event : Type 1 where
  | act (done : Act)
  /-- The file changes: whether it is closed, and what it is going to answer. -/
  | change (file : ModestFile)

/-- Streams to which something happens; an act is answered. -/
def Event.machine : Machine Event (Except Fault Seen) Streams
  | .act done, streams => streams.perform done
  | .change file, streams => (.ok .done, streams.changed file.toScriptedFile)

/-- How views stand, and what an act does to them and to the file beneath. -/
structure Confinement (streams : Streams) (act : Act) : Prop where
  /-- The cursors are within the windows. -/
  cursor : ∀ name v, (name, .view v) ∈ streams → 0 ≤ v.position ∧ v.position ≤ v.length
  /-- What a view asks the stream beneath it for, whatever it is called for, is at a position, and
  so is its cursor. -/
  place : ∀ name v, (name, .view v) ∈ streams → isPosition v.address = true ∧
    ∀ {α : Type} (c : InputCall α) (shut copiesNothing : Bool) (place : Int) (count : Nat),
      (v.plan c shut copiesNothing).asks? = some (place, count) → isPosition place = true
  /-- A view refuses a peek by itself: the stream beneath it is not peeked into. -/
  peek : ∀ name v, (name, .view v) ∈ streams → ∀ (count : Nat) (shut copiesNothing : Bool),
    v.plan (.peek count) shut copiesNothing =
      .answer (.error (if shut then .closed .peek else .unsupported .peek))
  /-- No call breaks off. -/
  unbroken : (streams.perform act).1 ≠ .error .overflow
  /-- Only a call asks the file for anything, for one thing at most, and for nothing that the
  windows do not allow. -/
  request : (streams.perform act).2.log = streams.log ∨
    ∃ (name : Nat) (α : Type) (c : InputCall α) (windows : List Window) (request : Request),
      act = .call name c ∧ streams.windows? name = some windows ∧
        (streams.perform act).2.log = request :: streams.log ∧ c.Issues windows request

/-- Whatever happens to confined views, they stay confined. -/
lemma Event.confined_machine {streams : Streams} (h : streams.Confined) (event : Event) :
    (machine event streams).2.Confined := by
  cases event with
  | act done => exact h.perform done
  | change file => exact h.changed file.modest

/-- **Views stay confined.**  Whatever is done with views of a file, with views of views and with
the file's handles, and however the file changes in between, as long as it never delivers more bytes
than it is asked for: all cursors stay within their windows, no position overflows, and whatever the
file is asked for by way of views is to be closed, or a read by position within all their
windows. -/
theorem views_stay_confined (file : ModestFile) (events : List Event) (act : Act) :
    Confinement (Event.machine.final events [(0, .scripted file.toScriptedFile)]) act := by
  have start : Streams.Confined [(0, .scripted file.toScriptedFile)] :=
    List.forall_mem_singleton.mpr file.modest
  have confined := Event.machine.run_induction (motive := fun _ streams => streams.Confined) start
    (fun _ _ event h => Event.confined_machine h event) events
  refine ⟨fun name v member => ?_, fun name v member => ?_, fun _ v _ => v.plan_peek,
    confined.perform_unbroken act, ?_⟩
  · have view : v.Confined := confined _ member
    exact ⟨view.low, view.high⟩
  · have view : v.Confined := confined _ member
    refine ⟨view.isPosition view.holds_address, fun c shut copiesNothing place count asks => ?_⟩
    exact view.isPosition ((view.plan c shut copiesNothing).mayAsk asks).holds
  · rcases confined.perform_records act with
      none | ⟨name, β, c, called, none | ⟨windows, request, passed, logged, issues⟩⟩
    · exact .inl none
    · exact .inl none
    · exact .inr ⟨name, β, c, windows, request, called, passed, logged, issues⟩

/-- A scripted file over the data that falters: each read gets so many bytes at most, or fails. -/
def ScriptedFile.faltering (data : Bytes) (limits : List (Option Nat)) : ScriptedFile where
  owner := 0
  answers := limits.map fun limit request =>
    match limit, request.place? with
    | some most, some (place, count) => .ok (data.window place.toNat (min most count))
    | _, _ => .error ⟨.read, .other "no answer" none⟩

/-- A faltering file is modest. -/
lemma ScriptedFile.modest_faltering (data : Bytes) (limits : List (Option Nat)) :
    (faltering data limits).Modest := by
  intro reply member position count bytes replied
  obtain ⟨limit, _, rfl⟩ := List.mem_map.mp member
  cases limit with
  | none => cases replied
  | some most =>
    cases replied
    exact Nat.le_trans (List.length_take_le ..) (Nat.min_le_right ..)

/-- Nine bytes in a file that delivers one of them, and fails then. -/
def falteringFile : ModestFile where
  toScriptedFile := .faltering [10, 11, 12, 13, 14, 15, 16, 17, 18] [some 1, none]
  modest := ScriptedFile.modest_faltering _ _

/-- Other bytes in a file that fails at first. -/
def changedFile : ModestFile where
  toScriptedFile := .faltering [20, 21, 22, 23, 24, 25, 26, 27, 28] [none, some 4]
  modest := ScriptedFile.modest_faltering _ _

/-- A view of a view reads twice, and then the file changes. -/
def falteringEvents : List Event :=
  [.act (.share 1 0), .act (.openView 2 1 5 4), .act (.share 3 2), .act (.openView 4 3 2 9),
    .act (.call 4 (.read 9)), .act (.call 4 (.read 9)), .change changedFile]

/-- Of the nine bytes that the upper view is asked for each time, the lower one has two at first,
and one when a byte has been read.  The file is asked for no others, whatever it answers. -/
theorem falteringEvents_stay_confined :
    Confinement (Event.machine.final falteringEvents [(0, .scripted falteringFile.toScriptedFile)])
        (.call 4 (.read 9)) ∧
      (Event.machine.final (falteringEvents ++ [.act (.call 4 (.read 9))])
          [(0, .scripted falteringFile.toScriptedFile)]).log =
        [.readAt 8 1, .readAt 8 1, .readAt 7 2] :=
  ⟨views_stay_confined falteringFile falteringEvents _, by decide⟩

end ByteStreams
