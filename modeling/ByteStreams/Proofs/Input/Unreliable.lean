import ByteStreams.Proofs.Input.Closings
import ByteStreams.Proofs.Input.ReadingPaths
import ByteStreams.Proofs.Input.Truthful

/-!
# Views upon unreliable files

A truthful file answers a read by position with an error, or with bytes that it does hold there, but
perhaps with fewer than it was asked for, or with none.  It may answer each time in another way
(`Streams.Truthful`).

A view upon such a file does not lose its place: a call that fails leaves the view as it was, and
what the reads at the cursor deliver or skip, put together, are the bytes from where the cursor was
to where it is, whatever else happens meanwhile (`view_keeps_its_place`).  The step is
`View.Proceeds`, which says what one call does to a view and to what is beneath it.
-/

namespace ByteStreams

/-- Bytes that the data has from a position on are a stretch of it. -/
lemma Bytes.eq_between_of_isPrefix {data bytes : Bytes} {place : Int} (low : 0 ≤ place)
    (held : bytes <+: data.drop place.toNat) :
    bytes = data.between place (place + bytes.length) := by
  rw [← data.window_eq_between low bytes.length]
  exact List.prefix_iff_eq_take.mp held

/-- What a stream refuses by itself is an error. -/
lemma Served.error_of_ofResult {α : Type} {result : Except Error α} {streams : Streams}
    {fault : Fault} (refused : (ofResult result streams).result = .error fault) :
    ∃ e, result = .error e ∧ .error e = fault := by
  cases result with
  | error e => exact ⟨e, rfl, Except.error.inj refused⟩
  | ok b => cases refused

/-- A view hands the fault of its file on, and stays as it was. -/
lemma Served.through_error {α β : Type} {s : Served β} {fault : Fault}
    (failed : s.result = .error fault) (name : Nat) (v : View) (resume : β → Option (α × View)) :
    s.through name v resume = ⟨.error fault, (name, .view v) :: s.streams, s.draws⟩ := by
  unfold Served.through
  rw [failed]

/-! ### One call on a view -/

/-- A call that moves the cursor to a position. -/
def InputCall.isSeek : {α : Type} → InputCall α → Bool
  | _, seek _ => true
  | _, read _ | _, readInto _ | _, peek _ | _, advance _ | _, tell | _, zeroCopy | _, size
  | _, readAt .. | _, readAtInto .. | _, isClosed | _, checkOpen _ | _, close => false

/-- The call that looks ahead. -/
def InputCall.isPeek : {α : Type} → InputCall α → Bool
  | _, peek _ => true
  | _, read _ | _, readInto _ | _, advance _ | _, tell | _, zeroCopy | _, seek _ | _, size
  | _, readAt .. | _, readAtInto .. | _, isClosed | _, checkOpen _ | _, close => false

/-- The position that a call names, and the operation that fails if there is none. -/
def InputCall.names? : {α : Type} → InputCall α → Option (Context × Int)
  | _, seek position => some (.seek, position)
  | _, readAt position _ | _, readAtInto position _ => some (.read, position)
  | _, read _ | _, readInto _ | _, peek _ | _, advance _ | _, tell | _, zeroCopy | _, size
  | _, isClosed | _, checkOpen _ | _, close => none

/-- The bytes that a call takes from the cursor on: those that it delivers, or skips.  What is
skipped is what a read in its place would deliver. -/
def Streams.taken (streams : Streams) (name : Nat) : {α : Type} → InputCall α → Bytes
  | _, .read count | _, .advance count =>
    match (streams.call name (.read count)).result with
    | .ok b => b.content
    | .error _ => []
  | _, .readInto target => Reader.filledIn (streams.call name (.readInto target)).result
  | _, .peek _ | _, .tell | _, .zeroCopy | _, .seek _ | _, .size | _, .readAt ..
  | _, .readAtInto .. | _, .isClosed | _, .checkOpen _ | _, .close => []

namespace View

/-- Why a view upon a file refuses a call.  That the file is closed comes before all else. -/
inductive Refusal {α : Type} (v : View) (beneath : Streams) (file : Nat) (c : InputCall α) :
    Fault → Prop where
  /-- The file is closed. -/
  | closed {copiesNothing : Bool} {e : Error} (shut : beneath.isClosed file = true)
      (refused : c.whenClosed copiesNothing = .error e) : Refusal v beneath file c (.error e)
  /-- The call names a position that is not in the window. -/
  | bounds {context : Context} {position : Int} (opened : beneath.isClosed file = false)
      (names : c.names? = some (context, position))
      (outside : ¬(0 ≤ position ∧ position ≤ v.length)) :
      Refusal v beneath file c (.error ⟨context, .outOfBounds position v.length⟩)
  /-- No view can be peeked into. -/
  | peek (opened : beneath.isClosed file = false) (peeks : c.isPeek = true) :
      Refusal v beneath file c (.error (.unsupported .peek))
  /-- The file has failed, and this is its fault. -/
  | file {d : AnyCall} {fault : Fault} (opened : beneath.isClosed file = false)
      (asks : (v.planOpen c (beneath.copiesNothing file)).call? = some d)
      (failed : (beneath.call file d.2).result = .error fault) : Refusal v beneath file c fault

variable {α : Type} {data : Bytes} {name file : Nat} {rest older : Streams} {v next : View}
  {c : InputCall α}

/-- What a call does to a confined view upon a truthful file: which view is left of it, and which
older streams. -/
structure Proceeds (data : Bytes) (name file : Nat) (rest : Streams) (v : View) (c : InputCall α)
    (next : View) (older : Streams) : Prop where
  left : (Streams.call ((name, .view v) :: rest) name c).streams = (name, .view next) :: older
  truthful : older.Truthful data file
  confined : next.Confined
  moved : v.Moved next
  failed : ∀ {fault}, (Streams.call ((name, .view v) :: rest) name c).result = .error fault →
    next = v ∧ v.Refusal rest file c fault
  addressed : c.isAddressed = true → next = v
  taken : (c.isSeek = true →
      (Streams.call ((name, .view v) :: rest) name c).result.isOk = false) →
    v.position ≤ next.position ∧
      Streams.taken ((name, .view v) :: rest) name c = data.between v.address next.address

/-- A view that stays as it is. -/
lemma Proceeds.still (confined : v.Confined) (truthful : older.Truthful data file)
    (left : (Streams.call ((name, .view v) :: rest) name c).streams = (name, .view v) :: older)
    (failed : ∀ {fault}, (Streams.call ((name, .view v) :: rest) name c).result = .error fault →
      v.Refusal rest file c fault)
    (nothing : Streams.taken ((name, .view v) :: rest) name c = []) :
    Proceeds data name file rest v c v older where
  left := left
  truthful := truthful
  confined := confined
  moved := .refl v
  failed answered := ⟨rfl, failed answered⟩
  addressed _ := rfl
  taken _ := by
    rw [nothing, Bytes.between_self]
    exact ⟨Int.le_refl _, rfl⟩

/-- A view that moves its cursor over the bytes that a read gets. -/
lemma Proceeds.onward {bytes : Bytes} {asked : Nat} (confined : v.Confined)
    (truthful : older.Truthful data file) (few : bytes.length ≤ v.clamped v.position asked)
    (left : (Streams.call ((name, .view v) :: rest) name c).streams =
      (name, .view { v with position := v.position + bytes.length }) :: older)
    (isOk : (Streams.call ((name, .view v) :: rest) name c).result.isOk = true)
    (atCursor : c.isAddressed = false)
    (taken : Streams.taken ((name, .view v) :: rest) name c = bytes)
    (held : bytes <+: data.drop v.address.toNat) :
    Proceeds data name file rest v c { v with position := v.position + bytes.length } older where
  left := left
  truthful := truthful
  confined := by
    obtain ⟨next, advanced, stays⟩ := confined.advanced few
    rw [confined.advanced?_eq few] at advanced
    exact Option.some.inj advanced ▸ stays
  moved := ⟨_, rfl⟩
  failed answered := by
    rw [answered] at isOk
    cases isOk
  addressed addressed := by
    rw [atCursor] at addressed
    cases addressed
  taken _ := by
    have low : 0 ≤ v.address := Int.add_nonneg confined.start confined.low
    have there : address { v with position := v.position + bytes.length } =
        v.address + bytes.length := (Int.add_assoc ..).symm
    refine ⟨Int.le_add_of_nonneg_right (Int.natCast_nonneg _), ?_⟩
    rw [taken, there]
    exact Bytes.eq_between_of_isPrefix low held

/-- A view skips by reading, and tells the length of what it has read. -/
lemma call_advance (held : v.file = some file) (count : Nat) :
    Streams.call ((name, .view v) :: rest) name (.advance count) =
      (Streams.call ((name, .view v) :: rest) name (.read count)).map Buffer.length := by
  cases shut : rest.isClosed file with
  | true =>
    rw [call_shut held shut rfl, call_shut held shut rfl]
    rfl
  | false =>
    rw [call_planOpen held shut rfl, call_planOpen held shut rfl]
    simp only [planOpen, planRead]
    split
    · simp only [Plan.served, Served.through]
      split
      · rfl
      · cases v.advanced? _ <;> rfl
    · rfl

/-- A view whose file fails. -/
lemma Proceeds.of_failed {β : Type} {d : InputCall β} {resume : β → Option (α × View)}
    {fault : Fault} (confined : v.Confined) (opened : rest.isClosed file = false)
    (truthful : rest.Truthful data file)
    (called : Streams.call ((name, .view v) :: rest) name c =
      (rest.call file d).through name v resume)
    (asks : (v.planOpen c (rest.copiesNothing file)).call? = some ⟨β, d⟩)
    (addressed : d.isAddressed = true) (failed : (rest.call file d).result = .error fault)
    (nothing : Streams.taken ((name, .view v) :: rest) name c = []) :
    Proceeds data name file rest v c v (rest.call file d).streams := by
  rw [Served.through_error failed] at called
  refine .still confined (truthful.call addressed) (by rw [called]) (fun answered => ?_) nothing
  rw [called] at answered
  cases answered
  exact .file opened asks failed

/-- A view that asks its file for a read by position to answer one. -/
lemma Proceeds.of_addressed {β : Type} {d : InputCall β} {resume : β → Option (α × View)}
    (confined : v.Confined) (opened : rest.isClosed file = false)
    (truthful : rest.Truthful data file)
    (called : Streams.call ((name, .view v) :: rest) name c =
      (rest.call file d).through name v resume)
    (asks : (v.planOpen c (rest.copiesNothing file)).call? = some ⟨β, d⟩)
    (addressed : d.isAddressed = true) (stays : ∀ b, ∃ a, resume b = some (a, v))
    (nothing : Streams.taken ((name, .view v) :: rest) name c = []) :
    Proceeds data name file rest v c v (rest.call file d).streams := by
  cases fetched : (rest.call file d).result with
  | error fault => exact .of_failed confined opened truthful called asks addressed fetched nothing
  | ok b =>
    obtain ⟨a, resumed⟩ := stays b
    rw [Served.through_eq fetched resumed] at called
    refine .still confined (truthful.call addressed) (by rw [called]) (fun answered => ?_) nothing
    rw [called] at answered
    cases answered

/-- An open view refuses by itself what names a position that is not in the window. -/
lemma planOpen_outside {context : Context} {position : Int}
    (names : c.names? = some (context, position))
    (outside : ¬(0 ≤ position ∧ position ≤ v.length)) (copiesNothing : Bool) :
    v.planOpen c copiesNothing = .answer (.error ⟨context, .outOfBounds position v.length⟩) := by
  cases c with
  | seek _ | readAt _ _ | readAtInto _ _ =>
    cases names
    simp only [planOpen, checkPosition_outside outside]
  | _ => cases names

/-- **What a view refuses fails**, with the fault of the refusal. -/
theorem Refusal.fails {fault : Fault} (held : v.file = some file) (stays : c.isClose = false)
    (refusal : v.Refusal rest file c fault) :
    (Streams.call ((name, .view v) :: rest) name c).result = .error fault := by
  cases refusal with
  | closed shut refused =>
    rw [call_shut held shut stays, InputCall.whenClosed_of_error refused]
    rfl
  | bounds opened names outside =>
    rw [call_of_planned name held opened stays (planOpen_outside names outside _)]
    rfl
  | peek opened peeks =>
    rw [call_planOpen held opened stays]
    cases c with
    | peek count => rfl
    | _ => cases peeks
  | file opened asks failed =>
    rw [call_planOpen held opened stays]
    revert asks
    cases v.planOpen c (rest.copiesNothing file) with
    | readAt _ _ resume | readAtInto _ _ resume =>
      intro asks
      cases asks
      exact congrArg Served.result (Served.through_error failed name v resume)
    | answer _ | move _ _ | overflow => exact fun asks => by cases asks

/-- What keeps a view from reading keeps it from skipping. -/
lemma Refusal.skip {count : Nat} {fault : Fault}
    (refusal : v.Refusal rest file (.read count) fault) :
    v.Refusal rest file (.advance count) fault := by
  cases refusal with
  | closed shut refused =>
    cases refused
    have refused : (InputCall.advance count).whenClosed true = .error (.closed .read) := rfl
    exact .closed shut refused
  | bounds _ names _ => cases names
  | peek _ peeks => cases peeks
  | file opened asks failed =>
    refine .file opened (Eq.trans ?_ asks) failed
    simp only [planOpen, planRead]
    split <;> rfl

/-- A view that skips does what it does to read. -/
lemma Proceeds.skips {count : Nat} (reads : Proceeds data name file rest v (.read count) next older)
    (held : v.file = some file) : Proceeds data name file rest v (.advance count) next older where
  left := by
    rw [call_advance held]
    exact reads.left
  truthful := reads.truthful
  confined := reads.confined
  moved := reads.moved
  failed answered := by
    rw [call_advance held] at answered
    obtain ⟨same, refusal⟩ := reads.failed (error_of_map_eq_error answered)
    exact ⟨same, refusal.skip⟩
  addressed addressed := by cases addressed
  taken _ := reads.taken fun seeks => by cases seeks

/-- A view that asks its file for a read at the cursor. -/
lemma Proceeds.of_fetched {β : Type} {d : InputCall β} {resume : β → Option (α × View)}
    (asked : Nat) (confined : v.Confined) (opened : rest.isClosed file = false)
    (truthful : rest.Truthful data file)
    (called : Streams.call ((name, .view v) :: rest) name c =
      (rest.call file d).through name v resume)
    (asks : (v.planOpen c (rest.copiesNothing file)).call? = some ⟨β, d⟩)
    (addressed : d.isAddressed = true) (atCursor : c.isAddressed = false)
    (nothing : ∀ {fault}, (Streams.call ((name, .view v) :: rest) name c).result = .error fault →
      Streams.taken ((name, .view v) :: rest) name c = [])
    (gets : ∀ {b}, (rest.call file d).result = .ok b → ∃ (a : α) (bytes : Bytes),
      resume b = some (a, { v with position := v.position + bytes.length }) ∧
        bytes.length ≤ v.clamped v.position asked ∧ bytes <+: data.drop v.address.toNat ∧
          ((Streams.call ((name, .view v) :: rest) name c).result = .ok a →
            Streams.taken ((name, .view v) :: rest) name c = bytes)) :
    ∃ next older, Proceeds data name file rest v c next older := by
  cases fetched : (rest.call file d).result with
  | error fault =>
    have failed := called.trans (Served.through_error fetched name v resume)
    exact ⟨v, _, .of_failed confined opened truthful called asks addressed fetched
      (nothing (congrArg Served.result failed))⟩
  | ok b =>
    obtain ⟨a, bytes, resumed, few, held, taken⟩ := gets fetched
    have answered := called.trans (Served.through_eq fetched resumed)
    refine ⟨_, _, .onward confined (truthful.call addressed) few (congrArg Served.streams answered)
      ?_ atCursor (taken (congrArg Served.result answered)) held⟩
    rw [answered]
    rfl

namespace Confined

/-- Reading at the cursor. -/
lemma proceeds_read (h : v.Confined) (held : v.file = some file)
    (opened : rest.isClosed file = false) (truthful : rest.Truthful data file) (count : Nat) :
    ∃ next older, Proceeds data name file rest v (.read count) next older := by
  have here : ByteStreams.isPosition v.address = true := h.isPosition h.holds_address
  have low : 0 ≤ v.address := Int.add_nonneg h.start h.low
  have planned : v.planOpen (.read count) (rest.copiesNothing file) =
      .readAt v.address (v.clamped v.position count)
        fun b => (v.advanced? b.length).map (b, ·) := if_pos here
  have called := call_of_planned name held opened rfl planned
  rw [Plan.served] at called
  refine Proceeds.of_fetched count h opened truthful called (congrArg Plan.call? planned) rfl rfl
    (fun failed => ?_) fun {b} fetched => ?_
  · simp only [Streams.taken, failed]
  · obtain ⟨whole, few, prefixed⟩ := truthful.answers.readAt low fetched
    have total : b.content.length = b.length := whole
    refine ⟨b, b.content, ?_, total ▸ few, prefixed, fun answered => ?_⟩
    · rw [total, h.advanced?_eq few]
      rfl
    · simp only [Streams.taken, answered]

/-- Reading into a target at the cursor. -/
lemma proceeds_readInto (h : v.Confined) (held : v.file = some file)
    (opened : rest.isClosed file = false) (truthful : rest.Truthful data file) (target : Bytes) :
    ∃ next older, Proceeds data name file rest v (.readInto target) next older := by
  have here : ByteStreams.isPosition v.address = true := h.isPosition h.holds_address
  have low : 0 ≤ v.address := Int.add_nonneg h.start h.low
  have planned : v.planOpen (.readInto target) (rest.copiesNothing file) =
      .readAtInto v.address (target.take (v.clamped v.position target.length)) fun f =>
        (v.advanced? f.count).map
          (f.append (target.drop (v.clamped v.position target.length)), ·) := if_pos here
  have called := call_of_planned name held opened rfl planned
  rw [Plan.served] at called
  refine Proceeds.of_fetched target.length h opened truthful called
    (congrArg Plan.call? planned) rfl rfl (fun failed => ?_) fun {f} fetched => ?_
  · simp only [Streams.taken, failed]
    rfl
  · obtain ⟨bytes, rfl, few, prefixed⟩ := truthful.answers.readAtInto low fetched
    rw [length_take_clamped] at few
    refine ⟨.ofOverlay target bytes, bytes, ?_, few, prefixed, fun answered => ?_⟩
    · change (v.advanced? bytes.length).map _ = _
      rw [h.advanced?_eq few, Filled.append_ofOverlay few]
      rfl
    · simp only [Streams.taken, answered, Filled.ofOverlay_eq, Reader.filledIn_ok]

/-- A call that the view answers by itself. -/
lemma proceeds_answer (h : v.Confined) (held : v.file = some file)
    (opened : rest.isClosed file = false) (truthful : rest.Truthful data file)
    (stays : c.isClose = false) {result : Except Error α}
    (planned : v.planOpen c (rest.copiesNothing file) = .answer result)
    (refuses : ∀ {e}, result = .error e → v.Refusal rest file c (.error e))
    (nothing : Streams.taken ((name, .view v) :: rest) name c = []) :
    Proceeds data name file rest v c v rest := by
  have called := call_of_planned name held opened stays planned
  refine .still h truthful (by rw [called]; rfl) (fun answered => ?_) nothing
  rw [called] at answered
  obtain ⟨e, refused, rfl⟩ := Served.error_of_ofResult answered
  exact refuses refused

/-- A call that names a position that is not in the window. -/
lemma proceeds_outside (h : v.Confined) (held : v.file = some file)
    (opened : rest.isClosed file = false) (truthful : rest.Truthful data file) {context : Context}
    {position : Int} (names : c.names? = some (context, position))
    (outside : ¬(0 ≤ position ∧ position ≤ v.length)) :
    Proceeds data name file rest v c v rest := by
  have refuses {e : Error} (same : (.error ⟨context, .outOfBounds position v.length⟩ :
      Except Error α) = .error e) : v.Refusal rest file c (.error e) := by
    cases same
    exact .bounds opened names outside
  cases c with
  | seek _ | readAt _ _ | readAtInto _ _ =>
    have planned := planOpen_outside names outside (rest.copiesNothing file)
    exact h.proceeds_answer held opened truthful rfl planned refuses rfl
  | _ => cases names

/-- A call that moves the cursor to a position in the window. -/
lemma proceeds_seek (h : v.Confined) (held : v.file = some file)
    (opened : rest.isClosed file = false) (truthful : rest.Truthful data file) {position : Int}
    (inside : 0 ≤ position ∧ position ≤ v.length) :
    Proceeds data name file rest v (.seek position) { v with position } rest := by
  have planned : v.planOpen (.seek position) (rest.copiesNothing file) =
      .move () { v with position } := by
    simp only [planOpen, checkPosition_eq_ok_iff.mpr inside]
  have called := call_of_planned name held opened rfl planned
  refine ⟨by rw [called]; rfl, truthful, ⟨h.start, inside.1, inside.2, h.short⟩, ⟨position, rfl⟩,
    ?_, fun addressed => ?_, fun fails => ?_⟩
  · rw [called]
    exact fun refused => by cases refused
  · cases addressed
  · rw [called] at fails
    cases fails rfl

/-- A read by position from a position in the window. -/
lemma proceeds_addressed (h : v.Confined) (held : v.file = some file)
    (opened : rest.isClosed file = false) (truthful : rest.Truthful data file) {context : Context}
    {position : Int} (names : c.names? = some (context, position))
    (addressed : c.isAddressed = true) (inside : 0 ≤ position ∧ position ≤ v.length) :
    ∃ older, Proceeds data name file rest v c v older := by
  have passed : checkPosition .read position v.length = .ok () :=
    checkPosition_eq_ok_iff.mpr inside
  cases c with
  | readAt _ count =>
    cases names
    have planned : v.planOpen (.readAt position count) (rest.copiesNothing file) =
        .readAt (v.start + position) (v.clamped position count) fun b => some (b, v) := by
      simp only [planOpen, passed]
    have called := call_of_planned name held opened rfl planned
    rw [Plan.served] at called
    exact ⟨_, .of_addressed h opened truthful called (congrArg Plan.call? planned) rfl
      (fun b => ⟨b, rfl⟩) rfl⟩
  | readAtInto _ target =>
    cases names
    have planned : v.planOpen (.readAtInto position target) (rest.copiesNothing file) =
        .readAtInto (v.start + position) (target.take (v.clamped position target.length))
          fun f => some (f.append (target.drop (v.clamped position target.length)), v) := by
      simp only [planOpen, passed]
    have called := call_of_planned name held opened rfl planned
    rw [Plan.served] at called
    exact ⟨_, .of_addressed h opened truthful called (congrArg Plan.call? planned) rfl
      (fun f => ⟨_, rfl⟩) rfl⟩
  | _ => cases addressed

/-- A call on a view upon a closed file. -/
lemma proceeds_shut (h : v.Confined) (held : v.file = some file) (shut : rest.isClosed file = true)
    (truthful : rest.Truthful data file) (stays : c.isClose = false) :
    Proceeds data name file rest v c v rest := by
  have called {β : Type} (d : InputCall β) (stays : d.isClose = false) :
      Streams.call ((name, .view v) :: rest) name d = _ := call_shut held shut stays
  refine .still h truthful (by rw [called c stays]; rfl) (fun answered => ?_) ?_
  · rw [called c stays] at answered
    obtain ⟨e, refused, rfl⟩ := Served.error_of_ofResult answered
    exact .closed shut refused
  · cases c with
    | read count | advance count =>
      rw [Streams.taken, called (.read count) rfl]
      rfl
    | readInto target =>
      rw [Streams.taken, called (.readInto target) rfl]
      rfl
    | _ => rfl

/-- **One call** on a confined view upon a truthful file leaves them so, and takes what the cursor
passes over. -/
theorem proceeds (h : v.Confined) (held : v.file = some file) (truthful : rest.Truthful data file)
    (c : InputCall α) (stays : c.isClose = false) :
    ∃ next older, Proceeds data name file rest v c next older := by
  cases opened : rest.isClosed file with
  | true => exact ⟨v, rest, h.proceeds_shut held opened truthful stays⟩
  | false =>
    cases c with
    | read count => exact h.proceeds_read held opened truthful count
    | readInto target => exact h.proceeds_readInto held opened truthful target
    | advance count =>
      obtain ⟨next, older, reads⟩ : ∃ next older,
          Proceeds data name file rest v (.read count) next older :=
        h.proceeds_read held opened truthful count
      exact ⟨next, older, reads.skips held⟩
    | seek position =>
      by_cases inside : 0 ≤ position ∧ position ≤ v.length
      · exact ⟨_, rest, h.proceeds_seek held opened truthful inside⟩
      · exact ⟨v, rest, h.proceeds_outside held opened truthful rfl inside⟩
    | readAt position _ | readAtInto position _ =>
      by_cases inside : 0 ≤ position ∧ position ≤ v.length
      · exact ⟨v, h.proceeds_addressed held opened truthful rfl rfl inside⟩
      · exact ⟨v, rest, h.proceeds_outside held opened truthful rfl inside⟩
    | peek count =>
      refine ⟨v, rest, h.proceeds_answer held opened truthful rfl rfl (fun refused => ?_) rfl⟩
      cases refused
      exact .peek opened rfl
    | tell | zeroCopy | size | isClosed | checkOpen _ =>
      refine ⟨v, rest, h.proceeds_answer held opened truthful rfl rfl (fun refused => ?_) rfl⟩
      cases refused
    | close => cases stays

end Confined

/-- Cursors that move one after the other. -/
lemma Moved.trans {u : View} (first : u.Moved v) (later : v.Moved next) : u.Moved next := by
  obtain ⟨position, rfl⟩ := first
  obtain ⟨position, rfl⟩ := later
  exact ⟨position, rfl⟩

/-- A cursor that moves on moves on in the file as well. -/
lemma Moved.address_le (moved : v.Moved next) (onward : v.position ≤ next.position) :
    v.address ≤ next.address := by
  obtain ⟨position, rfl⟩ := moved
  exact Int.add_le_add_left onward v.start

end View

/-! ### A view among other streams -/

namespace Streams

variable {α : Type} {data : Bytes} {streams : Streams} {name file : Nat} {node : Node}
  {v next : View} {c : InputCall α}

/-- The streams that are older than the one of a name. -/
def older : Streams → Nat → Streams
  | [], _ => []
  | (key, _) :: rest, name => if key = name then rest else older rest name

/-- What holds of a stream with the older ones, and goes on to hold with newer streams of other
names, holds of all streams. -/
lemma find?_induction {motive : Streams → Prop} (found : streams.find? name = some node)
    (self : motive ((name, node) :: streams.older name))
    (newer : ∀ {key} (new : Node) (rest : Streams), key ≠ name → motive rest →
      motive ((key, new) :: rest)) : motive streams := by
  induction streams with
  | nil => cases found
  | cons entry rest ih =>
    obtain ⟨key, newest⟩ := entry
    by_cases same : key = name
    · subst same
      simp only [find?, if_true] at found
      cases found
      simpa only [older, if_true] using self
    · simp only [find?, if_neg same] at found
      simp only [older, if_neg same] at self
      exact newer newest rest same (ih found self)

/-- Newer streams have no part in a call. -/
lemma call_of_find? (found : streams.find? name = some node) (c : InputCall α) :
    (streams.call name c).result = (call ((name, node) :: streams.older name) name c).result ∧
      ∀ {new later},
        (call ((name, node) :: streams.older name) name c).streams = (name, new) :: later →
          (streams.call name c).streams.find? name = some new ∧
            (streams.call name c).streams.older name = later := by
  refine find?_induction (motive := fun whole =>
    (whole.call name c).result = (call ((name, node) :: streams.older name) name c).result ∧
      ∀ {new later},
        (call ((name, node) :: streams.older name) name c).streams = (name, new) :: later →
          (whole.call name c).streams.find? name = some new ∧
            (whole.call name c).streams.older name = later) found ?_ ?_
  · refine ⟨rfl, fun {_ _} left => ?_⟩
    simp only [left, find?, older, if_true, and_self]
  · intro key new rest different kept
    rw [call_other rest different]
    simp only [Served.under, find?, older, if_neg different]
    exact kept

/-- Newer streams have no part in whether a stream is closed. -/
lemma isClosed_of_find? (found : streams.find? name = some node) :
    streams.isClosed name = isClosed ((name, node) :: streams.older name) name := by
  refine find?_induction (motive := fun whole =>
    whole.isClosed name = isClosed ((name, node) :: streams.older name) name) found rfl ?_
  intro key new rest different kept
  rw [isClosed_cons_of_ne different]
  exact kept

/-- Newer streams have no part in what a call takes. -/
lemma taken_of_find? (found : streams.find? name = some node) (c : InputCall α) :
    streams.taken name c = taken ((name, node) :: streams.older name) name c := by
  cases c with
  | read count | advance count =>
    rw [taken, (call_of_find? found (.read count)).1, taken]
  | readInto target => rw [taken, (call_of_find? found (.readInto target)).1, taken]
  | _ => rfl

/-- The name stands for a confined view upon a truthful file. -/
structure Overlooks (data : Bytes) (name file : Nat) (streams : Streams) (v : View) : Prop where
  found : streams.find? name = some (.view v)
  held : v.file = some file
  confined : v.Confined
  truthful : (streams.older name).Truthful data file

/-- What a call does to such a view. -/
structure Survives (data : Bytes) (name file : Nat) (streams : Streams) (v : View)
    (c : InputCall α) (next : View) : Prop where
  overlooks : (streams.call name c).streams.Overlooks data name file next
  moved : v.Moved next
  /-- A call that fails leaves the view as it was, and the reason for it is known. -/
  failed : ∀ {fault}, (streams.call name c).result = .error fault →
    next = v ∧ v.Refusal (streams.older name) file c fault
  addressed : c.isAddressed = true → next = v
  /-- What the call takes is what the cursor passes over, if it does not move elsewhere. -/
  taken : (c.isSeek = true → (streams.call name c).result.isOk = false) →
    v.position ≤ next.position ∧ streams.taken name c = data.between v.address next.address

/-- **One call** on a view among other streams. -/
theorem Overlooks.step (h : streams.Overlooks data name file v) (c : InputCall α)
    (stays : c.isClose = false) : ∃ next, streams.Survives data name file v c next := by
  obtain ⟨next, later, step⟩ : ∃ next later,
      View.Proceeds data name file (streams.older name) v c next later :=
    h.confined.proceeds h.held h.truthful c stays
  obtain ⟨result, kept⟩ := call_of_find? h.found c
  obtain ⟨found, older⟩ := kept step.left
  refine ⟨next, ⟨found, ?_, step.confined, ?_⟩, step.moved, fun failed => ?_, step.addressed,
    fun fails => ?_⟩
  · rw [step.moved.file_eq]
    exact h.held
  · rw [older]
    exact step.truthful
  · rw [result] at failed
    exact step.failed failed
  · rw [result] at fails
    rw [taken_of_find? h.found]
    exact step.taken fails

/-- What the view tells. -/
lemma Overlooks.tells (h : streams.Overlooks data name file v) :
    (streams.call name .tell).result =
      if streams.isClosed name then .error (.error (.closed .tell)) else .ok v.position := by
  rw [(call_of_find? h.found .tell).1, isClosed_of_find? h.found]
  have beneath : isClosed ((name, .view v) :: streams.older name) name =
      (streams.older name).isClosed file := by
    simp only [isClosed, if_true, h.held]
  rw [beneath]
  cases shut : (streams.older name).isClosed file with
  | true =>
    rw [View.call_shut h.held shut rfl]
    rfl
  | false =>
    rw [View.call_planOpen h.held shut rfl]
    rfl

/-- A view skips by reading, wherever it is. -/
lemma call_advance_of_find? (found : streams.find? name = some (.view v))
    (held : v.file = some file) (count : Nat) :
    streams.call name (.advance count) = (streams.call name (.read count)).map Buffer.length := by
  apply find?_induction found
  · exact View.call_advance held count
  · intro key new rest different kept
    rw [call_other rest different, call_other rest different, kept]
    rfl

end Streams

/-! ### Runs -/

/-- What can happen to a view and its file. -/
inductive Attempt : Type 1 where
  /-- A call on the view. -/
  | call {α : Type} (c : InputCall α)
  /-- Anything else happens, and these are the streams then. -/
  | meanwhile (later : Streams)

namespace Attempt

/-- Streams with a view; the answer to an attempt is what it takes from the cursor on. -/
def machine (name : Nat) : Machine Attempt Bytes Streams
  | .call c, streams => (streams.taken name c, (streams.call name c).streams)
  | .meanwhile later, _ => ([], later)

/-- What is taken in a run, put together. -/
def taking (name : Nat) (attempts : List Attempt) (streams : Streams) : Bytes :=
  ((machine name).transcript attempts streams).flatMap Prod.snd

/-- The attempt does not close the view or move its cursor by seeking, and what else happens spares
the view and leaves its file truthful. -/
def Fair (data : Bytes) (name file : Nat) (streams : Streams) : Attempt → Prop
  | .call c => c.isClose = false ∧ (c.isSeek = true → (streams.call name c).result.isOk = false)
  | .meanwhile later =>
    later.find? name = streams.find? name ∧ (later.older name).Truthful data file

/-- All attempts of a run are fair. -/
def Steady (data : Bytes) (name file : Nat) : List Attempt → Streams → Prop
  | [], _ => True
  | attempt :: attempts, streams =>
    attempt.Fair data name file streams ∧
      Steady data name file attempts (machine name attempt streams).2

end Attempt

open Attempt (taking)

variable {data : Bytes} {streams : Streams} {name file : Nat} {v : View}

/-- What is taken in a run is what the cursor passes over. -/
lemma Streams.Overlooks.run (h : streams.Overlooks data name file v) {attempts : List Attempt}
    (steady : Attempt.Steady data name file attempts streams) :
    ∃ w, ((Attempt.machine name).final attempts streams).Overlooks data name file w ∧ v.Moved w ∧
      v.position ≤ w.position ∧
        taking name attempts streams = data.between v.address w.address := by
  induction attempts generalizing streams v with
  | nil =>
    refine ⟨v, h, .refl v, Int.le_refl _, ?_⟩
    rw [Bytes.between_self]
    rfl
  | cons attempt attempts ih =>
    obtain ⟨fair, steady⟩ := steady
    cases attempt with
    | call c =>
      obtain ⟨next, step⟩ := h.step c fair.1
      obtain ⟨first, taken⟩ := step.taken fair.2
      obtain ⟨w, overlooks, moved, later, rest⟩ := ih step.overlooks steady
      refine ⟨w, overlooks, step.moved.trans moved, Int.le_trans first later, ?_⟩
      calc taking name (.call c :: attempts) streams
          = streams.taken name c ++ taking name attempts (streams.call name c).streams := rfl
        _ = data.between v.address next.address ++ data.between next.address w.address := by
          rw [taken, rest]
        _ = data.between v.address w.address :=
          Bytes.between_append data (step.moved.address_le first) (moved.address_le later)
    | meanwhile later =>
      exact ih ⟨fair.1.trans h.found, h.held, h.confined, fair.2⟩ steady

/-- A view that has not lost its place: what has become of it, given what has been taken in a run
and the streams after the run, and what a call does to it then. -/
structure KeepsPlace (data : Bytes) (name file : Nat) (v : View) (taken : Bytes) (later : Streams)
    (w : View) : Prop where
  /-- The view is still there, with its file and its window, and its cursor within the window. -/
  found : later.find? name = some (.view w)
  moved : v.Moved w
  confined : w.Confined
  onward : v.position ≤ w.position
  /-- What has been delivered and skipped are the bytes from the first cursor to the last one. -/
  taken : taken = data.between (v.start + v.position) (v.start + w.position)
  /-- Unless the file is closed, the view tells this last cursor. -/
  tells : (later.call name .tell).result =
    if later.isClosed name then .error (.error (.closed .tell)) else .ok w.position
  /-- Skipping is reading, and tells the length of what has been read. -/
  skips : ∀ count,
    later.call name (.advance count) = (later.call name (.read count)).map Buffer.length
  /-- A call fails with the fault of the file, or because the file is closed, or because the call
  names a position that is not in the window or looks ahead; it leaves the view as it was. -/
  failed : ∀ {α : Type} (c : InputCall α) (fault : Fault), c.isClose = false →
    (later.call name c).result = .error fault →
      (later.call name c).streams.find? name = some (.view w) ∧
        w.Refusal (later.older name) file c fault
  /-- A call that has such a reason to fail does fail, with that fault: no failure of a read of the
  file is passed over. -/
  fails : ∀ {α : Type} (c : InputCall α) (fault : Fault), c.isClose = false →
    w.Refusal (later.older name) file c fault → (later.call name c).result = .error fault
  /-- Reading by position does not move the cursor. -/
  addressed : ∀ {α : Type} (c : InputCall α), c.isAddressed = true →
    (later.call name c).streams.find? name = some (.view w)

/-- **A view keeps its place** upon a file that holds the data, although reads of the file may fail
or fall short, each in another way, and whatever else happens meanwhile: no call that fails changes
the view, and whoever reads on, tries again after a failure, or skips, gets every byte of the data
once, in order, from the cursor on. -/
theorem view_keeps_its_place (overlooks : streams.Overlooks data name file v)
    (attempts : List Attempt) (steady : Attempt.Steady data name file attempts streams) :
    ∃ w, KeepsPlace data name file v (taking name attempts streams)
      ((Attempt.machine name).final attempts streams) w := by
  obtain ⟨w, now, moved, onward, taken⟩ := overlooks.run steady
  have same : w.address = v.start + w.position := by
    obtain ⟨position, rfl⟩ := moved
    rfl
  refine ⟨w, now.found, moved, now.confined, onward, ?_, ?_, fun count => ?_,
    fun c fault stays failed => ?_, fun c fault stays refusal => ?_, fun c addressed => ?_⟩
  · rw [taken, same]
    rfl
  · exact now.tells
  · exact Streams.call_advance_of_find? now.found now.held count
  · obtain ⟨next, step⟩ := now.step c stays
    obtain ⟨rfl, refusal⟩ := step.failed failed
    exact ⟨step.overlooks.found, refusal⟩
  · rw [(Streams.call_of_find? now.found c).1]
    exact refusal.fails now.held stays
  · have stays := InputCall.isClose_of_isQuery (InputCall.isQuery_of_isAddressed addressed)
    obtain ⟨next, step⟩ := now.step c stays
    exact step.addressed addressed ▸ step.overlooks.found

/-- A faltering file is truthful. -/
lemma ScriptedFile.truthful_faltering (data : Bytes) (limits : List (Option Nat)) :
    (faltering data limits).Truthful data := by
  intro reply member request place count bytes asked _ replied
  obtain ⟨limit, _, rfl⟩ := List.mem_map.mp member
  cases limit with
  | none => cases replied
  | some most =>
    simp only [asked] at replied
    cases replied
    refine ⟨?_, List.take_prefix _ _⟩
    exact Nat.le_trans (List.length_take_le ..) (Nat.min_le_right ..)

/-- A view of three bytes upon a view of six bytes upon a slow file of eight, which fails, gets one
byte, fails again, gets nothing, and then all that it is asked for. -/
def falteringViews : Streams :=
  [(4, .view ⟨some 3, 2, 3, 0⟩), (3, .shared 2 1), (2, .view ⟨some 1, 1, 6, 0⟩), (1, .slow 0 9),
    (0, .scripted (.faltering [10, 11, 12, 13, 14, 15, 16, 17]
      [none, some 1, none, some 0, some 8, some 8]))]

/-- Reading, skipping and reading into a target, each once more after a failure. -/
def retries : List Attempt :=
  [.call (.read 2), .call (.read 2), .call (.advance 1), .call (.advance 1),
    .call (.seek 9), .call (.readInto [0, 0, 0]), .call (.readAt 1 2)]

/-- All three bytes are taken, each of them once. -/
theorem retries_keep_place :
    falteringViews.Overlooks [11, 12, 13, 14, 15, 16] 4 3 ⟨some 3, 2, 3, 0⟩ ∧
      Attempt.Steady [11, 12, 13, 14, 15, 16] 4 3 retries falteringViews ∧
        ∃ w, KeepsPlace [11, 12, 13, 14, 15, 16] 4 3 ⟨some 3, 2, 3, 0⟩ [13, 14, 15]
          ((Attempt.machine 4).final retries falteringViews) w := by
  have base := (ScriptedFile.truthful_faltering [10, 11, 12, 13, 14, 15, 16, 17]
    [none, some 1, none, some 0, some 8, some 8]).stream 0 []
  have outer : View.Confined ⟨some 1, 1, 6, 0⟩ := ⟨by decide, by decide, by decide, by decide⟩
  have inner : View.Confined ⟨some 3, 2, 3, 0⟩ := ⟨by decide, by decide, by decide, by decide⟩
  have overlooks : falteringViews.Overlooks [11, 12, 13, 14, 15, 16] 4 3 ⟨some 3, 2, 3, 0⟩ :=
    ⟨rfl, rfl, inner, ((base.slow 1 9).view rfl outer 2).shared 3 1⟩
  have steady : Attempt.Steady [11, 12, 13, 14, 15, 16] 4 3 retries falteringViews := by
    refine ⟨⟨rfl, ?_⟩, ⟨rfl, ?_⟩, ⟨rfl, ?_⟩, ⟨rfl, ?_⟩, ⟨rfl, ?_⟩, ⟨rfl, ?_⟩, ⟨rfl, ?_⟩, trivial⟩
    all_goals decide
  exact ⟨overlooks, steady, view_keeps_its_place overlooks retries steady⟩

end ByteStreams
