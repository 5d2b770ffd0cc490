import ByteStreams.Proofs.Output.Fixed

/-!
# A writer of fixed capacity is an overlay, whatever its options

The writes of a run that are carried out, each with its place, are a list of overlays
(`carriedOut`), and the target after the run is the target from before with these laid over it
(`OverlaysOf`).  The cursor never leaves the target, so that every copy a writer may have to make
is one between strings of equal length, with chunks of a positive length that is a count of 64 bits
(`Sound`).

The options do not matter.  An operation gives one reply and one writer up to the options
(`machine_options`); `Machine.run_erase` then takes the changes of the options out of a run, and two
runs that differ only in these are the same run (`outcomes_eq_of_withoutSettings_eq`).
-/

namespace ByteStreams.FixedWriter

variable {w : FixedWriter}

/-- A new writer over a target. -/
def start (target : Bytes) (options : CopyOptions) : FixedWriter := { target, options }

/-! ### Overlays -/

/-- The target with the data laid over it, at its place. -/
def lay (target : Bytes) (place : Int × Bytes) : Bytes := target.overlay place.1.toNat place.2

/-- The writes of a run that are carried out, each at the place at which it is issued. -/
def carriedOut : List Operation → FixedWriter → List (Int × Bytes)
  | [], _ => []
  | operation :: operations, w =>
    let (reply, next) := machine operation w
    let place := if reply.succeeded then w.placing operation else none
    place.toList ++ carriedOut operations next

/-- What a run has made of a target: its length is the same, the cursor is within it, and the writes
that were carried out lie over it in order. -/
structure OverlaysOf (target : Bytes) (places : List (Int × Bytes)) (w : FixedWriter) : Prop where
  capacity : w.capacity = target.length
  inside : w.position ≤ w.capacity
  bytes : w.target = places.foldl lay target

/-- An operation lays over the target what it writes, if it succeeds. -/
lemma Does.target_eq {operation : Operation} (h : Does w operation) :
    (machine operation w).2.target =
      ((if (machine operation w).1.succeeded then w.placing operation else none).toList).foldl
        lay w.target := by
  cases writes : w.placing operation with
  | none =>
    have kept := h.keeps fun place same => by simp [writes] at same
    simp [kept]
  | some place =>
    by_cases accepted : w.Accepts place
    · have carried := (h.succeeds place writes).mpr accepted
      simp [carried, h.lays place writes accepted, lay]
    · have failed := mt (h.succeeds place writes).mp accepted
      have kept : (machine operation w).2.target = w.target := h.keeps fun other same => by
        rw [writes] at same
        cases same
        exact accepted
      simp [failed, kept]

/-- **Every run overlays.** -/
theorem overlaysOf_final (operations : List Operation) {w : FixedWriter}
    (inside : w.position ≤ w.capacity) :
    OverlaysOf w.target (carriedOut operations w) (machine.final operations w) := by
  induction operations generalizing w with
  | nil => exact ⟨rfl, inside, rfl⟩
  | cons operation operations ih =>
    have one := does inside operation
    have within : (machine operation w).2.position ≤ (machine operation w).2.capacity := by
      have same : (machine operation w).2.capacity = w.capacity := one.length
      rw [same, one.cursor]
      exact cursorAfter_le inside operation
    obtain ⟨capacity, last, bytes⟩ := ih within
    refine ⟨?_, last, ?_⟩
    · exact capacity.trans one.length
    · change (machine.final operations (machine operation w).2).target = _
      rw [bytes, one.target_eq, ← List.foldl_append]
      rfl

/-- Every run of a new writer overlays the target it was given. -/
lemma overlaysOf_start (target : Bytes) (options : CopyOptions) (operations : List Operation) :
    OverlaysOf target (carriedOut operations (start target options))
      (machine.final operations (start target options)) := by
  have inside : (start target options).position ≤ (start target options).capacity := Nat.zero_le _
  exact overlaysOf_final operations inside

/-! ### Copies that cannot go wrong -/

/-- No copy that the writer may have to make goes wrong, wherever the data fits. -/
structure Sound (w : FixedWriter) : Prop where
  /-- There is a copy: the lengths are equal, and it copies the data. -/
  copies : ∀ (offset : Nat) (data : Bytes), offset + data.length ≤ w.capacity →
    Copy.parallel? (w.target.window offset data.length) data w.options.threads w.options.block =
      some data
  /-- Chunks are not empty, and their length is a count of 64 bits if that of the target is a
  position. -/
  divides : ∀ length ≤ w.capacity,
    Copy.isWhole length w.options.threads w.options.block = false →
      0 < Copy.chunkLength length w.options.threads w.options.block ∧
        ((w.capacity : Int) ≤ maxPosition →
          Copy.chunkLength length w.options.threads w.options.block ≤ maxCount)

/-- Every writer is sound. -/
lemma sound (w : FixedWriter) : Sound w where
  copies offset data fits := by
    refine Copy.parallel?_eq_source ?_ _ _
    unfold capacity at fits
    rw [Bytes.length_window]
    omega
  divides length fits divided := by
    refine ⟨Copy.chunkLength_pos divided, fun short => Copy.chunkLength_le_maxCount divided ?_⟩
    omega

/-! ### The options -/

/-- Two writers that differ at most in their options. -/
def SameUpToOptions (w v : FixedWriter) : Prop :=
  w.target = v.target ∧ w.position = v.position ∧ w.closed = v.closed

/-- The writers that differ from a writer at most in their options are those with other options. -/
lemma sameUpToOptions_iff {w v : FixedWriter} :
    SameUpToOptions w v ↔ v = { w with options := v.options } := by
  constructor
  · rintro ⟨target, position, closed⟩
    rw [target, position, closed]
  · intro same
    rw [same]
    exact ⟨rfl, rfl, rfl⟩

/-- Other options do not make a difference to a write. -/
lemma write_options (w : FixedWriter) (options : CopyOptions) (data : Bytes) :
    { w with options }.write data = ((w.write data).1, { (w.write data).2 with options }) := by
  obtain ⟨target, position, closed, before⟩ := w
  rw [write_eq, write_eq]
  simp only [capacity]
  cases closed with
  | true => rfl
  | false => by_cases short : target.length - position < data.length <;> simp [short]

/-- Other options do not make a difference to a search of a position. -/
lemma seek_options (w : FixedWriter) (options : CopyOptions) (position : Int) :
    { w with options }.seek position =
      ((w.seek position).1, { (w.seek position).2 with options }) := by
  unfold seek
  simp only [capacity]
  split
  · rfl
  · split <;> rfl

/-- Other options do not make a difference to a write at a position. -/
lemma writeAt_options (w : FixedWriter) (options : CopyOptions) (position : Int) (data : Bytes) :
    { w with options }.writeAt position data =
      ((w.writeAt position data).1, { (w.writeAt position data).2 with options }) := by
  unfold writeAt
  rw [seek_options]
  rcases w.seek position with ⟨_ | _, v⟩
  · rfl
  · exact write_options v options data

/-- Other options do not make a difference to any operation that does not change them. -/
lemma machine_options (w : FixedWriter) (options : CopyOptions) {operation : Operation}
    (noSetting : operation.isSetting = false) :
    machine operation { w with options } =
      ((machine operation w).1, { (machine operation w).2 with options }) := by
  cases operation with
  | call c =>
    cases c with
    | write data => simp only [machine, call, write_options]
    | writeBuffer source => simp only [machine, call, write_options]
    | flush => rfl
    | tell => rfl
    | checkOpen during => rfl
    | isClosed => rfl
    | close => rfl
  | channelWrite data =>
    simp only [machine, Channel.write, call, write_options]
  | writeAt position data => simp only [machine, writeAt_options]
  | seek position => simp only [machine, seek_options]
  | setOptions options => cases noSetting
  | change setting => cases noSetting

/-- The operations without the changes of the options. -/
def withoutSettings (operations : List Operation) : List Operation :=
  operations.filter fun operation => !operation.isSetting

/-- The transcript of a run without the changes of the options. -/
def outcomes (operations : List Operation) (w : FixedWriter) : List (Operation × Reply) :=
  (machine.transcript operations w).filter fun e => !e.1.isSetting

/-- A run gives the same outcomes without its changes of the options and with any other options from
the start. -/
lemma outcomes_eq (operations : List Operation) {w v : FixedWriter} (same : SameUpToOptions w v) :
    outcomes operations w = machine.transcript (withoutSettings operations) v ∧
      SameUpToOptions (machine.final operations w)
        (machine.final (withoutSettings operations) v) := by
  refine Machine.run_erase ?_ ?_ operations same
  · intro operation w v setting same
    cases operation with
    | setOptions options => exact same
    | change setting => exact same
    | call c => cases setting
    | channelWrite data => cases setting
    | writeAt position data => cases setting
    | seek position => cases setting
  · intro operation w v noSetting same
    rw [sameUpToOptions_iff.mp same, machine_options w v.options noSetting]
    exact ⟨rfl, rfl, rfl, rfl⟩

/-- **The options do not matter.**  Two runs of the same operations, with other options at the start
and other changes of the options on the way, have the same outcomes and end alike. -/
theorem outcomes_eq_of_withoutSettings_eq {first second : List Operation} {w v : FixedWriter}
    (same : withoutSettings first = withoutSettings second) (alike : SameUpToOptions w v) :
    outcomes first w = outcomes second v ∧
      SameUpToOptions (machine.final first w) (machine.final second v) := by
  obtain ⟨answers, state⟩ := outcomes_eq first alike
  obtain ⟨others, other⟩ := outcomes_eq second (w := v) (v := v) ⟨rfl, rfl, rfl⟩
  rw [← same] at others other
  refine ⟨answers.trans others.symm, ?_⟩
  exact ⟨state.1.trans other.1.symm, state.2.1.trans other.2.1.symm,
    state.2.2.trans other.2.2.symm⟩

/-! ### The refinement -/

/-- What holds of a writer after a run from the start. -/
structure RefinesOverlay (target : Bytes) (options : CopyOptions) (operations : List Operation) :
    Prop where
  /-- The target is the one from the start with the writes that were carried out laid over it. -/
  overlays : OverlaysOf target (carriedOut operations (start target options))
    (machine.final operations (start target options))
  /-- The next operation carries a write out exactly if it is accepted, changes no byte otherwise,
  and moves the cursor behind the data or to the position sought. -/
  next : ∀ operation, Does (machine.final operations (start target options)) operation
  /-- No copy goes wrong. -/
  sound : Sound (machine.final operations (start target options))
  /-- Other options, at the start and on the way, make no difference to the outcomes, the cursor and
  the bytes. -/
  same : ∀ (others : CopyOptions) (second : List Operation),
    withoutSettings operations = withoutSettings second →
      outcomes operations (start target options) = outcomes second (start target others) ∧
        SameUpToOptions (machine.final operations (start target options))
          (machine.final second (start target others))

/-- **A writer of fixed capacity refines an overlay**, over every target, with any options and after
any operations, the changes of the options included. -/
theorem fixed_writer_refines_overlay (target : Bytes) (options : CopyOptions)
    (operations : List Operation) : RefinesOverlay target options operations where
  overlays := overlaysOf_start target options operations
  next operation := does (overlaysOf_start target options operations).inside operation
  sound := sound _
  same _ _ differ := outcomes_eq_of_withoutSettings_eq differ ⟨rfl, rfl, rfl⟩

end ByteStreams.FixedWriter
