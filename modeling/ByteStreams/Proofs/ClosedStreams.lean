import ByteStreams.Proofs.Input.Closings
import ByteStreams.Proofs.Output.Closed

/-!
# The law of closed streams

Every output stream, every reader, and every stream in any tower of views and slow streams upon
readers obeys the law of closed streams (`ClosedLaw`), in all states that can be reached: this is
`closed_streams_law`.

Towers are built, used and taken down in turns (`Turn`).  A new stream stands upon one that has not
been dropped, and what is dropped takes nothing away from what is left (`Towers.Permits`).  Nothing
else is asked: a stream can be called even if others stand upon it, so that it may be closed under
them.  What a turn leaves (`Towers.Step`) is sound if it was sound before (`Towers.Sound`); so in
all that can be reached a stream is closed exactly if a view or a reader in it has been closed.
-/

namespace ByteStreams

/-- What can be done with towers: a new reader can be set up, and a new slow stream, and with the
streams that there are can be done what a program does. -/
inductive Turn : Type 1 where
  | reader (name : Nat) (buffer : Buffer)
  | slow (name inner clock : Nat)
  | act (done : Act)

/-- Streams, and the names of those that have been dropped. -/
structure Towers where
  streams : Streams := []
  lost : List Nat := []

namespace Towers

/-- A new stream has a new name, and stands upon one that has not been dropped. -/
def CanAdd (t : Towers) (name inner : Nat) : Prop :=
  name ∉ t.streams.names ∧ inner ∈ t.streams.names ∧ inner ∉ t.lost

/-- What is left when some streams are dropped does not stand upon any of them. -/
def CanLose (t : Towers) (lost : List Nat) : Prop :=
  ∀ entry ∈ t.streams, ∀ inner ∈ entry.2.beneath?, inner ∈ lost → entry.1 ∈ lost ++ t.lost

/-- The turns that are possible. -/
def Permits (t : Towers) : Turn → Prop
  | .reader name _ => name ∉ t.streams.names
  | .slow name inner _ | .act (.share name inner) | .act (.openView name inner _ _) =>
    t.CanAdd name inner
  | .act (.dropHandle name) | .act (.dropView name) => t.CanLose (t.streams.lostWith name)
  | .act (.clone _) | .act (.call _ _) => True

instance (t : Towers) (name inner : Nat) : Decidable (t.CanAdd name inner) :=
  inferInstanceAs (Decidable (_ ∉ _ ∧ _ ∈ _ ∧ _ ∉ _))

instance (t : Towers) (lost : List Nat) : Decidable (t.CanLose lost) :=
  inferInstanceAs (Decidable (∀ entry ∈ t.streams, ∀ inner ∈ entry.2.beneath?,
    inner ∈ lost → entry.1 ∈ lost ++ t.lost))

instance (t : Towers) : (turn : Turn) → Decidable (t.Permits turn)
  | .reader _ _ => inferInstanceAs (Decidable (_ ∉ _))
  | .slow name inner _ | .act (.share name inner) | .act (.openView name inner _ _) =>
    inferInstanceAs (Decidable (t.CanAdd name inner))
  | .act (.dropHandle name) | .act (.dropView name) =>
    inferInstanceAs (Decidable (t.CanLose (t.streams.lostWith name)))
  | .act (.clone _) | .act (.call _ _) => inferInstanceAs (Decidable True)

end Towers

/-- The streams on which an act makes a closing call. -/
def Act.closings : Act → Streams → List Nat
  | .call name c, streams => streams.closings name ⟨_, c⟩
  | .share _ _, _ | .clone _, _ | .openView .., _ | .dropHandle _, _ | .dropView _, _ => []

/-- The streams that are lost by an act. -/
def Act.lost : Act → Streams → List Nat
  | .dropHandle name, streams | .dropView name, streams => streams.lostWith name
  | .share _ _, _ | .clone _, _ | .openView .., _ | .call _ _, _ => []

namespace Towers

/-- The answer to a turn, none if the turn is not possible, with the streams on which a closing call
is made. -/
def machine : Machine Turn (Option (Except Fault Seen) × List Nat) Towers := fun turn t =>
  if t.Permits turn then
    match turn with
    | .reader name buffer =>
      ((some (.ok .done), []), { t with streams := (name, .reader { buffer }) :: t.streams })
    | .slow name inner clock =>
      ((some (.ok .done), []), { t with streams := (name, .slow inner clock) :: t.streams })
    | .act done =>
      ((some (t.streams.perform done).1, done.closings t.streams),
        ⟨(t.streams.perform done).2, done.lost t.streams ++ t.lost⟩)
  else ((none, []), t)

/-- All streams on which a closing call has been made. -/
def closedIn (past : List (Turn × Option (Except Fault Seen) × List Nat)) : List Nat :=
  past.flatMap fun e => e.2.2

/-- What a turn means to the stream of a name. -/
def role (name : Nat) : Turn → Role
  | .act (.call stream c) => if stream = name then c.role else .elsewhere
  | .reader _ _ | .slow _ _ _ | .act _ => .elsewhere

/-- The answer says that a stream is closed. -/
def saysClosed (answer : Option (Except Fault Seen) × List Nat) : Bool :=
  answer.1.any breaksAsClosed

/-- A turn asks the stream of a name whether it is closed. -/
def asks (name : Nat) : Turn → Bool
  | .act (.call stream c) => stream = name && c.asks
  | .reader _ _ | .slow _ _ _ | .act _ => false

/-- What the answer tells of being closed, if that was asked. -/
def told? (answer : Option (Except Fault Seen) × List Nat) : Option Bool :=
  answer.1.bind ByteStreams.told?

/-- The answer is that of a turn that was possible and did not fail. -/
def succeeded (answer : Option (Except Fault Seen) × List Nat) : Bool := answer.1.any Except.isOk

/-- The same towers but for handles, with the same streams closed and dropped. -/
def Kept (before after : Towers) : Prop :=
  before.streams.Kept after.streams ∧ after.lost = before.lost

/-! ### What a turn leaves -/

/-- What a turn leaves by which some streams are closed. -/
inductive Step (t : Towers) : List Nat → Towers → Prop
  /-- The streams that there are go on. -/
  | ages {closed lost : List Nat} {after : Streams} (h : t.streams.Ages closed lost after)
      (used : closed ⊆ t.streams.names) (possible : t.CanLose lost) :
      Step t closed ⟨after, lost ++ t.lost⟩
  /-- There is one more. -/
  | adds {name : Nat} {node : Node} {after : Streams} (h : t.streams.Ages [] [] after)
      (isNew : name ∉ t.streams.names) (noScript : node.kind ≠ .scripted)
      (unshut : node.isShut = false)
      (stands : ∀ inner, node.beneath? = some inner →
        inner ∈ t.streams.names ∧ inner ∉ t.lost) :
      Step t [] ⟨(name, node) :: after, t.lost⟩

variable {t later : Towers} {closed more : List Nat} {name : Nat}

/-- Towers in which the streams that have been closed are shut, and no others but those that have
been dropped; and nothing that is left stands upon one of these. -/
structure Sound (closed : List Nat) (t : Towers) : Prop where
  nodup : t.streams.names.Nodup
  onReaders : t.streams.OnReaders
  linked : t.streams.Linked
  used : closed ⊆ t.streams.names
  left : ∀ {key node}, (key, node) ∈ t.streams → ∀ inner, node.beneath? = some inner →
    inner ∈ t.lost → key ∈ t.lost
  shut : ∀ {key node}, (key, node) ∈ t.streams → key ∉ t.lost →
    (node.isShut = true ↔ node.shuts = true ∧ key ∈ closed)

/-- Nothing happens. -/
lemma Step.refl (t : Towers) : t.Step [] t :=
  have loseNothing : t.CanLose [] := fun _ _ _ _ gone => absurd gone List.not_mem_nil
  .ages (.refl [] t.streams fun _ _ => List.not_mem_nil) (List.nil_subset _) loseNothing

/-- Every turn is a step. -/
lemma Sound.step (sound : t.Sound closed) (turn : Turn) :
    t.Step (machine turn t).1.2 (machine turn t).2 := by
  have still : t.streams.Ages [] [] t.streams := .refl [] t.streams fun _ _ => List.not_mem_nil
  have loseNothing : t.CanLose [] := fun _ _ _ _ gone => absurd gone List.not_mem_nil
  unfold machine
  split
  swap
  · exact .refl t
  next possible =>
    cases turn with
    | reader name buffer =>
      exact .adds still possible (fun impossible => by cases impossible) rfl
        fun inner impossible => by cases impossible
    | slow name inner clock =>
      refine .adds still possible.1 (fun impossible => by cases impossible) rfl ?_
      rintro inner ⟨rfl⟩
      exact possible.2
    | act done =>
      cases done with
      | share name inner =>
        refine .adds still possible.1 (fun impossible => by cases impossible) rfl ?_
        rintro inner ⟨rfl⟩
        exact possible.2
      | clone file => exact .ages (still.setHandles ..) (List.nil_subset _) loseNothing
      | openView name inner offset length =>
        simp only [Streams.perform]
        cases opens : t.streams.openView name inner offset length with
        | error e => exact .refl t
        | ok opened =>
          obtain ⟨_, rfl⟩ := openView_eq_ok_iff.mp opens
          refine .adds (still.setHandles ..) possible.1 (fun impossible => by cases impossible)
            rfl ?_
          rintro inner ⟨rfl⟩
          exact possible.2
      | dropHandle name | dropView name =>
        exact .ages (t.streams.letGo_ages name) (List.nil_subset _) possible
      | call name c =>
        exact .ages (Streams.call_ages sound.nodup sound.onReaders c)
          (fun _ member => Streams.mem_names_of_mem_closings member) loseNothing

/-- **Steps keep towers sound.** -/
lemma Sound.of_step (sound : t.Sound closed) (step : t.Step more later) :
    later.Sound (closed ++ more) := by
  cases step with
  | @ages _ lost after h used possible =>
    have names := h.names_eq
    refine ⟨?_, h.onReaders sound.onReaders, h.linked sound.linked, ?_, ?_, ?_⟩
    · rw [names]
      exact sound.nodup
    · rw [names]
      exact List.append_subset.mpr ⟨sound.used, used⟩
    · intro key node member inner stands gone
      obtain ⟨old, was, ages⟩ := h.exists_of_mem member
      have stood : old.beneath? = some inner := ages.beneath_eq stands
      rcases List.mem_append.mp gone with now | before
      · exact possible (key, old) was inner stood now
      · exact List.mem_append_right lost (sound.left was inner stood before)
    · intro key node member stays
      obtain ⟨old, was, ages⟩ := h.exists_of_mem member
      obtain ⟨notNow, notBefore⟩ := not_or.mp fun gone => stays (List.mem_append.mpr gone)
      have before := sound.shut was notBefore
      have now := ages.exact notNow
      rw [now, before, Node.shuts_congr ages.kind, List.mem_append, ← and_or_left]
  | @adds name node after h isNew noScript unshut stands =>
    have names := h.names_eq
    have isNewAfter : name ∉ after.names := names ▸ isNew
    have unused : name ∉ closed := fun ended => isNew (sound.used ended)
    rw [List.append_nil]
    refine ⟨?_, ?_, ?_, ?_, ?_, ?_⟩
    · have nodup : after.names.Nodup := names ▸ sound.nodup
      exact List.nodup_cons.mpr ⟨isNewAfter, nodup⟩
    · exact Streams.onReaders_cons_iff.mpr ⟨noScript, h.onReaders sound.onReaders⟩
    · refine ⟨fun inner upon => ?_, h.linked sound.linked⟩
      rw [names]
      exact (stands inner upon).1
    · have used : closed ⊆ after.names := names ▸ sound.used
      exact List.subset_cons_of_subset name used
    · intro key node member inner upon gone
      rcases List.mem_cons.mp member with same | member
      · cases same
        exact absurd gone (stands inner upon).2
      · obtain ⟨old, was, ages⟩ := h.exists_of_mem member
        exact sound.left was inner (ages.beneath_eq upon) gone
    · intro key node member stays
      rcases List.mem_cons.mp member with same | member
      · cases same
        simp [unshut, unused]
      · obtain ⟨old, was, ages⟩ := h.exists_of_mem member
        have now := ages.exact List.not_mem_nil
        rw [now, sound.shut was stays, Node.shuts_congr ages.kind]
        simp

/-- What is in use stays in use, and what is closed stays closed. -/
lemma Step.stays (step : t.Step more later) (onReaders : t.streams.OnReaders)
    (inUse : name ∈ t.streams.names) :
    name ∈ later.streams.names ∧
      (t.streams.isClosed name = true → later.streams.isClosed name = true) := by
  cases step with
  | ages h used possible =>
    refine ⟨?_, h.isClosed onReaders⟩
    rwa [h.names_eq]
  | @adds new node after h isNew noScript unshut stands =>
    have different : new ≠ name := fun same => isNew (same ▸ inUse)
    have stillInUse : name ∈ after.names := h.names_eq ▸ inUse
    refine ⟨List.mem_cons_of_mem new stillInUse, fun closed => ?_⟩
    rw [Streams.isClosed_cons_of_ne different]
    exact h.isClosed onReaders closed

/-- **What can be reached is sound.** -/
theorem sound_run (turns : List Turn) :
    (machine.final turns {}).Sound (closedIn (machine.transcript turns {})) := by
  refine Machine.run_induction (motive := fun past t => Sound (closedIn past) t) ?_ ?_ turns
  · exact ⟨List.nodup_nil, fun _ impossible => absurd impossible List.not_mem_nil, trivial,
      List.nil_subset _, fun impossible => absurd impossible List.not_mem_nil,
      fun impossible => absurd impossible List.not_mem_nil⟩
  · intro past t turn sound
    have next := sound.of_step (sound.step turn)
    simpa only [closedIn, List.flatMap_append, List.flatMap_singleton] using next

/-! ### The law -/

/-- A turn that is about a stream is a call. -/
lemma exists_call_of_role {turn : Turn} (about : role name turn ≠ .elsewhere) :
    ∃ (α : Type) (c : InputCall α), turn = .act (.call name c) ∧ role name turn = c.role := by
  cases turn with
  | reader _ _ | slow _ _ _ => exact absurd rfl about
  | act done =>
    cases done with
    | call stream c =>
      simp only [role] at about ⊢
      split
      · next same =>
        subst same
        exact ⟨_, c, rfl, rfl⟩
      · next other =>
        rw [if_neg other] at about
        exact absurd rfl about
    | share _ _ | clone _ | openView _ _ _ _ | dropHandle _ | dropView _ => exact absurd rfl about

/-- Every call is possible. -/
lemma machine_call {α : Type} (t : Towers) (name : Nat) (c : InputCall α) :
    machine (.act (.call name c)) t =
      ((some ((t.streams.call name c).result.map c.seen), t.streams.closings name ⟨α, c⟩),
        ⟨(t.streams.call name c).streams, t.lost⟩) :=
  if_pos trivial

/-- What a call answers when it fails because a stream is closed. -/
lemma saysClosed_call {α : Type} (t : Towers) (name : Nat) (c : InputCall α) :
    saysClosed (machine (.act (.call name c)) t).1 =
      breaksAsClosed (t.streams.call name c).result := by
  rw [machine_call]
  exact breaksAsClosed_map _ c.seen

/-- What a call answers when it succeeds. -/
lemma succeeded_call {α : Type} (t : Towers) (name : Nat) (c : InputCall α) :
    succeeded (machine (.act (.call name c)) t).1 = (t.streams.call name c).result.isOk := by
  rw [machine_call]
  exact isOk_map _ c.seen

/-- A stream that is asked whether it is closed tells, in whatever towers. -/
lemma tells_of_asks (t : Towers) {turn : Turn} (asked : asks name turn = true) :
    told? (machine turn t).1 = some (t.streams.isClosed name) ∧ (machine turn t).2 = t := by
  cases turn with
  | reader _ _ | slow _ _ _ => cases asked
  | act done =>
    cases done with
    | call stream c =>
      obtain ⟨same, question⟩ := Bool.and_eq_true_iff.mp asked
      cases of_decide_eq_true same
      cases c with
      | isClosed =>
        rw [machine_call, Streams.call_isClosed]
        exact ⟨rfl, rfl⟩
      | _ => cases question
    | share _ _ | clone _ | openView _ _ _ _ | dropHandle _ | dropView _ => cases asked

/-- A closed stream refuses what needs it open. -/
lemma Sound.refuses (sound : t.Sound closed) (isClosed : t.streams.isClosed name = true)
    {α : Type} {c : InputCall α} (works : c.role = .works) :
    saysClosed (machine (.act (.call name c)) t).1 = true ∧
      (machine (.act (.call name c)) t).2 = t := by
  have stays : c.isClose = false := InputCall.isClose_of_works works
  obtain ⟨copiesNothing, result, left⟩ := Streams.call_of_closed sound.onReaders isClosed stays
  refine ⟨?_, ?_⟩
  · rw [saysClosed_call, result, breaksAsClosed_mapError]
    exact InputCall.failsAsClosed_whenClosed works copiesNothing
  · rw [machine_call, left]

/-- A closed stream can be asked, and closed again. -/
lemma Sound.keeps (sound : t.Sound closed) (isClosed : t.streams.isClosed name = true)
    {α : Type} {c : InputCall α} (harmless : c.role = .harmless) :
    succeeded (machine (.act (.call name c)) t).1 = true ∧
      t.Kept (machine (.act (.call name c)) t).2 := by
  rw [succeeded_call, machine_call]
  cases closes : c.isClose with
  | false =>
    obtain ⟨copiesNothing, result, left⟩ := Streams.call_of_closed sound.onReaders isClosed closes
    rw [result, left]
    have answered := InputCall.isOk_whenClosed harmless copiesNothing
    refine ⟨?_, .refl t.streams, rfl⟩
    rwa [isOk_mapError]
  | true =>
    cases c with
    | close =>
      obtain ⟨result, kept⟩ := Streams.call_close_of_closed sound.onReaders isClosed
      rw [result]
      exact ⟨rfl, kept, rfl⟩
    | _ => cases closes

/-- A closed stream stays closed for the rest of a run. -/
lemma Sound.stays (sound : t.Sound closed) (inUse : name ∈ t.streams.names)
    (isClosed : t.streams.isClosed name = true) (turns : List Turn) :
    (machine.final turns t).streams.isClosed name = true := by
  induction turns generalizing t closed with
  | nil => exact isClosed
  | cons turn turns ih =>
    have step := sound.step turn
    obtain ⟨stillInUse, stays⟩ := step.stays sound.onReaders inUse
    exact ih (sound.of_step step) stillInUse (stays isClosed)

/-- **Every stream of sound towers** obeys the law of closed streams. -/
theorem Sound.closedLaw (sound : t.Sound closed) (inUse : name ∈ t.streams.names) :
    ClosedLaw machine (fun t => t.streams.isClosed name) (role name) (asks name) told? saysClosed
      succeeded Kept t where
  tells _ := tells_of_asks t
  refuses isClosed turn works := by
    have about : role name turn ≠ .elsewhere := fun other => by cases works.symm.trans other
    obtain ⟨α, c, rfl, called⟩ := exists_call_of_role about
    exact sound.refuses isClosed (called.symm.trans works)
  keeps isClosed turn harmless := by
    have about : role name turn ≠ .elsewhere := fun other => by cases harmless.symm.trans other
    obtain ⟨α, c, rfl, called⟩ := exists_call_of_role about
    exact sound.keeps isClosed (called.symm.trans harmless)
  stays isClosed turns _ := sound.stays inUse isClosed turns
  opened isOpen turn about := by
    obtain ⟨α, c, rfl, -⟩ := exists_call_of_role about
    rw [saysClosed_call]
    exact Streams.call_of_open sound.onReaders isOpen c

/-- The parts of a stream that has not been dropped have not been dropped. -/
lemma Sound.not_lost_of_mem_parts (sound : t.Sound closed) (stays : name ∉ t.lost)
    {part : Nat × Node} (member : part ∈ t.streams.parts name) : part.1 ∉ t.lost := by
  refine Streams.parts_induction (motive := (· ∉ t.lost)) (fun member inner stands left => ?_) stays
    member
  exact fun gone => left (sound.left member inner stands gone)

/-- **What is closed has been closed**: the stream itself, if it is a view or a reader, or one of
those that it stands upon. -/
theorem Sound.isClosed_iff (sound : t.Sound closed) (inUse : name ∈ t.streams.names)
    (stays : name ∉ t.lost) :
    t.streams.isClosed name = true ↔
      ∃ part ∈ t.streams.parts name, part.2.shuts = true ∧ part.1 ∈ closed := by
  rw [Streams.isClosed_iff sound.onReaders sound.linked inUse]
  refine exists_congr fun part => and_congr_right fun member => ?_
  have left : part.1 ∉ t.lost := sound.not_lost_of_mem_parts stays member
  exact sound.shut (Streams.mem_of_mem_parts member) left

/-- What is true of towers after some turns. -/
structure Law (turns : List Turn) (t : Towers) : Prop where
  /-- Every stream obeys the law of closed streams. -/
  law : ∀ name ∈ t.streams.names,
    ClosedLaw machine (fun t => t.streams.isClosed name) (role name) (asks name) told? saysClosed
      succeeded Kept t
  /-- A stream that has not been dropped is closed exactly if a view or a reader among its parts has
  been closed. -/
  closed_iff : ∀ name ∈ t.streams.names, name ∉ t.lost →
    (t.streams.isClosed name = true ↔ ∃ part ∈ t.streams.parts name,
      part.2.shuts = true ∧ part.1 ∈ closedIn (machine.transcript turns {}))

end Towers

/-- **The law of closed streams** holds of append streams, writers of fixed capacity, counting sinks
and readers in every state, and of every stream in towers after any turns. -/
theorem closed_streams_law :
    (∀ s : AppendStream, ClosedLaw AppendStream.machine AppendStream.closed AppendStream.role
      AppendStream.asks Reply.told? Reply.saysClosed Reply.succeeded Eq s) ∧
    (∀ w : FixedWriter, ClosedLaw FixedWriter.machine FixedWriter.closed FixedWriter.role
      FixedWriter.asks Reply.told? Reply.saysClosed Reply.succeeded FixedWriter.SameUpToOptions w) ∧
    (∀ k : CountingSink, ClosedLaw CountingSink.machine CountingSink.closed CountingSink.role
      CountingSink.asks Reply.told? Reply.saysClosed Reply.succeeded Eq k) ∧
    (∀ r : Reader, ClosedLaw Reader.machine Reader.closed (fun c : AnyCall => c.2.role)
      (fun c => c.2.asks) told? breaksAsClosed Except.isOk Eq r) ∧
    ∀ turns : List Turn, Towers.Law turns (Towers.machine.final turns {}) := by
  refine ⟨AppendStream.closedLaw, FixedWriter.closedLaw, CountingSink.closedLaw,
    Reader.closedLaw, fun turns => ?_⟩
  have sound := Towers.sound_run turns
  exact ⟨fun name inUse => sound.closedLaw inUse,
    fun name inUse stays => sound.isClosed_iff inUse stays⟩

/-- A slow stream upon a view of a shared reader: closing the view closes the slow stream, but not
the reader, on which the program holds a handle. -/
example :
    let turns : List Turn := [.reader 0 (.ofBytes ⟨0, 0⟩ [97, 98, 99]), .act (.share 1 0),
      .act (.openView 2 1 1 2), .slow 3 2 9, .act (.call 2 .close)]
    Towers.closedIn (Towers.machine.transcript turns {}) = [2] ∧
      (Towers.machine.final turns {}).streams.isClosed 3 = true ∧
      (Towers.machine.final turns {}).streams.isClosed 1 = false :=
  ⟨rfl, rfl, rfl⟩

end ByteStreams
