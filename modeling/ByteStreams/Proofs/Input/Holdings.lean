import ByteStreams.Input.Sharing
import ByteStreams.Proofs.Input.Plan
import ByteStreams.Proofs.Input.TowerReader

/-!
# What a program holds of its streams

A program holds handles on shared files, each as often as it has copied it, and views, each once.
Through a handle it can ask what leaves the stream as it is (`InputCall.isQuery`); a view that it
holds answers any call.  A view can be moved into a new shared file (`Act.share`) and is the
program's no more then.  Handles and views can be dropped: whatever loses its last handle with that
is dropped as well, and closed by none of it (`Streams.letGo`).  Closing gives up handles in the
same way (`Streams.giveUp`), but for what becomes of a reader.

`Streams.perform` is what an act does, and `Holdings.machine` carries out the acts that are possible
with what the program holds.
-/

namespace ByteStreams

/-- What a stream is, whatever its state. -/
inductive Node.Kind where
  | reader | scripted | shared | view | slow
  deriving DecidableEq, Repr

/-- The kind of a stream. -/
def Node.kind : Node → Node.Kind
  | reader _ => .reader
  | scripted _ => .scripted
  | shared _ _ => .shared
  | view _ => .view
  | slow _ _ => .slow

namespace Node

/-- What is left of a stream that has been given up; a reader is left in the state `leave`. -/
def givenUp (leave : Reader → Reader) : Node → Node
  | reader r => reader (leave r)
  | scripted f => scripted f
  | shared inner count => shared inner (count - 1)
  | view v => view { v with file := none }
  | slow inner clock => slow inner clock

/-- The stream that is given up along with a stream. -/
def takesAlong? : Node → Option Nat
  | shared inner count => if count = 1 then some inner else none
  | view v => v.file
  | slow inner _ => some inner
  | reader _ | scripted _ => none

/-- Giving up leaves the kind. -/
@[simp] lemma kind_givenUp (leave : Reader → Reader) (node : Node) :
    (node.givenUp leave).kind = node.kind := by
  cases node <;> rfl

end Node

namespace Streams

/-- The kind of the stream of a name. -/
def kind? (streams : Streams) (name : Nat) : Option Node.Kind := (streams.find? name).map Node.kind

/-- A name that stands for a shared file. -/
def isFile (streams : Streams) (name : Nat) : Bool := streams.kind? name = some .shared

/-- Giving up the newest stream. -/
lemma giveUp_cons_self (leave : Reader → Reader) (key : Nat) (node : Node) (rest : Streams) :
    giveUp leave ((key, node) :: rest) key = (key, node.givenUp leave) ::
      match node.takesAlong? with
      | none => rest
      | some beneath => giveUp leave rest beneath := by
  cases node with
  | shared inner count =>
    simp only [giveUp, if_true, Node.givenUp, Node.takesAlong?]
    split <;> rfl
  | view v =>
    obtain ⟨file, start, length, position⟩ := v
    cases file <;> simp only [giveUp, if_true] <;> rfl
  | reader r | scripted f | slow inner clock =>
    simp only [giveUp, if_true]
    rfl

/-! ### Nothing becomes a stream of another kind -/

variable {streams rest : Streams} {name other key : Nat} {node : Node}

/-- The kind of the newest stream. -/
@[simp] lemma kind?_cons_self (name : Nat) (node : Node) (rest : Streams) :
    kind? ((name, node) :: rest) name = some node.kind := by
  simp [kind?, find?]

/-- The kind of an older stream. -/
lemma kind?_cons_of_ne (different : key ≠ name) :
    kind? ((key, node) :: rest) name = rest.kind? name := by
  simp [kind?, find?, different]

/-- A name that is not in use. -/
lemma kind?_eq_none_iff : streams.kind? name = none ↔ streams.find? name = none :=
  Option.map_eq_none_iff

/-- What is kept of a stream in use, if its kind is kept. -/
lemma kind?_cons_congr {new : Node} {later : Streams} (head : new.kind = node.kind)
    (tail : later.kind? other = rest.kind? other) :
    kind? ((key, new) :: later) other = kind? ((key, node) :: rest) other := by
  by_cases same : key = other
  · subst same
    rw [kind?_cons_self, kind?_cons_self, head]
  · rw [kind?_cons_of_ne same, kind?_cons_of_ne same, tail]

/-- Shared files go by the kinds. -/
lemma isFile_congr {later : Streams} (same : later.kind? name = streams.kind? name) :
    later.isFile name = streams.isFile name := by
  unfold isFile
  rw [same]

/-- A change of the handles on one file leaves the other names alone. -/
lemma find?_setHandles_other (different : other ≠ name) (change : Nat → Nat)
    (streams : Streams) : (setHandles change streams name).find? other = streams.find? other := by
  induction streams with
  | nil => rfl
  | cons entry rest ih =>
    obtain ⟨key, node⟩ := entry
    by_cases same : key = name
    · subst same
      cases node <;> simp [setHandles, find?, Ne.symm different]
    · simp only [setHandles, find?, if_neg same, ih]

/-- The number of handles has nothing to do with the kinds. -/
@[simp] lemma kind?_setHandles (change : Nat → Nat) (streams : Streams) (name other : Nat) :
    (setHandles change streams name).kind? other = streams.kind? other := by
  induction streams with
  | nil => rfl
  | cons entry rest ih =>
    obtain ⟨key, node⟩ := entry
    by_cases same : key = name
    · cases node with
      | shared inner count =>
        simp only [setHandles, if_pos same]
        exact kind?_cons_congr rfl rfl
      | reader _ | scripted _ | view _ | slow _ _ => simp only [setHandles, if_pos same]
    · simp only [setHandles, if_neg same]
      exact kind?_cons_congr rfl ih

/-- **Giving up**, as an induction: what holds between any streams and themselves, and keeps holding
when a stream is put before both or is given up before both, holds before and after giving up. -/
theorem giveUp_induction {leave : Reader → Reader} {motive : Streams → Streams → Prop}
    (refl : ∀ streams, motive streams streams)
    (older : ∀ entry rest later, motive rest later → motive (entry :: rest) (entry :: later))
    (here : ∀ key node rest later, motive rest later →
      motive ((key, node) :: rest) ((key, node.givenUp leave) :: later))
    (streams : Streams) (name : Nat) : motive streams (streams.giveUp leave name) := by
  induction streams generalizing name with
  | nil => exact refl []
  | cons entry rest ih =>
    obtain ⟨key, node⟩ := entry
    by_cases same : key = name
    · subst same
      rw [giveUp_cons_self]
      cases node.takesAlong? with
      | none => exact here key node rest rest (refl rest)
      | some beneath => exact here key node rest _ (ih beneath)
    · simp only [giveUp, if_neg same]
      exact older (key, node) rest _ (ih name)

/-- Giving up leaves the kinds. -/
@[simp] lemma kind?_giveUp (leave : Reader → Reader) (streams : Streams) (name other : Nat) :
    (streams.giveUp leave name).kind? other = streams.kind? other :=
  giveUp_induction (motive := fun before after => after.kind? other = before.kind? other)
    (fun _ => rfl) (fun _ _ _ => kind?_cons_congr rfl)
    (fun _ node _ _ => kind?_cons_congr (node.kind_givenUp leave)) streams name

/-- Letting go leaves the kinds. -/
@[simp] lemma kind?_letGo (streams : Streams) (name other : Nat) :
    (streams.letGo name).kind? other = streams.kind? other :=
  kind?_giveUp id streams name other

/-- A call leaves the kinds. -/
@[simp] lemma kind?_call {α : Type} (streams : Streams) (name : Nat) (c : InputCall α)
    (other : Nat) : (streams.call name c).streams.kind? other = streams.kind? other := by
  induction streams generalizing name α with
  | nil => rfl
  | cons entry rest ih =>
    obtain ⟨key, node⟩ := entry
    by_cases same : key = name
    · subst same
      cases node with
      | reader r =>
        rw [call_reader]
        exact kind?_cons_congr rfl rfl
      | scripted f =>
        simp only [call, if_true]
        exact kind?_cons_congr rfl rfl
      | shared inner count =>
        rw [call_shared]
        exact kind?_cons_congr rfl (ih inner c)
      | slow inner clock =>
        by_cases skips : c.isAdvance = false
        · rw [(call_slow rest key inner clock skips).2]
          exact kind?_cons_congr rfl (ih inner c)
        · cases c with
          | advance count =>
            rw [call_slow_advance]
            exact kind?_cons_congr rfl (ih inner (.read count))
          | _ => exact absurd rfl skips
      | view v =>
        cases held : v.file with
        | none => rw [call_view_closed rest key held]; rfl
        | some file =>
          by_cases stays : c.isClose = false
          · obtain ⟨next, _, unread | ⟨β, d, _, read⟩⟩ := call_view_moved rest key held stays
            · rw [unread]
              exact kind?_cons_congr rfl rfl
            · rw [read]
              exact kind?_cons_congr rfl (ih file d)
          · cases c with
            | close =>
              simp only [call, if_true, held]
              refine kind?_cons_congr rfl ?_
              rw [release, kind?_setHandles]
              split
              · exact ih file .close
              · rfl
            | _ => exact absurd rfl stays
    · rw [call_other rest same]
      exact kind?_cons_congr rfl (ih name c)

end Streams

/-- What a program can do with its streams. -/
inductive Act : Type 1 where
  /-- Moves a stream into a new shared file with one handle. -/
  | share (file stream : Nat)
  /-- Copies a handle. -/
  | clone (file : Nat)
  /-- Opens a view with a handle of its own. -/
  | openView (view file : Nat) (offset length : Int)
  | dropHandle (file : Nat)
  | dropView (view : Nat)
  | call (stream : Nat) {α : Type} (c : InputCall α)

/-- The stream that an act makes, and the one that it is built upon. -/
def Act.made? : Act → Option (Nat × Nat)
  | .share file stream => some (file, stream)
  | .openView view file _ _ => some (view, file)
  | .clone _ | .dropHandle _ | .dropView _ | .call _ _ => none

/-- What an act answers, and the streams after it. -/
def Streams.perform : Act → Streams → Except Fault Seen × Streams
  | .share file stream, streams => (.ok .done, (file, .shared stream 1) :: streams)
  | .clone file, streams => (.ok .done, streams.retain file)
  | .openView view file offset length, streams =>
    match streams.openView view file offset length with
    | .error e => (.error (.error e), streams)
    | .ok opened => (.ok .done, opened)
  | .dropHandle file, streams => (.ok .done, streams.letGo file)
  | .dropView view, streams => (.ok .done, streams.letGo view)
  | .call stream c, streams =>
    let served := streams.call stream c
    (served.result.map c.seen, served.streams)

/-- Streams, and what a program holds of them: the name of a file once for each of its handles, and
the names of its views. -/
structure Holdings where
  streams : Streams
  held : List Nat

namespace Holdings

/-- A new shared file that stands for a stream, with one handle. -/
def ofFile (node : Node) : Holdings := ⟨[(1, .shared 0 1), (0, node)], [1]⟩

/-- The acts that are possible with what the program holds.  A handle can be copied from any that
exists, for a view shows its own. -/
def Permits (h : Holdings) : Act → Prop
  | .share file stream =>
    stream ∈ h.held ∧ h.streams.isFile stream = false ∧ h.streams.find? file = none
  | .clone file => 0 < h.streams.handles file
  | .openView view file _ _ => 0 < h.streams.handles file ∧ h.streams.find? view = none
  | .dropHandle file => file ∈ h.held ∧ h.streams.isFile file = true
  | .dropView view => view ∈ h.held ∧ h.streams.isFile view = false
  | .call stream c =>
    if h.streams.isFile stream then 0 < h.streams.handles stream ∧ c.isQuery = true
    else stream ∈ h.held

instance (h : Holdings) : (act : Act) → Decidable (h.Permits act)
  | .share _ _ => inferInstanceAs (Decidable (_ ∧ _ = _ ∧ Streams.find? _ _ = none))
  | .clone _ => inferInstanceAs (Decidable (_ < _))
  | .openView .. => inferInstanceAs (Decidable (_ < _ ∧ Streams.find? _ _ = none))
  | .dropHandle _ => inferInstanceAs (Decidable (_ ∧ _ = _))
  | .dropView _ => inferInstanceAs (Decidable (_ ∧ _ = _))
  | .call _ _ => inferInstanceAs (Decidable (if _ = true then _ ∧ _ = _ else _))

/-- What the program holds after an act that was carried out. -/
def heldAfter (held : List Nat) (succeeded : Bool) : Act → List Nat
  | .share file stream => file :: held.erase stream
  | .clone file => file :: held
  | .openView view _ _ _ => if succeeded then view :: held else held
  | .dropHandle file => held.erase file
  | .dropView view => held.erase view
  | .call _ _ => held

/-- A program with its streams: the answer to an act, none if the act is not possible. -/
def machine : Machine Act (Option (Except Fault Seen)) Holdings := fun act h =>
  if h.Permits act then
    let (answer, streams) := h.streams.perform act
    (some answer, ⟨streams, heldAfter h.held answer.isOk act⟩)
  else (none, h)

/-- A possible act is performed. -/
lemma machine_of_permits {h : Holdings} {act : Act} (possible : h.Permits act) :
    machine act h = (some (h.streams.perform act).1, ⟨(h.streams.perform act).2,
      heldAfter h.held (h.streams.perform act).1.isOk act⟩) :=
  if_pos possible

/-- An act that is not possible has no answer and no effect. -/
lemma machine_of_not_permits {h : Holdings} {act : Act} (impossible : ¬ h.Permits act) :
    machine act h = (none, h) :=
  if_neg impossible

/-- A program can close the streams that it holds and that are no shared files. -/
lemma permits_close_iff {h : Holdings} {name : Nat} :
    h.Permits (.call name .close) ↔ name ∈ h.held ∧ h.streams.isFile name = false := by
  cases isFile : h.streams.isFile name <;> simp [Permits, isFile, InputCall.isQuery]

/-- An act leaves the kinds of all streams that it does not make. -/
lemma kind?_machine_of_ne (act : Act) (h : Holdings) {name : Nat}
    (other : ∀ basis, act.made? ≠ some (name, basis)) :
    (machine act h).2.streams.kind? name = h.streams.kind? name := by
  by_cases possible : h.Permits act
  · rw [machine_of_permits possible]
    cases act with
    | share file stream =>
      exact Streams.kind?_cons_of_ne fun same => other stream (same ▸ rfl)
    | openView view file offset length =>
      simp only [Streams.perform]
      cases opens : h.streams.openView view file offset length with
      | error e => rfl
      | ok opened =>
        obtain ⟨_, rfl⟩ := openView_eq_ok_iff.mp opens
        have different : view ≠ name := fun same => other file (same ▸ rfl)
        exact (Streams.kind?_cons_of_ne different).trans (Streams.kind?_setHandles ..)
    | clone file => exact Streams.kind?_setHandles ..
    | dropHandle name | dropView name => exact Streams.kind?_letGo ..
    | call name c => exact Streams.kind?_call ..
  · rw [machine_of_not_permits possible]

/-- What a program makes has a new name. -/
lemma find?_of_made {act : Act} {h : Holdings} {name basis : Nat}
    (made : act.made? = some (name, basis)) (possible : h.Permits act) :
    h.streams.find? name = none := by
  cases act with
  | share file stream =>
    cases made
    exact possible.2.2
  | openView view file offset length =>
    cases made
    exact possible.2
  | clone _ | dropHandle _ | dropView _ | call _ _ => cases made

/-- What a program does with a stream leaves it of its kind. -/
lemma kind?_machine (act : Act) (h : Holdings) {name : Nat} {kind : Node.Kind}
    (inUse : h.streams.kind? name = some kind) :
    (machine act h).2.streams.kind? name = some kind := by
  by_cases possible : h.Permits act
  · rw [← inUse]
    refine kind?_machine_of_ne act h fun basis made => ?_
    rw [Streams.kind?_eq_none_iff.mpr (find?_of_made made possible)] at inUse
    cases inUse
  · rwa [machine_of_not_permits possible]

end Holdings

end ByteStreams
