import ByteStreams.Proofs.Input.Sight

/-!
# What a program reaches

A program reaches the streams that it holds and the files that have handles.  An act brings nothing
else in reach than what it makes, and changes nothing that is seen through a stream in reach, unless
it calls the stream itself (`Holdings.Step`).  Calling a stream without closing it changes no more
of it than its cursor.

So whatever a program does with its other streams, it sees through a stream what it saw before.
-/

namespace ByteStreams

namespace Act

/-- The stream that an act calls. -/
def called? : Act → Option Nat
  | .call stream _ => some stream
  | .share _ _ | .clone _ | .openView .. | .dropHandle _ | .dropView _ => none

/-- The stream that an act closes. -/
def closed? : Act → Option Nat
  | .call stream c => if c.isClose then some stream else none
  | .share _ _ | .clone _ | .openView .. | .dropHandle _ | .dropView _ => none

end Act

open Streams

namespace Holdings

/-- The streams within reach of the program. -/
def Reaches (h : Holdings) (name : Nat) : Prop := InReach h.held h.streams name

/-- The program holds references to streams that there are, and all references are counted. -/
structure Sound (h : Holdings) : Prop where
  accounted : Accounted h.held h.streams
  inUse : ∀ name ∈ h.held, ∃ kind, h.streams.kind? name = some kind

/-- What an act leaves of what a program reaches. -/
structure Step (act : Act) (h later : Holdings) : Prop where
  accounted : Accounted later.held later.streams
  /-- Nothing comes in reach but what the act makes. -/
  reach : ∀ name, later.Reaches name → (∀ basis, act.made? ≠ some (name, basis)) → h.Reaches name
  /-- Only what the act calls is seen in another state. -/
  seen : ∀ name, later.Reaches name → (∀ basis, act.made? ≠ some (name, basis)) →
    act.called? ≠ some name → later.streams.sight name = h.streams.sight name
  /-- Only what the act closes is seen in another state, but for the cursor. -/
  still : ∀ name, later.Reaches name → (∀ basis, act.made? ≠ some (name, basis)) →
    act.closed? ≠ some name →
      (later.streams.sight name).still = (h.streams.sight name).still

variable {h later : Holdings} {act : Act} {name file stream view : Nat}

/-- A step without a call changes nothing that is seen. -/
lemma Step.of_seen (accounted : Accounted later.held later.streams)
    (reach : ∀ name, later.Reaches name → (∀ basis, act.made? ≠ some (name, basis)) →
      h.Reaches name)
    (seen : ∀ name, later.Reaches name → (∀ basis, act.made? ≠ some (name, basis)) →
      later.streams.sight name = h.streams.sight name) : Step act h later where
  accounted := accounted
  reach := reach
  seen name reaches other _ := seen name reaches other
  still name reaches other _ := congrArg Sight.still (seen name reaches other)

/-- What has no effect changes nothing. -/
lemma Step.refl (sound : h.Sound) : Step act h h :=
  .of_seen sound.accounted (fun _ reaches _ => reaches) fun _ _ _ => rfl

/-- A program holds a stream that is no file once at most. -/
lemma Sound.not_mem_erase (sound : h.Sound) (held : name ∈ h.held)
    (notFile : h.streams.isFile name = false) : name ∉ h.held.erase name := by
  obtain ⟨kind, inUse⟩ := sound.inUse name held
  have single := sound.accounted.count_le_one inUse notFile
  have fewer : (h.held.erase name).count name = h.held.count name - 1 := List.count_erase_self
  rw [← List.count_eq_zero]
  omega

/-- A stream that is no file is out of reach once it is no longer held. -/
lemma Sound.not_reaches_erase (sound : h.Sound) (held : name ∈ h.held)
    (notFile : h.streams.isFile name = false) {streams : Streams}
    (same : streams.kind? name = h.streams.kind? name) :
    ¬ Reaches ⟨streams, h.held.erase name⟩ name := by
  rintro (stillHeld | counted)
  · exact sound.not_mem_erase held notFile stillHeld
  · have none := handles_eq_zero ((isFile_congr same).trans notFile)
    exact absurd counted (Nat.not_lt.mpr (Nat.le_of_eq none))

/-- A name that is not in use is not held. -/
lemma Sound.not_held (sound : h.Sound) (isNew : h.streams.find? name = none) : name ∉ h.held := by
  intro held
  obtain ⟨kind, inUse⟩ := sound.inUse name held
  rw [kind?_eq_none_iff.mpr isNew] at inUse
  cases inUse

/-! ### What each act leaves -/

variable (sound : h.Sound)

include sound

/-- A stream that is moved into a file is out of reach, and the file is new. -/
lemma Sound.share (possible : h.Permits (.share file stream)) :
    Step (.share file stream) h
      ⟨(file, .shared stream 1) :: h.streams, file :: h.held.erase stream⟩ := by
  obtain ⟨held, notFile, isNew⟩ := possible
  have fresh : file ∉ h.held.erase stream := fun member =>
    sound.not_held isNew (List.mem_of_mem_erase member)
  have unused := kind?_eq_none_iff.mpr isNew
  have different {name : Nat}
      (other : ∀ basis, (Act.share file stream).made? ≠ some (name, basis)) : file ≠ name := by
    rintro rfl
    exact other stream rfl
  refine .of_seen ⟨unused, ⟨?_, fun _ => notFile⟩, ?_⟩ (fun name reaches other => ?_)
    fun name reaches other => sight_cons_of_ne (different other)
  · rw [List.count_cons_self, List.count_eq_zero.mpr fresh]
  · have beneath := (sound.accounted.of_mem held).withNew unused
    simp only [Node.links, if_neg Nat.one_ne_zero]
    exact Accounted.rotate' [stream] beneath
  · rcases reaches with stays | counted
    · exact .inl (List.mem_of_mem_erase (List.mem_of_ne_of_mem (different other).symm stays))
    · exact .inr ((handles_cons_of_ne (different other)).symm ▸ counted)

/-- A copy of a handle is on the same file. -/
lemma Sound.clone (possible : h.Permits (.clone file)) :
    Step (.clone file) h ⟨h.streams.retain file, file :: h.held⟩ := by
  refine .of_seen (sound.accounted.retain possible) (fun name reaches _ => ?_)
    fun name _ _ => sight_setHandles ..
  rcases reaches with stays | counted
  · rcases List.mem_cons.mp stays with rfl | held
    · exact .inr possible
    · exact .inl held
  · exact .inr ((handles_retain _ _ _ possible).mp counted)

/-- A new view is a stream of its own. -/
lemma Sound.openView {offset length : Int}
    (possible : h.Permits (.openView view file offset length)) :
    Step (.openView view file offset length) h
      ⟨(view, .view ⟨some file, offset, length, 0⟩) :: h.streams.retain file, view :: h.held⟩ := by
  obtain ⟨counted, isNew⟩ := possible
  have unused : (h.streams.retain file).kind? view = none :=
    (kind?_setHandles ..).trans (kind?_eq_none_iff.mpr isNew)
  have different {name : Nat}
      (other : ∀ basis, (Act.openView view file offset length).made? ≠ some (name, basis)) :
      view ≠ name := by
    rintro rfl
    exact other file rfl
  have single : (view :: h.held).count view ≤ 1 := by
    have unheld : h.held.count view = 0 := List.count_eq_zero.mpr (sound.not_held isNew)
    have counted : (view :: h.held).count view = h.held.count view + 1 := List.count_cons_self
    omega
  have onFile : ∀ held, (View.mk (some file) offset length 0).file = some held →
      (h.streams.retain file).isFile held = true := by
    rintro held ⟨rfl⟩
    exact (isFile_congr (kind?_setHandles ..)).trans (isFile_of_handles_pos counted)
  refine .of_seen ⟨unused, ⟨single, onFile⟩, ?_⟩ (fun name reaches other => ?_)
    fun name reaches other => ?_
  · exact Accounted.rotate' [file] ((sound.accounted.retain counted).withNew unused)
  · rcases reaches with stays | some
    · exact .inl (List.mem_of_ne_of_mem (different other).symm stays)
    · rw [handles_cons_of_ne (different other)] at some
      exact .inr ((handles_retain _ _ _ counted).mp some)
  · exact (sight_cons_of_ne (different other)).trans (sight_setHandles ..)

/-- What is given up is lost, and no more. -/
lemma Sound.giveUp (leave : Reader → Reader) (held : name ∈ h.held) :
    Accounted (if h.streams.isFile name then h.held.erase name else h.held)
      (h.streams.giveUp leave name) ∧
    ∀ other, InReach (h.held.erase name) (h.streams.giveUp leave name) other →
      h.Reaches other ∧ (h.streams.giveUp leave name).sight other = h.streams.sight other := by
  have one := sound.accounted.of_mem held
  have counted := one.giveUp leave
  refine ⟨?_, fun other reaches => ⟨?_, one.sight_giveUp reaches⟩⟩
  · split at counted
    · next isFile => rwa [if_pos isFile]
    · next notFile => rw [if_neg notFile]; exact counted.to_mem held
  · rcases reaches with stays | some
    · exact .inl (List.mem_of_mem_erase stays)
    · exact .inr (Nat.lt_of_lt_of_le some (handles_giveUp_le leave h.streams name other))

/-- A dropped handle is lost, with what is lost with it. -/
lemma Sound.dropHandle (possible : h.Permits (.dropHandle file)) :
    Step (.dropHandle file) h ⟨h.streams.letGo file, h.held.erase file⟩ := by
  obtain ⟨counted, left⟩ := sound.giveUp id possible.1
  rw [if_pos possible.2] at counted
  exact .of_seen counted (fun name reaches _ => (left name reaches).1)
    fun name reaches _ => (left name reaches).2

/-- A dropped view is lost, with what is lost with it. -/
lemma Sound.dropView (possible : h.Permits (.dropView view)) :
    Step (.dropView view) h ⟨h.streams.letGo view, h.held.erase view⟩ := by
  obtain ⟨held, notFile⟩ := possible
  obtain ⟨counted, left⟩ := sound.giveUp id held
  rw [notFile, if_neg Bool.false_ne_true] at counted
  have without := (counted.of_mem held).release ((isFile_congr (kind?_giveUp ..)).trans notFile)
  exact .of_seen without (fun name reaches _ => (left name reaches).1)
    fun name reaches _ => (left name reaches).2

/-- What is asked through a handle changes nothing. -/
lemma Sound.query {α : Type} {c : InputCall α} (query : c.isQuery = true) :
    Step (.call stream c) h ⟨(h.streams.call stream c).streams, h.held⟩ := by
  rw [sound.accounted.query query stream]
  exact .of_seen sound.accounted (fun _ reaches _ => reaches) fun _ _ _ => rfl

/-- A view that is closed gives up what it holds. -/
lemma Sound.close (held : stream ∈ h.held) (notFile : h.streams.isFile stream = false) :
    Step (.call stream .close) h ⟨(h.streams.call stream .close).streams, h.held⟩ := by
  obtain ⟨counted, left⟩ := sound.giveUp Reader.shut held
  rw [notFile, if_neg Bool.false_ne_true] at counted
  rw [sound.accounted.close.1 notFile]
  -- The view is still held, and in reach; all else in reach is in reach without it.
  have others {name : Nat} (reaches : InReach h.held (h.streams.giveUp Reader.shut stream) name)
      (different : name ≠ stream) :
      InReach (h.held.erase stream) (h.streams.giveUp Reader.shut stream) name := by
    rcases reaches with stays | counted
    · exact .inl ((List.mem_erase_of_ne different).mpr stays)
    · exact .inr counted
  have seen : ∀ name, InReach h.held (h.streams.giveUp Reader.shut stream) name → name ≠ stream →
      (h.streams.giveUp Reader.shut stream).sight name = h.streams.sight name :=
    fun name reaches different => (left name (others reaches different)).2
  refine ⟨counted, fun name reaches _ => ?_, fun name reaches _ uncalled => ?_,
    fun name reaches _ open_ => ?_⟩
  · by_cases same : name = stream
    · exact .inl (same ▸ held)
    · exact (left name (others reaches same)).1
  · exact seen name reaches fun same => uncalled (congrArg some same.symm)
  · exact congrArg Sight.still (seen name reaches fun same => open_ (congrArg some same.symm))

/-- A view that is called, and not closed, moves its cursor at most. -/
lemma Sound.call {α : Type} {c : InputCall α} (held : stream ∈ h.held)
    (notFile : h.streams.isFile stream = false) (stays : c.isClose = false) :
    Step (.call stream c) h ⟨(h.streams.call stream c).streams, h.held⟩ := by
  have one := sound.accounted.of_mem held
  have seen : ∀ name, InReach h.held (h.streams.call stream c).streams name → name ≠ stream →
      (h.streams.call stream c).streams.sight name = h.streams.sight name := by
    intro name reaches different
    refine one.sight_call notFile stays ?_
    rcases reaches with held | counted
    · exact .inl ((List.mem_erase_of_ne different).mpr held)
    · exact .inr counted
  refine ⟨sound.accounted.call notFile stays, fun name reaches _ => ?_,
    fun name reaches _ uncalled => ?_, fun name reaches _ _ => ?_⟩
  · rcases reaches with held | counted
    · exact .inl held
    · rw [sound.accounted.handles_call notFile stays] at counted
      exact .inr counted
  · exact seen name reaches fun same => uncalled (congrArg some same.symm)
  · by_cases same : name = stream
    · subst same
      have asked : h.streams.isFile name = true → c.isQuery = true := by
        rw [notFile]
        exact fun isFile => by cases isFile
      rw [(sound.accounted.call_sight asked).2, Sight.still_call stays]
    · rw [seen name reaches same]

/-- **One step.**  An act brings nothing else in reach than what it makes, and leaves what is seen
through all other streams in reach. -/
theorem Sound.step (act : Act) : Step act h (machine act h).2 := by
  by_cases possible : h.Permits act
  · rw [machine_of_permits possible]
    cases act with
    | share file stream => exact sound.share possible
    | clone file => exact sound.clone possible
    | openView view file offset length =>
      simp only [perform]
      cases opens : h.streams.openView view file offset length with
      | error e => exact .of_seen sound.accounted (fun _ reaches _ => reaches) fun _ _ _ => rfl
      | ok opened =>
        obtain ⟨_, rfl⟩ := openView_eq_ok_iff.mp opens
        exact sound.openView possible
    | dropHandle file => exact sound.dropHandle possible
    | dropView view => exact sound.dropView possible
    | call stream c =>
      simp only [Permits] at possible
      split at possible
      · exact sound.query possible.2
      · next notFile =>
        have notFile := Bool.eq_false_iff.mpr notFile
        by_cases stays : c.isClose = false
        · exact sound.call possible notFile stays
        · cases c with
          | close => exact sound.close possible notFile
          | _ => exact absurd rfl stays
  · rw [machine_of_not_permits possible]
    exact .refl sound

/-- What the program holds after an act is in use. -/
theorem Sound.machine (act : Act) : (Holdings.machine act h).2.Sound := by
  refine ⟨(sound.step act).accounted, ?_⟩
  by_cases possible : h.Permits act
  · have kept {name : Nat} (held : name ∈ h.held) :
        ∃ kind, (Holdings.machine act h).2.streams.kind? name = some kind := by
      obtain ⟨kind, inUse⟩ := sound.inUse name held
      exact ⟨kind, kind?_machine act h inUse⟩
    revert kept
    rw [machine_of_permits possible]
    intro kept name held
    cases act with
    | share file stream =>
      rcases List.mem_cons.mp held with rfl | held
      · exact ⟨_, kind?_cons_self ..⟩
      · exact kept (List.mem_of_mem_erase held)
    | clone file =>
      rcases List.mem_cons.mp held with rfl | held
      · refine ⟨.shared, ?_⟩
        have isFile := isFile_of_handles_pos possible
        exact (kind?_setHandles ..).trans (isFile_iff.mp isFile)
      · exact kept held
    | openView view file offset length =>
      simp only [perform] at held kept ⊢
      cases opens : h.streams.openView view file offset length with
      | error e =>
        simp only [opens] at held kept ⊢
        exact kept held
      | ok opened =>
        obtain ⟨_, rfl⟩ := openView_eq_ok_iff.mp opens
        simp only [opens] at held kept ⊢
        rcases List.mem_cons.mp held with rfl | held
        · exact ⟨_, kind?_cons_self ..⟩
        · exact kept held
    | dropHandle file => exact kept (List.mem_of_mem_erase held)
    | dropView view => exact kept (List.mem_of_mem_erase held)
    | call stream c => exact kept held
  · rw [machine_of_not_permits possible]
    exact sound.inUse

end Holdings

end ByteStreams
