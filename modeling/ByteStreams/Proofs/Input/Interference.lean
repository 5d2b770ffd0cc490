import ByteStreams.Proofs.Input.Reach

/-!
# Views do not interfere

A run of a program on one shared reader may be cut down to what concerns a few of its streams
(`concerning`): the calls on them and their drops, and the making of all that they are built upon
(`lineage`).  `Alike` relates a run to one that is cut down: the streams of the lineage that are in
reach are held in both and seen alike, but for the cursors of those that are only built upon.

What is asked of the streams is answered the same in both runs (`views_do_not_interfere`), as long
as nobody closes what they are built upon.  The cursor of the shared reader never moves.
-/

namespace ByteStreams

namespace Act

/-- A call on one of these streams, or the drop of one. -/
def isOn (own : List Nat) : Act → Bool
  | .call stream _ => stream ∈ own
  | .dropView view => view ∈ own
  | .share _ _ | .clone _ | .openView .. | .dropHandle _ => false

/-- An act that makes one of these streams. -/
def makes (names : List Nat) (act : Act) : Bool :=
  match act.made? with
  | some (made, _) => made ∈ names
  | none => false

end Act

/-- The streams that these streams are built upon, themselves included, before acts that make some
of them. -/
def lineage (own : List Nat) : List Act → List Nat
  | [] => own
  | act :: acts =>
    match act.made? with
    | some (made, basis) =>
      if made ∈ lineage own acts then basis :: lineage own acts else lineage own acts
    | none => lineage own acts

/-- The acts on these streams, and those that make what they are built upon. -/
def concerning (own : List Nat) : List Act → List Act
  | [] => []
  | act :: acts =>
    if act.isOn own || act.makes (lineage own acts) then act :: concerning own acts
    else concerning own acts

variable {own names later : List Nat} {act : Act} {acts : List Act} {name basis : Nat}

/-- The lineage of later acts is in the lineage of all. -/
lemma lineage_subset (own : List Nat) (act : Act) (acts : List Act) :
    lineage own acts ⊆ lineage own (act :: acts) := by
  intro name member
  unfold lineage
  split
  · split
    · exact List.mem_cons_of_mem _ member
    · exact member
  · exact member

/-- The streams are in their lineage. -/
lemma own_subset_lineage (own : List Nat) (acts : List Act) : own ⊆ lineage own acts := by
  induction acts with
  | nil => exact List.Subset.refl own
  | cons act acts ih => exact fun name member => lineage_subset own act acts (ih member)

/-- What a stream of the lineage is built upon is in the lineage. -/
lemma basis_mem_lineage (made : act.made? = some (name, basis))
    (member : name ∈ lineage own acts) : basis ∈ lineage own (act :: acts) := by
  unfold lineage
  rw [made]
  simp only [if_pos member]
  exact List.mem_cons_self

/-- An act makes a stream of the name, or it does not. -/
lemma Act.made_or (act : Act) (name : Nat) :
    (∃ basis, act.made? = some (name, basis)) ∨ ∀ basis, act.made? ≠ some (name, basis) := by
  by_cases made : ∃ basis, act.made? = some (name, basis)
  · exact .inl made
  · exact .inr fun basis isMade => made ⟨basis, isMade⟩

/-- An act that makes none of the streams. -/
lemma made?_ne_of_makes (none : act.makes names = false) (member : name ∈ names) (basis : Nat) :
    act.made? ≠ some (name, basis) := by
  intro made
  unfold Act.makes at none
  rw [made] at none
  exact absurd member (of_decide_eq_false none)

/-- An act on none of the streams calls none. -/
lemma called?_ne_of_isOn (none : act.isOn own = false) (member : name ∈ own) :
    act.called? ≠ some name := by
  intro called
  cases act with
  | call stream c =>
    cases called
    exact absurd member (of_decide_eq_false none)
  | share _ _ | clone _ | openView _ _ _ _ | dropHandle _ | dropView _ => cases called

/-- What an act closes it calls. -/
lemma called?_of_closed? (closes : act.closed? = some name) : act.called? = some name := by
  cases act with
  | call stream c =>
    simp only [Act.closed?] at closes
    split at closes
    · exact closes
    · cases closes
  | share _ _ | clone _ | openView _ _ _ _ | dropHandle _ | dropView _ => cases closes

open Streams Holdings

namespace Holdings

variable {h t : Holdings}

/-- A stream in reach is in use. -/
lemma Sound.inUse_of_reaches (sound : h.Sound) (reaches : h.Reaches name) :
    ∃ kind, h.streams.kind? name = some kind := by
  rcases reaches with held | counted
  · exact sound.inUse name held
  · exact ⟨_, isFile_iff.mp (isFile_of_handles_pos counted)⟩

/-- A file that is held has handles. -/
lemma Sound.handles_pos (sound : h.Sound) (held : name ∈ h.held)
    (isFile : h.streams.isFile name = true) : 0 < h.streams.handles name :=
  Nat.lt_of_lt_of_le (List.count_pos_iff.mpr held) (sound.accounted.count_le_handles isFile)

/-- A whole run and a part of it.  The part holds what the whole reaches of the streams `names`. -/
structure Alike (own names : List Nat) (h t : Holdings) : Prop where
  whole : h.Sound
  part : t.Sound
  held : ∀ name ∈ names, h.Reaches name → name ∈ t.held
  kind : ∀ name ∈ names, h.Reaches name → t.streams.kind? name = h.streams.kind? name
  /-- The streams that the others are built upon are seen alike, but for the cursor. -/
  still : ∀ name ∈ names, h.Reaches name →
    (t.streams.sight name).still = (h.streams.sight name).still
  sight : ∀ name ∈ own, h.Reaches name → t.streams.sight name = h.streams.sight name
  /-- The part has made nothing that the whole has not. -/
  unused : ∀ name, h.streams.kind? name = none → t.streams.kind? name = none

namespace Alike

variable (alike : Alike own names h t)

include alike

/-- The same for fewer streams. -/
lemma mono (fewer : later ⊆ names) : Alike own later h t :=
  { alike with
    held := fun name member => alike.held name (fewer member)
    kind := fun name member => alike.kind name (fewer member)
    still := fun name member => alike.still name (fewer member) }

/-- A step of the whole run that is erased. -/
lemma erase (fewer : later ⊆ names) (ownLater : own ⊆ later) (notOn : act.isOn own = false)
    (notMakes : act.makes later = false) (undisturbed : ∀ name ∈ later, act.closed? ≠ some name) :
    Alike own later (machine act h).2 t := by
  have step := alike.whole.step act
  have before {name : Nat} (member : name ∈ later) (reaches : (machine act h).2.Reaches name) :
      h.Reaches name := step.reach name reaches (made?_ne_of_makes notMakes member)
  refine ⟨alike.whole.machine act, alike.part, fun name member reaches => ?_,
    fun name member reaches => ?_, fun name member reaches => ?_, fun name member reaches => ?_,
    fun name unused => alike.unused name ?_⟩
  · exact alike.held name (fewer member) (before member reaches)
  · obtain ⟨kind, inUse⟩ := alike.whole.inUse_of_reaches (before member reaches)
    rw [alike.kind name (fewer member) (before member reaches), inUse]
    exact (kind?_machine act h inUse).symm
  · rw [alike.still name (fewer member) (before member reaches)]
    exact (step.still name reaches (made?_ne_of_makes notMakes member)
      (undisturbed name member)).symm
  · rw [alike.sight name member (before (ownLater member) reaches)]
    exact (step.seen name reaches (made?_ne_of_makes notMakes (ownLater member))
      (called?_ne_of_isOn notOn member)).symm
  · cases inUse : h.streams.kind? name with
    | none => rfl
    | some kind =>
      rw [kind?_machine act h inUse] at unused
      cases unused

/-- A step that both runs take: what it makes and what it calls must be seen alike. -/
lemma keep (fewer : later ⊆ names) (ownLater : own ⊆ later) (act : Act)
    (held : ∀ name ∈ later, (machine act h).2.Reaches name → name ∈ (machine act t).2.held)
    (made : ∀ name ∈ later, ∀ basis, act.made? = some (name, basis) →
      (machine act h).2.Reaches name →
        ((machine act t).2.streams.sight name).still =
            ((machine act h).2.streams.sight name).still ∧
          (name ∈ own → (machine act t).2.streams.sight name =
            (machine act h).2.streams.sight name))
    (kinds : ∀ name basis, act.made? = some (name, basis) →
      (machine act t).2.streams.kind? name = (machine act h).2.streams.kind? name)
    (called : ∀ name ∈ later, act.called? = some name → (machine act h).2.Reaches name →
      (machine act t).2.streams.sight name = (machine act h).2.streams.sight name) :
    Alike own later (machine act h).2 (machine act t).2 := by
  have step := alike.whole.step act
  have part := alike.part.step act
  refine ⟨alike.whole.machine act, alike.part.machine act, held, fun name member reaches => ?_,
    fun name member reaches => ?_, fun name member reaches => ?_, fun name unused => ?_⟩
  · rcases act.made_or name with ⟨basis, isMade⟩ | other
    · exact kinds name basis isMade
    · rw [kind?_machine_of_ne act h other, kind?_machine_of_ne act t other]
      exact alike.kind name (fewer member) (step.reach name reaches other)
  · rcases act.made_or name with ⟨basis, isMade⟩ | other
    · exact (made name member basis isMade reaches).1
    · by_cases isCalled : act.called? = some name
      · exact congrArg Sight.still (called name member isCalled reaches)
      · have reached : (machine act t).2.Reaches name := .inl (held name member reaches)
        rw [step.seen name reaches other isCalled, part.seen name reached other isCalled]
        exact alike.still name (fewer member) (step.reach name reaches other)
  · have later := ownLater member
    rcases act.made_or name with ⟨basis, isMade⟩ | other
    · exact (made name later basis isMade reaches).2 member
    · by_cases isCalled : act.called? = some name
      · exact called name later isCalled reaches
      · have reached : (machine act t).2.Reaches name := .inl (held name later reaches)
        rw [step.seen name reaches other isCalled, part.seen name reached other isCalled]
        exact alike.sight name member (step.reach name reaches other)
  · rcases act.made_or name with ⟨basis, isMade⟩ | other
    · rw [kinds name basis isMade]
      exact unused
    · rw [kind?_machine_of_ne act h other] at unused
      rw [kind?_machine_of_ne act t other]
      exact alike.unused name unused

/-! ### What is possible in the part -/

/-- What the whole run reaches of the streams is a file in the part if it is one in the whole. -/
lemma isFile_eq (member : name ∈ names) (reaches : h.Reaches name) :
    t.streams.isFile name = h.streams.isFile name :=
  isFile_congr (alike.kind name member reaches)

/-- A stream that the whole run holds can be moved into a file in the part too. -/
lemma permits_share {file stream : Nat} (basis : stream ∈ names)
    (possible : h.Permits (.share file stream)) : t.Permits (.share file stream) := by
  obtain ⟨held, notFile, isNew⟩ := possible
  refine ⟨alike.held stream basis (.inl held), ?_, ?_⟩
  · rwa [alike.isFile_eq basis (.inl held)]
  · rw [← kind?_eq_none_iff] at isNew ⊢
    exact alike.unused file isNew

/-- A view that can be opened in the whole run can be opened in the part too. -/
lemma permits_openView {view file : Nat} {offset length : Int} (basis : file ∈ names)
    (possible : h.Permits (.openView view file offset length)) :
    t.Permits (.openView view file offset length) := by
  obtain ⟨counted, isNew⟩ := possible
  have isFile := (alike.isFile_eq basis (.inr counted)).trans (isFile_of_handles_pos counted)
  refine ⟨alike.part.handles_pos (alike.held file basis (.inr counted)) isFile, ?_⟩
  rw [← kind?_eq_none_iff] at isNew ⊢
  exact alike.unused view isNew

/-- A view that the whole run can drop the part can drop too. -/
lemma permits_dropView {view : Nat} (member : view ∈ names)
    (possible : h.Permits (.dropView view)) : t.Permits (.dropView view) := by
  obtain ⟨held, notFile⟩ := possible
  refine ⟨alike.held view member (.inl held), ?_⟩
  rwa [alike.isFile_eq member (.inl held)]

/-- What the whole run can ask of the streams the part can ask too. -/
lemma permits_call {stream : Nat} {α : Type} {c : InputCall α} (member : stream ∈ names)
    (possible : h.Permits (.call stream c)) : t.Permits (.call stream c) := by
  simp only [Permits] at possible ⊢
  split at possible
  · next isFile =>
    obtain ⟨counted, query⟩ := possible
    have isFile := (alike.isFile_eq member (.inr counted)).trans isFile
    rw [if_pos isFile]
    exact ⟨alike.part.handles_pos (alike.held stream member (.inr counted)) isFile, query⟩
  · next notFile =>
    rw [if_neg ((alike.isFile_eq member (.inl possible)).symm ▸ notFile)]
    exact alike.held stream member (.inl possible)

/-! ### The acts that both runs carry out -/

variable (fewer : later ⊆ names) (ownLater : own ⊆ later)

include fewer ownLater

/-- A stream is moved into a file in both runs. -/
lemma share {file stream : Nat} (basis : stream ∈ names) (closed : file ∈ own → stream ∈ own)
    (possible : h.Permits (.share file stream)) :
    (machine (.share file stream) t).1 = (machine (.share file stream) h).1 ∧
      Alike own later (machine (.share file stream) h).2 (machine (.share file stream) t).2 := by
  have permitted := alike.permits_share basis possible
  have whole := machine_of_permits possible
  have part := machine_of_permits permitted
  have reaches : h.Reaches stream := .inl possible.1
  simp only [perform, heldAfter] at whole part
  refine ⟨by rw [whole, part], alike.keep fewer ownLater _ ?_ ?_ ?_ ?_⟩
  · intro name member reached
    rw [part]
    rw [whole] at reached
    by_cases new : name = file
    · exact new ▸ List.mem_cons_self
    have reachable : h.Reaches name := by
      refine (alike.whole.share possible).reach name reached fun basis made => new ?_
      cases made
      rfl
    have moved : name ≠ stream := by
      rintro rfl
      rcases reached with stays | counted
      · exact alike.whole.not_mem_erase possible.1 possible.2.1 (List.mem_of_ne_of_mem new stays)
      · rw [handles_cons_of_ne (Ne.symm new), handles_eq_zero possible.2.1] at counted
        cases counted
    have held := alike.held name (fewer member) reachable
    exact List.mem_cons_of_mem _ ((List.mem_erase_of_ne moved).mpr held)
  · rintro name member _ ⟨⟩ reached
    rw [whole, part]
    simp only [sight_shared]
    exact ⟨alike.still stream basis reaches, fun own => alike.sight stream (closed own) reaches⟩
  · rintro name _ ⟨⟩
    rw [whole, part]
    exact (kind?_cons_self ..).trans (kind?_cons_self ..).symm
  · rintro name member ⟨⟩

/-- A view is opened in both runs, or in none. -/
lemma openView {view file : Nat} {offset length : Int} (basis : file ∈ names)
    (possible : h.Permits (.openView view file offset length)) :
    (machine (.openView view file offset length) t).1 =
        (machine (.openView view file offset length) h).1 ∧
      Alike own later (machine (.openView view file offset length) h).2
        (machine (.openView view file offset length) t).2 := by
  have permitted := alike.permits_openView basis possible
  have whole := machine_of_permits possible
  have part := machine_of_permits permitted
  have reaches : h.Reaches file := .inr possible.1
  by_cases valid : 0 ≤ offset ∧ 0 ≤ length ∧ offset + length ≤ maxPosition
  · have opens (streams : Streams) : streams.openView view file offset length =
        .ok ((view, .view ⟨some file, offset, length, 0⟩) :: streams.retain file) :=
      openView_eq_ok_iff.mpr ⟨valid, rfl⟩
    simp only [perform, opens] at whole part
    refine ⟨by rw [whole, part], alike.keep fewer ownLater _ ?_ ?_ ?_ ?_⟩
    · intro name member reached
      rw [part]
      by_cases new : name = view
      · exact new ▸ List.mem_cons_self
      have reachable : h.Reaches name := by
        refine (alike.whole.step _).reach name reached fun basis made => new ?_
        cases made
        rfl
      exact List.mem_cons_of_mem _ (alike.held name (fewer member) reachable)
    · rintro name member _ ⟨⟩ reached
      have seen (streams : Streams) :
          Streams.sight ((view, .view ⟨some file, offset, length, 0⟩) :: streams.retain file) view =
            .view ⟨some file, offset, length, 0⟩ (streams.sight file).still := by
        rw [sight_view rfl, Streams.retain, sight_setHandles]
      rw [whole, part]
      simp only [seen, alike.still file basis reaches]
      exact ⟨trivial, fun _ => trivial⟩
    · rintro name _ ⟨⟩
      rw [whole, part]
      exact (kind?_cons_self ..).trans (kind?_cons_self ..).symm
    · rintro name member ⟨⟩
  · have fails : ∃ e, ∀ streams : Streams,
        streams.openView view file offset length = .error e := by
      cases checked : View.checkWindow offset length with
      | error e => exact ⟨e, fun streams => by simp only [Streams.openView, checked]⟩
      | ok done => exact absurd (checkWindow_eq_ok_iff.mp checked) valid
    obtain ⟨e, fails⟩ := fails
    simp only [perform, fails, heldAfter] at whole part
    rw [whole, part]
    exact ⟨rfl, alike.mono fewer⟩

/-- A view is dropped in both runs. -/
lemma dropView {view : Nat} (member : view ∈ names)
    (possible : h.Permits (.dropView view)) :
    (machine (.dropView view) t).1 = (machine (.dropView view) h).1 ∧
      Alike own later (machine (.dropView view) h).2 (machine (.dropView view) t).2 := by
  have permitted := alike.permits_dropView member possible
  have whole := machine_of_permits possible
  have part := machine_of_permits permitted
  refine ⟨by rw [whole, part]; rfl, alike.keep fewer ownLater _ ?_ ?_ ?_ ?_⟩
  · intro name member reached
    have reachable : h.Reaches name :=
      (alike.whole.step _).reach name reached fun basis made => by cases made
    rw [part]
    rw [whole] at reached
    have dropped : name ≠ view := by
      rintro rfl
      exact alike.whole.not_reaches_erase possible.1 possible.2 (kind?_letGo ..) reached
    exact (List.mem_erase_of_ne dropped).mpr (alike.held name (fewer member) reachable)
  · rintro name member _ ⟨⟩
  · rintro name _ ⟨⟩
  · rintro name member ⟨⟩

/-- A stream is called in both runs, and answers the same. -/
lemma call {stream : Nat} {α : Type} {c : InputCall α} (member : stream ∈ own)
    (ownNames : own ⊆ names) (possible : h.Permits (.call stream c)) :
    (machine (.call stream c) t).1 = (machine (.call stream c) h).1 ∧
      Alike own later (machine (.call stream c) h).2 (machine (.call stream c) t).2 := by
  have permitted := alike.permits_call (ownNames member) possible
  have whole := machine_of_permits possible
  have part := machine_of_permits permitted
  have reaches : h.Reaches stream := by
    simp only [Permits] at possible
    split at possible
    · exact .inr possible.1
    · exact .inl possible
  have asked {h : Holdings} (possible : h.Permits (.call stream c))
      (isFile : h.streams.isFile stream = true) : c.isQuery = true := by
    simp only [Permits, if_pos isFile] at possible
    exact possible.2
  have same := alike.sight stream member reaches
  have inWhole := alike.whole.accounted.call_sight (asked possible)
  have inPart := alike.part.accounted.call_sight (asked permitted)
  refine ⟨?_, alike.keep fewer ownLater _ ?_ ?_ ?_ ?_⟩
  · rw [whole, part]
    simp only [perform, inWhole.1, inPart.1, same]
  · intro name member reached
    have reachable : h.Reaches name :=
      (alike.whole.step _).reach name reached fun basis made => by cases made
    rw [part]
    exact alike.held name (fewer member) reachable
  · rintro name member _ ⟨⟩
  · rintro name _ ⟨⟩
  · rintro name member ⟨⟩ reached
    rw [whole, part]
    simp only [perform, inWhole.2, inPart.2, same]

end Alike

/-! ### Runs -/

/-- An act that has an answer is possible. -/
lemma permits_of_isSome (answered : (machine act h).1.isSome = true) : h.Permits act := by
  by_cases possible : h.Permits act
  · exact possible
  · rw [machine_of_not_permits possible] at answered
    cases answered

/-- **One step of both runs.**  An act that concerns the streams has the same answer in both. -/
theorem Alike.step (alike : Alike own (lineage own (act :: acts)) h t) (possible : h.Permits act)
    (concerns : (act.isOn own || act.makes (lineage own acts)) = true)
    (closed : ∀ file stream, act = .share file stream → file ∈ own → stream ∈ own) :
    (machine act t).1 = (machine act h).1 ∧
      Alike own (lineage own acts) (machine act h).2 (machine act t).2 := by
  have fewer := lineage_subset own act acts
  have ownLater := own_subset_lineage own acts
  have ownNames : own ⊆ lineage own (act :: acts) := fun name member => fewer (ownLater member)
  cases act with
  | share file stream =>
    have member : file ∈ lineage own acts := of_decide_eq_true concerns
    exact alike.share fewer ownLater (basis_mem_lineage rfl member) (closed file stream rfl)
      possible
  | openView view file offset length =>
    have member : view ∈ lineage own acts := of_decide_eq_true concerns
    exact alike.openView fewer ownLater (basis_mem_lineage rfl member) possible
  | dropView view =>
    have member : view ∈ own := by simpa [Act.isOn, Act.makes, Act.made?] using concerns
    exact alike.dropView fewer ownLater (ownNames member) possible
  | call stream c =>
    have member : stream ∈ own := by simpa [Act.isOn, Act.makes, Act.made?] using concerns
    exact alike.call fewer ownLater member ownNames possible
  | clone file | dropHandle file => cases concerns

/-- **Both runs.**  The acts that concern the streams have the same answers in both. -/
theorem Alike.run (alike : Alike own (lineage own acts) h t)
    (possible : ∀ e ∈ machine.transcript acts h, e.2.isSome = true)
    (closed : ∀ file stream, .share file stream ∈ acts → file ∈ own → stream ∈ own)
    (undisturbed : ∀ act ∈ acts, ∀ name ∈ lineage own acts, act.closed? = some name →
      name ∈ own) :
    (machine.transcript acts h).filter (fun e => e.1.isOn own) =
        (machine.transcript (concerning own acts) t).filter (fun e => e.1.isOn own) ∧
      (machine.transcript (concerning own acts) t).Sublist (machine.transcript acts h) := by
  induction acts generalizing h t with
  | nil => exact ⟨rfl, .refl _⟩
  | cons act acts ih =>
    have now : h.Permits act := permits_of_isSome (possible _ List.mem_cons_self)
    have possible : ∀ e ∈ machine.transcript acts (machine act h).2, e.2.isSome = true :=
      fun e member => possible e (List.mem_cons_of_mem _ member)
    have closedLater : ∀ file stream, .share file stream ∈ acts → file ∈ own → stream ∈ own :=
      fun file stream member => closed file stream (List.mem_cons_of_mem _ member)
    have undisturbedLater : ∀ act ∈ acts, ∀ name ∈ lineage own acts, act.closed? = some name →
        name ∈ own := fun later member name inLineage =>
      undisturbed later (List.mem_cons_of_mem _ member) name (lineage_subset own act acts inLineage)
    cases concerns : act.isOn own || act.makes (lineage own acts) with
    | true =>
      obtain ⟨same, next⟩ := alike.step now concerns fun file stream shares =>
        closed file stream (shares ▸ List.mem_cons_self)
      obtain ⟨answers, part⟩ := ih next possible closedLater undisturbedLater
      simp only [concerning, concerns, if_true, Machine.transcript, same]
      refine ⟨?_, part.cons_cons _⟩
      rw [List.filter_cons, List.filter_cons, answers]
    | false =>
      obtain ⟨notOn, notMakes⟩ := Bool.or_eq_false_iff.mp concerns
      have untouched : ∀ name ∈ lineage own acts, act.closed? ≠ some name := by
        intro name member closes
        have member := undisturbed act List.mem_cons_self name
          (lineage_subset own act acts member) closes
        exact called?_ne_of_isOn notOn member (called?_of_closed? closes)
      have next := alike.erase (lineage_subset own act acts) (own_subset_lineage own acts) notOn
        notMakes untouched
      obtain ⟨answers, part⟩ := ih next possible closedLater undisturbedLater
      simp only [concerning, concerns, Bool.false_eq_true, if_false, Machine.transcript]
      refine ⟨?_, part.cons _⟩
      rw [List.filter_cons, if_neg (by rw [notOn]; exact Bool.false_ne_true), answers]

/-! ### The shared reader -/

/-- The streams that a program has made of a reader.  The reader is not held any more, and has not
been moved. -/
structure Rests (r : Reader) (h : Holdings) : Prop where
  sound : h.Sound
  moved : 0 ∉ h.held
  found : ∃ closed, h.streams.find? 0 = some (.reader { r with closed })

/-- A reader that has just been shared. -/
lemma rests_ofFile (r : Reader) : Rests r (.ofFile (.reader r)) where
  sound :=
    { accounted := ⟨rfl, ⟨rfl, fun _ => rfl⟩, rfl, Nat.le_refl 1, trivial⟩
      inUse := fun name held => by
        rw [List.mem_singleton.mp held]
        exact ⟨.shared, rfl⟩ }
  moved := by simp [ofFile]
  found := ⟨r.closed, rfl⟩

/-- **The cursor of the shared reader** is not moved by any act. -/
lemma Rests.step {r : Reader} (rests : Rests r h) (act : Act) : Rests r (machine act h).2 := by
  obtain ⟨closed, found⟩ := rests.found
  have reader : h.streams.kind? 0 = some .reader := by
    unfold kind?
    rw [found]
    rfl
  have notFile : h.streams.isFile 0 = false := by
    unfold isFile
    rw [reader]
    rfl
  have ne_of_new {name : Nat} (isNew : h.streams.find? name = none) : name ≠ 0 := by
    rintro rfl
    rw [found] at isNew
    cases isNew
  have ne_of_file {name : Nat} (counted : 0 < h.streams.handles name) : 0 ≠ name := by
    rintro rfl
    rw [handles_eq_zero notFile] at counted
    cases counted
  by_cases possible : h.Permits act
  · refine ⟨rests.sound.machine act, ?_, ?_⟩ <;> rw [machine_of_permits possible]
    · cases act with
      | share file stream =>
        intro held
        rcases List.mem_cons.mp held with same | held
        · exact ne_of_new possible.2.2 same.symm
        · exact rests.moved (List.mem_of_mem_erase held)
      | clone file =>
        intro held
        rcases List.mem_cons.mp held with same | held
        · exact ne_of_file possible same
        · exact rests.moved held
      | openView view file offset length =>
        intro held
        simp only [heldAfter] at held
        split at held
        · rcases List.mem_cons.mp held with same | held
          · exact ne_of_new possible.2 same.symm
          · exact rests.moved held
        · exact rests.moved held
      | dropHandle name | dropView name =>
        exact fun held => rests.moved (List.mem_of_mem_erase held)
      | call stream c => exact rests.moved
    · cases act with
      | share file stream =>
        exact ⟨closed, (if_neg (ne_of_new possible.2.2)).trans found⟩
      | clone file =>
        exact ⟨closed, (find?_setHandles_other (ne_of_file possible) _ _).trans found⟩
      | openView view file offset length =>
        simp only [perform]
        cases opens : h.streams.openView view file offset length with
        | error e => exact ⟨closed, found⟩
        | ok opened =>
          obtain ⟨_, rfl⟩ := openView_eq_ok_iff.mp opens
          refine ⟨closed, (if_neg (ne_of_new possible.2)).trans ?_⟩
          exact (find?_setHandles_other (ne_of_file possible.1) _ _).trans found
      | dropHandle name | dropView name =>
        exact ⟨closed, (find?_giveUp_reader id name found).elim id id⟩
      | call stream c =>
        simp only [Permits] at possible
        simp only [perform]
        split at possible
        · rw [rests.sound.accounted.query possible.2]
          exact ⟨closed, found⟩
        · next notFile =>
          have notFile := Bool.eq_false_iff.mpr notFile
          have different : 0 ≠ stream := fun same => rests.moved (same ▸ possible)
          by_cases stays : c.isClose = false
          · rw [rests.sound.accounted.find?_call notFile stays different]
            exact ⟨closed, found⟩
          · cases c with
            | close =>
              rw [rests.sound.accounted.close.1 notFile]
              rcases find?_giveUp_reader Reader.shut stream found with same | shut
              · exact ⟨closed, same⟩
              · exact ⟨true, shut⟩
            | _ => exact absurd rfl stays
  · rw [machine_of_not_permits possible]
    exact rests

/-- A run starts with itself as its part. -/
lemma alike_ofFile (r : Reader) (own : List Nat) (acts : List Act) :
    Alike own (lineage own acts) (.ofFile (.reader r)) (.ofFile (.reader r)) where
  whole := (rests_ofFile r).sound
  part := (rests_ofFile r).sound
  held name _ reaches := by
    rcases reaches with held | counted
    · exact held
    · by_cases shared : 1 = name
      · exact shared ▸ List.mem_singleton_self 1
      · by_cases reader : 0 = name <;> simp [ofFile, handles, find?, shared, reader] at counted
  kind _ _ _ := rfl
  still _ _ _ := rfl
  sight _ _ _ := rfl
  unused _ unused := unused

/-- **Views do not interfere.**  Whatever views of one reader, or of views of it, a program opens,
reads, closes and drops: a stream answers the calls on it as if nothing else were done than to make
what it is built upon, unless somebody closes what it is built upon.  The cursor of the shared
reader is never moved. -/
theorem views_do_not_interfere (r : Reader) (own : List Nat) (acts : List Act)
    (possible : ∀ e ∈ machine.transcript acts (.ofFile (.reader r)), e.2.isSome = true)
    (closed : ∀ file stream, .share file stream ∈ acts → file ∈ own → stream ∈ own)
    (undisturbed : ∀ act ∈ acts, ∀ name ∈ lineage own acts, act.closed? = some name →
      name ∈ own) :
    (machine.transcript acts (.ofFile (.reader r))).filter (fun e => e.1.isOn own) =
        (machine.transcript (concerning own acts) (.ofFile (.reader r))).filter
          (fun e => e.1.isOn own) ∧
      (machine.transcript (concerning own acts) (.ofFile (.reader r))).Sublist
        (machine.transcript acts (.ofFile (.reader r))) ∧
      ∃ closed, (machine.final acts (.ofFile (.reader r))).streams.find? 0 =
        some (.reader { r with closed }) := by
  obtain ⟨answers, part⟩ := (alike_ofFile r own acts).run possible closed undisturbed
  have rests := machine.run_induction (motive := fun _ h => Rests r h) (rests_ofFile r)
    (fun _ _ act rests => rests.step act) acts
  exact ⟨answers, part, rests.found⟩

/-- A reader of six bytes, one of which has been read. -/
def sixBytes : Reader := { buffer := .ofBytes ⟨0, 1⟩ [1, 2, 3, 4, 5, 6], position := 1 }

/-- Two views of a reader, the second one past its end, and a view of the second one.  While they
are read, the first view is closed, and all handles are dropped. -/
def nestedRun : List Act :=
  [.openView 2 1 0 4, .openView 3 1 2 9, .share 4 3, .openView 5 4 1 3, .call 2 (.read 3),
    .call 5 (.read 2), .call 4 (.readAt 0 2), .dropHandle 1, .call 2 .close, .clone 4,
    .dropHandle 4, .dropHandle 4, .call 5 (.read 4), .dropView 2, .call 5 .close]

/-- The view of the view answers as it would by itself. -/
theorem nestedRun_alone :
    (∀ e ∈ machine.transcript nestedRun (.ofFile (.reader sixBytes)), e.2.isSome = true) ∧
      (∀ file stream, .share file stream ∈ nestedRun → file ∈ [5] → stream ∈ [5]) ∧
      (∀ act ∈ nestedRun, ∀ name ∈ lineage [5] nestedRun, act.closed? = some name → name ∈ [5]) ∧
      ((machine.transcript nestedRun (.ofFile (.reader sixBytes))).filter
          (fun e => e.1.isOn [5])).map Prod.snd =
        [some (.ok (.buffer 2 [4, 5])), some (.ok (.buffer 1 [6])), some (.ok .done)] := by
  have possible : ∀ e ∈ machine.transcript nestedRun (.ofFile (.reader sixBytes)),
      e.2.isSome = true := by decide
  have closed : ∀ file stream, .share file stream ∈ nestedRun → file ∈ [5] → stream ∈ [5] := by
    simp [nestedRun]
  have undisturbed : ∀ act ∈ nestedRun, ∀ name ∈ lineage [5] nestedRun,
      act.closed? = some name → name ∈ [5] := by decide
  refine ⟨possible, closed, undisturbed, ?_⟩
  rw [(views_do_not_interfere sixBytes [5] nestedRun possible closed undisturbed).1]
  rfl

end Holdings

end ByteStreams
