import ByteStreams.Proofs.Input.Closed

/-!
# What has been closed

A view is shut once it holds no file, and a reader once it is closed; other streams hand on what is
asked of them.  A stream is closed exactly if one of its parts is shut (`Streams.isClosed_iff`),
where the parts are the stream itself and all that it stands upon (`Streams.parts`).

A call shuts the views and readers on which a closing call is made on its way, and no others
(`Streams.call_ages`).  Dropping a stream shuts nothing but what is lost with it
(`Streams.letGo_ages`).
-/

namespace ByteStreams

namespace Node

/-- A reader that is closed, or a view that has given up its file. -/
def isShut : Node → Bool
  | reader r => r.closed
  | view v => v.file.isNone
  | scripted _ | shared _ _ | slow _ _ => false

/-- A stream that can be shut. -/
def shuts : Node → Bool
  | reader _ | view _ => true
  | scripted _ | shared _ _ | slow _ _ => false

/-- Whether a stream can be shut goes by its kind. -/
lemma shuts_congr {before after : Node} (same : after.kind = before.kind) :
    after.shuts = before.shuts := by
  cases before <;> cases after <;> first | rfl | cases same

/-- What a stream stands upon. -/
def beneath? : Node → Option Nat
  | shared inner _ | slow inner _ => some inner
  | view v => v.file
  | reader _ | scripted _ => none

/-- What becomes of a stream that may have been closed, or lost: it stays of its kind, stands upon
what it stood upon unless it has given that up, and is shut if it was.  If it is not lost, it is not
shut for any other reason than being closed. -/
structure Ages (closed lost : Prop) (before after : Node) : Prop where
  kind : after.kind = before.kind
  beneath : after.beneath? = before.beneath? ∨ after.beneath? = none ∧ after.isShut = true
  shut : before.isShut = true → after.isShut = true
  exact : ¬ lost → (after.isShut = true ↔ before.isShut = true ∨ before.shuts = true ∧ closed)

namespace Ages

variable {closed lost : Prop} {before after : Node}

/-- A stream with which nothing happens. -/
lemma refl (node : Node) (open_ : ¬ closed) : Ages closed lost node node :=
  ⟨rfl, .inl rfl, id, fun _ => by simp [open_]⟩

/-- A stream that is shut is not shut again. -/
lemma of_shut (shut : after.isShut = true) : Ages closed lost after after :=
  ⟨rfl, .inl rfl, id, fun _ => by simp [shut]⟩

/-- A stream that hands on what is asked of it. -/
lemma slow (inner clock : Nat) : Ages closed lost (.slow inner clock) (.slow inner clock) :=
  ⟨rfl, .inl rfl, id, fun _ => by simp [isShut, shuts]⟩

/-- A shared file, whatever becomes of its handles. -/
lemma shared (inner count left : Nat) :
    Ages closed lost (.shared inner count) (.shared inner left) :=
  ⟨rfl, .inl rfl, id, fun _ => by simp [isShut, shuts]⟩

/-- A reader that is called. -/
lemma reader {α : Type} (r : Reader) (c : InputCall α) :
    Ages (c.isClose = true) lost (.reader r) (.reader (r.call c).2) := by
  have left := (r.call_snd c).2
  refine ⟨rfl, .inl rfl, fun shut => ?_, fun _ => ?_⟩
  · simp only [isShut] at shut ⊢
    rw [left, shut, Bool.true_or]
  · simp only [isShut, shuts, true_and]
    rw [left, Bool.or_eq_true]

/-- A view whose cursor moves. -/
lemma view_moved {v next : View} (moved : v.Moved next) (open_ : ¬ closed) :
    Ages closed lost (.view v) (.view next) := by
  have same := moved.file_eq
  refine ⟨rfl, .inl same, ?_, fun _ => ?_⟩
  · simp only [isShut, same, imp_self]
  · simp [isShut, same, open_]

/-- A view that gives up its file. -/
lemma view_givenUp (v : View) (ended : closed ∨ lost) :
    Ages closed lost (.view v) (.view { v with file := none }) := by
  refine ⟨rfl, .inr ⟨rfl, rfl⟩, fun _ => rfl, fun stays => ?_⟩
  simp [isShut, shuts, ended.resolve_right stays]

/-- Whether a stream is closed or lost matters only up to equivalence; and it may always be lost. -/
lemma imp {closed' lost' : Prop} (h : Ages closed lost before after) (sameClosed : closed ↔ closed')
    (lose : lost → lost') : Ages closed' lost' before after where
  kind := h.kind
  beneath := h.beneath
  shut := h.shut
  exact stays := by
    rw [← sameClosed]
    exact h.exact fun gone => stays (lose gone)

/-- A stream stands upon what it stood upon. -/
lemma beneath_eq (h : Ages closed lost before after) {inner : Nat}
    (stands : after.beneath? = some inner) : before.beneath? = some inner := by
  rcases h.beneath with same | ⟨nothing, _⟩
  · exact same.symm.trans stands
  · rw [nothing] at stands
    cases stands

end Ages

end Node

/-- A view asks its file for reads only. -/
lemma View.Plan.isClose_of_call? {α : Type} {plan : View.Plan α} {d : AnyCall}
    (asks : plan.call? = some d) : d.2.isClose = false := by
  cases plan <;> cases asks <;> rfl

namespace Streams

/-! ### Parts -/

/-- The stream of a name and all that it stands upon. -/
def parts : Streams → Nat → List (Nat × Node)
  | [], _ => []
  | (key, node) :: rest, name =>
    if key = name then
      (key, node) ::
        match node.beneath? with
        | none => []
        | some inner => parts rest inner
    else parts rest name

/-- The names in use. -/
def names (streams : Streams) : List Nat := streams.map Prod.fst

/-- Every stream stands upon older ones that there are. -/
def Linked : Streams → Prop
  | [] => True
  | (_, node) :: rest => (∀ inner, node.beneath? = some inner → inner ∈ names rest) ∧ Linked rest

variable {α : Type} {streams rest before after : Streams} {name key : Nat} {node : Node}

/-- An older name in use. -/
lemma mem_names_of_ne (inUse : name ∈ names ((key, node) :: rest)) (different : key ≠ name) :
    name ∈ rest.names :=
  List.mem_of_ne_of_mem (Ne.symm different) inUse

/-- The parts of a stream are streams. -/
lemma mem_of_mem_parts {part : Nat × Node} (member : part ∈ streams.parts name) :
    part ∈ streams := by
  induction streams generalizing name with
  | nil => cases member
  | cons entry rest ih =>
    obtain ⟨key, node⟩ := entry
    unfold parts at member
    split at member
    · rcases List.mem_cons.mp member with rfl | member
      · exact List.mem_cons_self
      · split at member
        · cases member
        · exact List.mem_cons_of_mem _ (ih member)
    · exact List.mem_cons_of_mem _ (ih member)

/-- What holds of a name, and of what a stream stands upon if it holds of the stream, holds of all
parts. -/
lemma parts_induction {motive : Nat → Prop}
    (upon : ∀ {key node}, (key, node) ∈ streams → ∀ inner, node.beneath? = some inner →
      motive key → motive inner)
    (holds : motive name) {part : Nat × Node} (member : part ∈ streams.parts name) :
    motive part.1 := by
  induction streams generalizing name with
  | nil => cases member
  | cons entry rest ih =>
    obtain ⟨key, node⟩ := entry
    have older {key node} (member : (key, node) ∈ rest) :=
      upon (List.mem_cons_of_mem _ member)
    unfold parts at member
    split at member
    · next same =>
      subst same
      rcases List.mem_cons.mp member with rfl | member
      · exact holds
      · split at member
        · cases member
        · next stands => exact ih older (upon List.mem_cons_self _ stands holds) member
    · exact ih older holds member

/-- The newest stream is closed if it is shut, or stands upon a closed one. -/
lemma isClosed_cons_self (noScript : node.kind ≠ .scripted) (key : Nat) (rest : Streams) :
    isClosed ((key, node) :: rest) key = (node.isShut ||
      match node.beneath? with
      | none => false
      | some inner => isClosed rest inner) := by
  simp only [Streams.isClosed, if_true]
  cases node with
  | reader r => simp [Node.isShut, Node.beneath?]
  | scripted f => exact absurd rfl noScript
  | shared inner count => simp [Node.isShut, Node.beneath?]
  | slow inner clock => simp [Node.isShut, Node.beneath?]
  | view v => cases held : v.file <;> simp [Node.isShut, Node.beneath?, held]

/-- An older stream is closed, or open, whatever is newer. -/
lemma isClosed_cons_of_ne (different : key ≠ name) (node : Node) (rest : Streams) :
    isClosed ((key, node) :: rest) name = rest.isClosed name :=
  if_neg different

/-- **A stream is closed** exactly if one of its parts is shut. -/
theorem isClosed_iff (onReaders : streams.OnReaders) (linked : streams.Linked)
    (inUse : name ∈ streams.names) :
    streams.isClosed name = true ↔ ∃ part ∈ streams.parts name, part.2.isShut = true := by
  induction streams generalizing name with
  | nil => cases inUse
  | cons entry rest ih =>
    obtain ⟨key, node⟩ := entry
    obtain ⟨head, tail⟩ := onReaders_cons_iff.mp onReaders
    obtain ⟨stands, older⟩ := linked
    by_cases same : key = name
    · subst same
      rw [isClosed_cons_self head, parts, if_pos rfl, Bool.or_eq_true]
      simp only [List.mem_cons, exists_eq_or_imp]
      refine or_congr_right ?_
      cases upon : node.beneath? with
      | none => simp
      | some inner => exact ih tail older (stands inner upon)
    · rw [isClosed_cons_of_ne same, parts, if_neg same]
      exact ih tail older (mem_names_of_ne inUse same)

/-! ### Streams in the course of time -/

/-- What becomes of streams of which some are closed, and some lost. -/
def Ages (closed lost : List Nat) (before after : Streams) : Prop :=
  List.Forall₂ (fun a b => b.1 = a.1 ∧ a.2.Ages (a.1 ∈ closed) (a.1 ∈ lost) b.2) before after

namespace Ages

variable {closed lost : List Nat}

/-- Nothing happens. -/
lemma refl (lost : List Nat) (streams : Streams) (none : ∀ name ∈ streams.names, name ∉ closed) :
    streams.Ages closed lost streams :=
  List.forall₂_same.mpr fun entry member =>
    ⟨rfl, .refl _ (none entry.1 (List.mem_map_of_mem member))⟩

/-- It matters only which of these streams are closed, and more of them may be lost. -/
lemma imp (h : before.Ages closed lost after) {closed' lost' : List Nat}
    (sameClosed : ∀ name ∈ before.names, name ∈ closed ↔ name ∈ closed') (lose : lost ⊆ lost') :
    before.Ages closed' lost' after := by
  induction h with
  | nil => exact .nil
  | cons first _ ih =>
    refine .cons ⟨first.1, first.2.imp (sameClosed _ List.mem_cons_self) fun gone => lose gone⟩ ?_
    exact ih fun name member => sameClosed name (List.mem_cons_of_mem _ member)

/-- Another number of handles. -/
lemma setHandles (h : before.Ages closed lost after) (change : Nat → Nat) (name : Nat) :
    before.Ages closed lost (Streams.setHandles change after name) := by
  refine forall₂_setHandles ?_ h change name
  rintro entry key inner count left ⟨same, ages⟩
  exact ⟨same, ages.kind, ages.beneath, ages.shut, ages.exact⟩

variable (h : before.Ages closed lost after)

include h

/-- The names stay in use. -/
lemma names_eq : after.names = before.names := by
  induction h with
  | nil => rfl
  | cons first _ ih => exact congrArg₂ List.cons first.1 ih

/-- What a stream is has been of that kind. -/
lemma exists_of_mem (member : (key, node) ∈ after) :
    ∃ old, (key, old) ∈ before ∧ old.Ages (key ∈ closed) (key ∈ lost) node := by
  induction h with
  | nil => cases member
  | @cons a b _ _ first _ ih =>
    rcases List.mem_cons.mp member with rfl | member
    · obtain ⟨same, ages⟩ := first
      simp only at same
      rw [same]
      exact ⟨a.2, List.mem_cons_self, ages⟩
    · obtain ⟨old, was, ages⟩ := ih member
      exact ⟨old, List.mem_cons_of_mem a was, ages⟩

/-- No stream becomes a scripted file. -/
lemma onReaders (onReaders : before.OnReaders) : after.OnReaders := by
  intro entry member
  obtain ⟨old, was, ages⟩ := h.exists_of_mem member
  rw [ages.kind]
  exact onReaders _ was

/-- No stream comes to stand upon another one. -/
lemma linked (linked : before.Linked) : after.Linked := by
  induction h with
  | nil => trivial
  | cons first later ih =>
    refine ⟨fun inner stands => ?_, ih linked.2⟩
    rw [names_eq later]
    exact linked.1 inner (first.2.beneath_eq stands)

/-- **What is closed stays closed.** -/
lemma isClosed (onReaders : before.OnReaders) (isClosed : before.isClosed name = true) :
    after.isClosed name = true := by
  induction h generalizing name with
  | nil => exact isClosed
  | @cons a b rest _ first later ih =>
    obtain ⟨key, old⟩ := a
    obtain ⟨key', new⟩ := b
    obtain ⟨head, tail⟩ := onReaders_cons_iff.mp onReaders
    obtain ⟨rfl, ages⟩ := first
    by_cases same : key' = name
    · subst same
      rw [isClosed_cons_self head, Bool.or_eq_true] at isClosed
      rw [isClosed_cons_self (ages.kind ▸ head), Bool.or_eq_true]
      rcases isClosed with shut | below
      · exact .inl (ages.shut shut)
      · rcases ages.beneath with same | ⟨_, shut⟩
        · rw [same]
          revert below
          cases old.beneath? with
          | none => exact fun impossible => by cases impossible
          | some inner => exact fun below => .inr (ih tail below)
        · exact .inl shut
    · rw [isClosed_cons_of_ne same] at isClosed ⊢
      exact ih tail isClosed

end Ages

/-! ### Closing -/

/-- The streams on which a closing call is made for a call. -/
def closings (streams : Streams) (name : Nat) (c : AnyCall) : List Nat :=
  ((streams.calls name c).filter fun m => m.call.2.isClose).map Made.name

/-- Calls are made on streams in use. -/
lemma mem_names_of_mem_calls {c : AnyCall} {m : Made} (made : m ∈ streams.calls name c) :
    m.name ∈ streams.names := by
  induction streams generalizing name c with
  | nil => cases made
  | cons entry rest ih =>
    obtain ⟨key, node⟩ := entry
    unfold calls at made
    split at made
    · rcases List.mem_cons.mp made with rfl | made
      · exact List.mem_cons_self
      · split at made
        · cases made
        · exact List.mem_cons_of_mem _ (ih made)
    · exact List.mem_cons_of_mem _ (ih made)

/-- Closing calls are made on streams in use. -/
lemma mem_names_of_mem_closings {c : AnyCall} {other : Nat}
    (member : other ∈ streams.closings name c) : other ∈ streams.names := by
  obtain ⟨m, made, rfl⟩ := List.mem_map.mp member
  exact mem_names_of_mem_calls (List.mem_filter.mp made).1

/-- What closes leads to calls that close, and what does not leads to none. -/
lemma isClose_handedOn {c : InputCall α} {inner : Nat} {d : AnyCall}
    (handed : handedOn? rest c node = some (inner, d)) : d.2.isClose = c.isClose := by
  cases node with
  | reader _ | scripted _ => cases handed
  | shared _ _ =>
    cases handed
    rfl
  | slow _ _ => cases c <;> cases handed <;> rfl
  | view v =>
    cases held : v.file with
    | none =>
      simp only [handedOn?, held] at handed
      cases handed
    | some file =>
      simp only [handedOn?, held] at handed
      split at handed
      · next closes =>
        split at handed
        · cases handed
          exact closes.symm
        · cases handed
      · next stays =>
        obtain ⟨read, planned, same⟩ := Option.map_eq_some_iff.mp handed
        cases same
        exact (View.Plan.isClose_of_call? planned).trans (Bool.eq_false_iff.mpr stays).symm

/-- No closing call is made for a call that does not close. -/
lemma closings_of_stays {c : AnyCall} (stays : c.2.isClose = false) :
    streams.closings name c = [] := by
  unfold closings
  rw [List.map_eq_nil_iff, List.filter_eq_nil_iff]
  intro m made
  induction streams generalizing name c with
  | nil => cases made
  | cons entry rest ih =>
    obtain ⟨key, node⟩ := entry
    unfold calls at made
    split at made
    · rcases List.mem_cons.mp made with rfl | made
      · exact Bool.eq_false_iff.mp stays
      · split at made
        · cases made
        · next handed => exact ih ((isClose_handedOn handed).trans stays) made
    · exact ih stays made

/-- What is closed with the newest stream. -/
lemma closings_cons_self {c : AnyCall} (closes : c.2.isClose = true) :
    closings ((key, node) :: rest) key c = key ::
      match handedOn? rest c.2 node with
      | none => []
      | some (inner, d) => closings rest inner d := by
  simp only [closings, calls, if_true, List.filter_cons, closes, List.map_cons]
  cases handedOn? rest c.2 node <;> rfl

/-- What is closed with an older stream. -/
lemma closings_cons_of_ne (different : key ≠ name) (node : Node) (c : AnyCall) :
    closings ((key, node) :: rest) name c = rest.closings name c := by
  simp only [closings, calls, if_neg different]

/-- What becomes of the newest stream when it is called, and of those beneath it when they are
called in turn. -/
lemma Ages.cons_self (isNew : key ∉ rest.names) {c : AnyCall} {later : Node}
    (head : node.Ages (c.2.isClose = true) False later)
    (below : Ages (match handedOn? rest c.2 node with
      | none => []
      | some (inner, d) => closings rest inner d) [] rest after) :
    Ages (closings ((key, node) :: rest) key c) [] ((key, node) :: rest)
      ((key, later) :: after) := by
  cases closes : c.2.isClose with
  | true =>
    rw [closings_cons_self closes]
    refine .cons ⟨rfl, head.imp (by simp [closes]) False.elim⟩ ?_
    refine below.imp (fun name member => ?_) (List.Subset.refl [])
    rw [List.mem_cons]
    exact ⟨.inr, fun closed => closed.resolve_left fun same => isNew (same ▸ member)⟩
  | false =>
    rw [closings_of_stays closes]
    refine .cons ⟨rfl, head.imp (by simp [closes]) False.elim⟩ ?_
    refine below.imp (fun _ _ => ?_) (List.Subset.refl [])
    split
    · exact Iff.rfl
    · next handed => rw [closings_of_stays ((isClose_handedOn handed).trans closes)]

/-- **A call** shuts what closing calls are made on, and nothing else. -/
theorem call_ages (nodup : streams.names.Nodup) (onReaders : streams.OnReaders)
    (c : InputCall α) :
    streams.Ages (streams.closings name ⟨α, c⟩) [] (streams.call name c).streams := by
  induction streams generalizing name α with
  | nil => exact .nil
  | cons entry rest ih =>
    obtain ⟨key, node⟩ := entry
    obtain ⟨head, tail⟩ := onReaders_cons_iff.mp onReaders
    obtain ⟨isNew, older⟩ := List.nodup_cons.mp nodup
    have still : Ages [] [] rest rest := .refl [] rest fun _ _ => List.not_mem_nil
    by_cases same : key = name
    · subst same
      cases node with
      | reader r =>
        rw [call_reader]
        exact .cons_self isNew (.reader r c) still
      | scripted f => exact absurd rfl head
      | shared inner count =>
        rw [call_shared]
        exact .cons_self isNew (.shared ..) (ih older tail c)
      | slow inner clock =>
        cases c with
        | advance count =>
          rw [call_slow_advance]
          exact .cons_self isNew (.slow ..) (ih older tail (.read count))
        | _ =>
          rw [(call_slow rest key inner clock rfl).2]
          exact .cons_self isNew (.slow ..) (ih older tail _)
      | view v =>
        cases held : v.file with
        | none =>
          rw [call_view_closed rest key held]
          refine .cons_self isNew (.of_shut ?_) ?_
          · simp [Node.isShut, held]
          · simp only [handedOn?, held]
            exact still
        | some file =>
          cases closes : c.isClose with
          | false =>
            rw [closings_of_stays closes]
            obtain ⟨next, moved, unread | ⟨β, d, addressed, read⟩⟩ :=
              call_view_moved rest key held closes
            · rw [unread]
              exact .cons ⟨rfl, .view_moved moved List.not_mem_nil⟩ still
            · have asks := InputCall.isClose_of_isQuery (InputCall.isQuery_of_isAddressed addressed)
              have below : Ages (closings rest file ⟨β, d⟩) [] rest (call rest file d).streams :=
                ih older tail d
              rw [closings_of_stays asks] at below
              rw [read]
              exact .cons ⟨rfl, .view_moved moved List.not_mem_nil⟩ below
          | true =>
            cases c with
            | close =>
              simp only [call, if_true, held]
              refine .cons_self isNew (.view_givenUp v (.inl rfl)) (.setHandles ?_ (· - 1) file)
              simp only [handedOn?, held, closes, if_true]
              by_cases last : handles rest file = 1
              · simp only [if_pos last]
                exact ih older tail .close
              · simp only [if_neg last]
                exact still
            | _ => cases closes
    · rw [call_other rest same, closings_cons_of_ne same]
      refine .cons ⟨rfl, .refl node fun closed => ?_⟩ (ih older tail c)
      exact isNew (mem_names_of_mem_closings closed)

/-! ### Dropping -/

/-- The streams that are lost when a stream is dropped.  A shared file is lost with its last
handle. -/
def lostWith : Streams → Nat → List Nat
  | [], _ => []
  | (key, node) :: rest, name =>
    if key = name then
      match node with
      | .shared inner count => if count = 1 then key :: lostWith rest inner else []
      | .reader _ | .scripted _ => [key]
      | .slow inner _ => key :: lostWith rest inner
      | .view v =>
        match v.file with
        | none => [key]
        | some file => key :: lostWith rest file
    else lostWith rest name

/-- **Dropping** shuts nothing but what is lost. -/
theorem letGo_ages (streams : Streams) (name : Nat) :
    streams.Ages [] (streams.lostWith name) (streams.letGo name) := by
  unfold letGo
  have still (lost : List Nat) (streams : Streams) : streams.Ages [] lost streams :=
    .refl lost streams fun _ _ => List.not_mem_nil
  have deeper {rest after : Streams} {key : Nat} {lost : List Nat} (h : rest.Ages [] lost after) :
      rest.Ages [] (key :: lost) after :=
    h.imp (fun _ _ => Iff.rfl) (List.subset_cons_self key lost)
  induction streams generalizing name with
  | nil => exact .nil
  | cons entry rest ih =>
    obtain ⟨key, node⟩ := entry
    by_cases same : key = name
    · subst same
      cases node with
      | reader r =>
        simp only [giveUp, if_true]
        exact still _ _
      | scripted f =>
        simp only [giveUp, if_true]
        exact still _ _
      | shared inner count =>
        simp only [giveUp, lostWith, if_true]
        split
        · exact .cons ⟨rfl, .shared ..⟩ (deeper (ih inner))
        · exact .cons ⟨rfl, .shared ..⟩ (still _ _)
      | slow inner clock =>
        simp only [giveUp, lostWith, if_true]
        exact .cons ⟨rfl, .slow ..⟩ (deeper (ih inner))
      | view v =>
        cases held : v.file with
        | none =>
          simp only [giveUp, if_true, held]
          exact still _ _
        | some file =>
          simp only [giveUp, lostWith, if_true, held]
          exact .cons ⟨rfl, .view_givenUp v (.inr List.mem_cons_self)⟩ (deeper (ih file))
    · simp only [giveUp, lostWith, if_neg same]
      exact .cons ⟨rfl, .refl node List.not_mem_nil⟩ (ih name)

end Streams

end ByteStreams
