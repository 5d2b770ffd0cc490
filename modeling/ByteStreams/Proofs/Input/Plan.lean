import ByteStreams.Proofs.Input.Call

/-!
# What a view plans

A plan says which views can come out of it (`View.Plan.Leaves`).  A view that is not being closed
moves its cursor at most, and one that is only asked something stays as it is.  What is beneath the
view sees one read by position at most (`Streams.call_view_streams`).
-/

namespace ByteStreams

namespace InputCall

/-- A call that changes nothing of the stream, so that it can be made through a handle. -/
def isQuery : {α : Type} → InputCall α → Bool
  | _, tell | _, zeroCopy | _, size | _, readAt .. | _, readAtInto .. | _, isClosed
  | _, checkOpen _ => true
  | _, read _ | _, readInto _ | _, peek _ | _, advance _ | _, seek _ | _, close => false

/-- A read by position. -/
def isAddressed : {α : Type} → InputCall α → Bool
  | _, readAt .. | _, readAtInto .. => true
  | _, read _ | _, readInto _ | _, peek _ | _, advance _ | _, tell | _, zeroCopy | _, seek _
  | _, size | _, isClosed | _, checkOpen _ | _, close => false

variable {α : Type} {c : InputCall α}

/-- A read by position changes nothing of the stream. -/
lemma isQuery_of_isAddressed (addressed : c.isAddressed = true) : c.isQuery = true := by
  cases c <;> first | rfl | cases addressed

/-- What changes nothing does not close. -/
lemma isClose_of_isQuery (query : c.isQuery = true) : c.isClose = false := by
  cases c <;> first | rfl | cases query

end InputCall

namespace View

variable {α : Type} {v next : View}

/-- The views that differ from one in the cursor at most. -/
def Moved (v next : View) : Prop := ∃ position : Int, next = { v with position }

/-- A cursor need not move. -/
lemma Moved.refl (v : View) : v.Moved v := ⟨v.position, rfl⟩

/-- A view whose cursor moves keeps its file. -/
lemma Moved.file_eq (h : v.Moved next) : next.file = v.file := by
  obtain ⟨position, rfl⟩ := h
  rfl

/-- Whatever view comes out of the plan, it is as the condition says. -/
def Plan.Leaves (allowed : View → Prop) : Plan α → Prop
  | .answer _ | .overflow => True
  | .move _ next => allowed next
  | .readAt _ _ resume => ∀ b a next, resume b = some (a, next) → allowed next
  | .readAtInto _ _ resume => ∀ f a next, resume f = some (a, next) → allowed next

/-- What a view makes of an answer of its file moves its cursor at most. -/
lemma moved_of_resumed {β : Type} {count : Nat} {made a : β}
    (resumed : (v.advanced? count).map (made, ·) = some (a, next)) : v.Moved next := by
  obtain ⟨moved, advanced, same⟩ := Option.map_eq_some_iff.mp resumed
  cases same
  unfold advanced? at advanced
  split at advanced
  · cases advanced
    exact ⟨_, rfl⟩
  · cases advanced

/-- A read at the cursor moves the cursor at most. -/
lemma planRead_leaves (v : View) (count : Nat) (answer : Buffer → α) :
    (v.planRead count answer).Leaves v.Moved := by
  unfold planRead
  split
  · intro b a next resumed
    exact moved_of_resumed resumed
  · trivial

/-- A read into a target moves the cursor at most. -/
lemma planReadInto_leaves (v : View) (target : Bytes) : (v.planReadInto target).Leaves v.Moved := by
  unfold planReadInto
  simp only
  split
  · intro f a next resumed
    exact moved_of_resumed resumed
  · trivial

/-- What a view is asked leaves it as it is. -/
lemma plan_leaves_self (v : View) {c : InputCall α} (query : c.isQuery = true)
    (shut copiesNothing : Bool) : (v.plan c shut copiesNothing).Leaves (· = v) := by
  unfold plan
  split
  · trivial
  cases c with
  | readAt position count =>
    simp only [planOpen]
    split
    · trivial
    · intro b a next resumed
      cases resumed
      rfl
  | readAtInto position target =>
    simp only [planOpen]
    split
    · trivial
    · intro f a next resumed
      cases resumed
      rfl
  | tell | zeroCopy | size | isClosed | checkOpen _ => trivial
  | read _ | readInto _ | peek _ | advance _ | seek _ | close => cases query

/-- A view that is not being closed moves its cursor at most. -/
lemma plan_leaves (v : View) {c : InputCall α} (stays : c.isClose = false)
    (shut copiesNothing : Bool) : (v.plan c shut copiesNothing).Leaves v.Moved := by
  unfold plan
  split
  · trivial
  cases c with
  | read count => exact planRead_leaves v count id
  | advance count => exact planRead_leaves v count Buffer.length
  | readInto target => exact planReadInto_leaves v target
  | seek position =>
    simp only [planOpen]
    split
    · trivial
    · exact ⟨position, rfl⟩
  | readAt position count =>
    simp only [planOpen]
    split
    · trivial
    · intro b a next resumed
      cases resumed
      exact .refl v
  | readAtInto position target =>
    simp only [planOpen]
    split
    · trivial
    · intro f a next resumed
      cases resumed
      exact .refl v
  | close => cases stays
  | peek _ | tell | zeroCopy | size | isClosed | checkOpen _ => trivial

end View

namespace Streams

variable {α : Type} (rest : Streams) (name : Nat) {v : View} {file : Nat} {c : InputCall α}

/-- What is left when a view has made something of an answer, or nothing. -/
lemma through_streams {β : Type} {allowed : View → Prop} (s : Served β)
    {resume : β → Option (α × View)} (self : allowed v)
    (leaves : ∀ b a next, resume b = some (a, next) → allowed next) :
    ∃ next, allowed next ∧
      (s.through name v resume).streams = (name, .view next) :: s.streams := by
  unfold Served.through
  split
  · exact ⟨v, self, rfl⟩
  · split
    · next resumed => exact ⟨_, leaves _ _ _ resumed, rfl⟩
    · exact ⟨v, self, rfl⟩

/-- **What a view leaves.**  A view that is not being closed leaves what its plan leaves.  The
streams beneath it stay, or have answered one read by position. -/
lemma call_view_streams {allowed : View → Prop} (held : v.file = some file)
    (stays : c.isClose = false)
    (leaves : ∀ shut copiesNothing, (v.plan c shut copiesNothing).Leaves allowed)
    (self : allowed v) :
    ∃ next, allowed next ∧
      ((call ((name, .view v) :: rest) name c).streams = (name, .view next) :: rest ∨
        ∃ (β : Type) (d : InputCall β), d.isAddressed = true ∧
          (call ((name, .view v) :: rest) name c).streams =
            (name, .view next) :: (rest.call file d).streams) := by
  rw [call_view rest name held stays]
  have planned := leaves (rest.isClosed file) (rest.copiesNothing file)
  revert planned
  cases v.plan c (rest.isClosed file) (rest.copiesNothing file) <;> intro planned
  case answer result => exact ⟨v, self, .inl rfl⟩
  case move result next => exact ⟨next, planned, .inl rfl⟩
  case overflow => exact ⟨v, self, .inl rfl⟩
  case readAt position count resume =>
    obtain ⟨next, moved, left⟩ :=
      through_streams name (rest.call file (.readAt position count)) self planned
    exact ⟨next, moved, .inr ⟨_, .readAt position count, rfl, left⟩⟩
  case readAtInto position target resume =>
    obtain ⟨next, moved, left⟩ :=
      through_streams name (rest.call file (.readAtInto position target)) self planned
    exact ⟨next, moved, .inr ⟨_, .readAtInto position target, rfl, left⟩⟩

/-- A view that is not being closed moves its cursor at most. -/
lemma call_view_moved (held : v.file = some file) (stays : c.isClose = false) :
    ∃ next, v.Moved next ∧
      ((call ((name, .view v) :: rest) name c).streams = (name, .view next) :: rest ∨
        ∃ (β : Type) (d : InputCall β), d.isAddressed = true ∧
          (call ((name, .view v) :: rest) name c).streams =
            (name, .view next) :: (rest.call file d).streams) :=
  call_view_streams rest name held stays (v.plan_leaves stays) (.refl v)

/-- A view that is asked something stays as it is. -/
lemma call_view_query (held : v.file = some file) (query : c.isQuery = true) :
    (call ((name, .view v) :: rest) name c).streams = (name, .view v) :: rest ∨
      ∃ (β : Type) (d : InputCall β), d.isAddressed = true ∧
        (call ((name, .view v) :: rest) name c).streams =
          (name, .view v) :: (rest.call file d).streams := by
  obtain ⟨next, rfl, left⟩ := call_view_streams rest name held
    (InputCall.isClose_of_isQuery query) (v.plan_leaves_self query) rfl
  exact left

end Streams

end ByteStreams
