import ByteStreams.Proofs.Input.Accounted

/-!
# What is seen through a stream

`Streams.sight` is what the answers of a stream depend on: the reader at the bottom, the windows
through which it is seen, and the cursor of the stream itself.  The cursors of the streams beneath a
view are left out, for it reads by position; so are the counts of handles.

A stream answers as its sight does and goes on to be seen as its sight goes on (`call_sight`).  The
sight of any stream in reach stays the same while handles are copied (`sight_setHandles`), while
handles and views are given up (`sight_giveUp`), and while another stream is called (`sight_call`).
-/

namespace ByteStreams

/-- What is seen through a stream. -/
inductive Sight where
  /-- A stream that is gone. -/
  | shut
  | reader (r : Reader)
  /-- A window of what is beneath. -/
  | view (v : View) (beneath : Sight)

namespace Sight

variable {α β : Type}

/-- Whether the stream is closed. -/
def isClosed : Sight → Bool
  | shut => true
  | reader r => r.closed
  | view _ beneath => beneath.isClosed

/-- Whether the stream answers with slices. -/
def copiesNothing : Sight → Bool
  | shut => false
  | reader _ => true
  | view _ beneath => beneath.copiesNothing

/-- The same with the cursor at the start. -/
def still : Sight → Sight
  | shut => shut
  | reader r => reader { r with position := 0 }
  | view v beneath => view { v with position := 0 } beneath

/-- What a view makes of an answer from beneath. -/
def through (v : View) (beneath : Sight) (answer : Except Fault β)
    (resume : β → Option (α × View)) : Except Fault α × Sight :=
  match answer with
  | .error fault => (.error fault, view v beneath)
  | .ok b =>
    match resume b with
    | some (a, next) => (.ok a, view next beneath)
    | none => (.error .overflow, view v beneath)

/-- The answer of a view that makes something of every answer from beneath. -/
lemma through_fst (v : View) (beneath : Sight) (answer : Except Fault β) (made : β → α)
    (next : View) :
    (through v beneath answer fun b => some (made b, next)).1 = answer.map made := by
  cases answer <;> rfl

/-- What a plan of a view comes to, if this is how the file answers. -/
def served (v : View) (beneath : Sight) (ask : {β : Type} → InputCall β → Except Fault β) :
    View.Plan α → Except Fault α × Sight
  | .answer result => (result.mapError .error, view v beneath)
  | .move result next => (.ok result, view next beneath)
  | .readAt position count resume => through v beneath (ask (.readAt position count)) resume
  | .readAtInto position target resume =>
    through v beneath (ask (.readAtInto position target)) resume
  | .overflow => (.error .overflow, view v beneath)

/-- The answer to a call, and what is seen afterwards. -/
def call : Sight → {α : Type} → InputCall α → Except Fault α × Sight
  | shut, _, c => ((c.whenClosed false).mapError .error, shut)
  | reader r, _, c => ((r.call c).1.mapError .error, reader (r.call c).2)
  | view v beneath, _, c =>
    match c with
    | .close => (.ok (), shut)
    | c => served v beneath (fun d => (beneath.call d).1)
      (v.plan c beneath.isClosed beneath.copiesNothing)

variable {c : InputCall α} {v next : View}

/-- A view that is not being closed carries out its plan. -/
lemma call_view (v : View) (beneath : Sight) (stays : c.isClose = false) :
    (view v beneath).call c = served v beneath (fun d => (beneath.call d).1)
      (v.plan c beneath.isClosed beneath.copiesNothing) := by
  cases c with
  | close => cases stays
  | _ => rfl

/-! ### The cursor -/

/-- Whether a stream is closed has nothing to do with its cursor. -/
@[simp] lemma isClosed_still (s : Sight) : s.still.isClosed = s.isClosed := by
  cases s <;> rfl

/-- Nor has whether it copies. -/
@[simp] lemma copiesNothing_still (s : Sight) : s.still.copiesNothing = s.copiesNothing := by
  cases s <;> rfl

/-- A view whose cursor has moved is the same when still. -/
lemma still_view_of_moved (moved : v.Moved next) (beneath : Sight) :
    (view next beneath).still = (view v beneath).still := by
  obtain ⟨position, rfl⟩ := moved
  rfl

/-- What a view makes of an answer from beneath is the same when still. -/
lemma still_through {beneath : Sight} {answer : Except Fault β} {resume : β → Option (α × View)}
    (moves : ∀ b a next, resume b = some (a, next) → v.Moved next) :
    (through v beneath answer resume).2.still = (view v beneath).still := by
  unfold through
  split
  · rfl
  · split
    · next resumed => exact still_view_of_moved (moves _ _ _ resumed) beneath
    · rfl

/-- A call that does not close a reader moves its cursor at most. -/
lemma still_call_reader (stays : c.isClose = false) (r : Reader) :
    (reader (r.call c).2).still = (reader r).still := by
  unfold Reader.call
  split
  · rfl
  cases c with
  | close => cases stays
  | seek position => simp only [Reader.callOpen]; split <;> rfl
  | readAt position count => simp only [Reader.callOpen]; split <;> rfl
  | readAtInto position target => simp only [Reader.callOpen]; split <;> rfl
  | _ => rfl

/-- A reader answers a read by position wherever its cursor is. -/
lemma call_still_reader (addressed : c.isAddressed = true) (r : Reader) :
    ((reader r).still.call c).1 = ((reader r).call c).1 := by
  cases c with
  | readAt position count =>
    simp only [still, call, Reader.call, Reader.callOpen]
    split
    · rfl
    · split <;> rfl
  | readAtInto position target =>
    simp only [still, call, Reader.call, Reader.callOpen]
    split
    · rfl
    · split <;> rfl
  | _ => cases addressed

/-- **Reads by position** do not depend on the cursor. -/
lemma call_still (addressed : c.isAddressed = true) (s : Sight) :
    (s.still.call c).1 = (s.call c).1 := by
  cases s with
  | shut => rfl
  | reader r => exact call_still_reader addressed r
  | view v beneath =>
    have stays := InputCall.isClose_of_isQuery (InputCall.isQuery_of_isAddressed addressed)
    rw [still, call_view _ beneath stays, call_view v beneath stays]
    cases c with
    | readAt position count =>
      simp only [View.plan, View.planOpen]
      split
      · rfl
      · split
        · rfl
        · exact (through_fst ..).trans (through_fst ..).symm
    | readAtInto position target =>
      simp only [View.plan, View.planOpen]
      split
      · rfl
      · split
        · rfl
        · exact (through_fst ..).trans (through_fst ..).symm
    | _ => cases addressed

/-- A call that does not close moves the cursor at most. -/
lemma still_call (stays : c.isClose = false) (s : Sight) : (s.call c).2.still = s.still := by
  cases s with
  | shut => rfl
  | reader r => exact still_call_reader stays r
  | view v beneath =>
    rw [call_view v beneath stays]
    have leaves := v.plan_leaves stays beneath.isClosed beneath.copiesNothing
    revert leaves
    cases v.plan c beneath.isClosed beneath.copiesNothing <;> intro leaves
    case answer result => rfl
    case move result next => exact still_view_of_moved leaves beneath
    case overflow => rfl
    case readAt position count resume => exact still_through leaves
    case readAtInto position target resume => exact still_through leaves

end Sight

namespace Streams

/-- What is seen through a stream.  A name that stands for nothing is gone, and so are, here, the
streams that are no readers, shared files or views. -/
def sight : Streams → Nat → Sight
  | [], _ => .shut
  | (key, node) :: rest, name =>
    if key = name then
      match node with
      | .reader r => .reader r
      | .shared inner _ => sight rest inner
      | .view v => match v.file with
        | none => .shut
        | some file => .view v (sight rest file).still
      | .scripted _ | .slow _ _ => .shut
    else sight rest name

variable {α : Type} {roots : List Nat} {streams rest : Streams} {key name other : Nat}
  {node : Node} {c : InputCall α}

/-- What is seen through an older stream. -/
lemma sight_cons_of_ne (different : key ≠ name) :
    sight ((key, node) :: rest) name = rest.sight name :=
  if_neg different

/-- What is seen through a shared file. -/
lemma sight_shared (name inner count : Nat) (rest : Streams) :
    sight ((name, .shared inner count) :: rest) name = rest.sight inner :=
  if_pos rfl

/-- What is seen through a view that holds a file. -/
lemma sight_view {v : View} {file : Nat} (held : v.file = some file) (name : Nat)
    (rest : Streams) :
    sight ((name, .view v) :: rest) name = .view v (rest.sight file).still := by
  simp only [sight, if_true, held]

/-- What is seen through a view that has given up its file. -/
lemma sight_givenUp {v : View} (givenUp : v.file = none) (name : Nat) (rest : Streams) :
    sight ((name, .view v) :: rest) name = .shut := by
  simp only [sight, if_true, givenUp]

/-- A stream of a program is closed, or copies nothing, exactly if it is seen to. -/
lemma Accounted.flags_eq (h : Accounted roots streams) (name : Nat) :
    streams.isClosed name = (streams.sight name).isClosed ∧
      streams.copiesNothing name = (streams.sight name).copiesNothing := by
  induction streams generalizing roots name with
  | nil => exact ⟨rfl, rfl⟩
  | cons entry rest ih =>
    obtain ⟨key, node⟩ := entry
    obtain ⟨isNew, fits, tail⟩ := h
    by_cases same : key = name
    · subst same
      cases node with
      | reader r =>
        simp only [Streams.isClosed, Streams.copiesNothing, sight, if_true]
        exact ⟨rfl, rfl⟩
      | shared inner count =>
        simp only [Streams.isClosed, Streams.copiesNothing, sight, if_true]
        exact ih tail inner
      | view v =>
        cases held : v.file with
        | none =>
          simp only [Streams.isClosed, Streams.copiesNothing, sight_givenUp held, if_true, held]
          exact ⟨rfl, rfl⟩
        | some file =>
          simp only [Streams.isClosed, Streams.copiesNothing, sight_view held, if_true, held,
            Sight.isClosed, Sight.copiesNothing, Sight.isClosed_still, Sight.copiesNothing_still]
          exact ih tail file
      | scripted f | slow inner clock => exact fits.elim
    · simp only [Streams.isClosed, Streams.copiesNothing, sight, if_neg same]
      exact ih tail name

/-! ### Calls -/

/-- What a view makes of the answer of its file is what it makes of the answer that is seen. -/
lemma through_agrees {β : Type} {v : View} {file : Nat} {served : Served β}
    {resume : β → Option (α × View)} (held : v.file = some file)
    (moves : ∀ b a next, resume b = some (a, next) → v.Moved next)
    (unchanged : served.streams = rest) :
    (served.through key v resume).result =
        (Sight.through v (rest.sight file).still served.result resume).1 ∧
      (served.through key v resume).streams.sight key =
        (Sight.through v (rest.sight file).still served.result resume).2 := by
  unfold Served.through Sight.through
  rw [unchanged]
  cases served.result with
  | error fault => exact ⟨rfl, sight_view held key rest⟩
  | ok b =>
    cases resumed : resume b with
    | none =>
      simp only [resumed]
      exact ⟨trivial, sight_view held key rest⟩
    | some made =>
      have moved := moves b made.1 made.2 resumed
      simp only [resumed]
      exact ⟨trivial, sight_view (moved.file_eq.trans held) key rest⟩

/-- **A stream answers as it is seen**, and is seen afterwards as what is seen goes on.  A shared
file is only asked. -/
theorem Accounted.call_sight (h : Accounted roots streams)
    (asked : streams.isFile name = true → c.isQuery = true) :
    (streams.call name c).result = ((streams.sight name).call c).1 ∧
      (streams.call name c).streams.sight name = ((streams.sight name).call c).2 := by
  induction streams generalizing roots name α with
  | nil => exact ⟨rfl, rfl⟩
  | cons entry rest ih =>
    obtain ⟨key, node⟩ := entry
    obtain ⟨isNew, fits, tail⟩ := h
    by_cases same : key = name
    · subst same
      cases node with
      | reader r =>
        rw [call_reader]
        simp only [sight, if_true]
        exact ⟨rfl, if_pos rfl⟩
      | shared inner count =>
        have query : isFile rest inner = true → c.isQuery = true := fun _ =>
          asked (by simp [isFile, Node.kind])
        rw [call_shared, sight_shared]
        obtain ⟨answer, seen⟩ := ih tail query
        exact ⟨answer, (sight_shared ..).trans seen⟩
      | view v =>
        cases held : v.file with
        | none =>
          rw [call_view_closed rest key held, sight_givenUp held]
          exact ⟨rfl, sight_givenUp held key rest⟩
        | some file =>
          rw [sight_view held]
          by_cases stays : c.isClose = false
          · -- The file answers what is seen beneath, and stays as it is.
            have beneath {β : Type} {d : InputCall β} (addressed : d.isAddressed = true) :
                (Streams.call rest file d).result = ((sight rest file).still.call d).1 ∧
                  (Streams.call rest file d).streams = rest := by
              have query := InputCall.isQuery_of_isAddressed addressed
              rw [Sight.call_still addressed]
              exact ⟨(ih tail fun _ => query).1, tail.query query file⟩
            rw [call_view rest key held stays, Sight.call_view v _ stays, Sight.isClosed_still,
              Sight.copiesNothing_still, ← (tail.flags_eq file).1, ← (tail.flags_eq file).2]
            have leaves := v.plan_leaves stays (Streams.isClosed rest file)
              (Streams.copiesNothing rest file)
            revert leaves
            cases v.plan c (Streams.isClosed rest file) (Streams.copiesNothing rest file) <;>
              intro leaves
            case answer result => exact ⟨rfl, sight_view held key rest⟩
            case move result next =>
              exact ⟨rfl, sight_view (leaves.file_eq.trans held) key rest⟩
            case overflow => exact ⟨rfl, sight_view held key rest⟩
            case readAt position count resume =>
              obtain ⟨answer, unchanged⟩ := beneath (d := .readAt position count) rfl
              simp only [Sight.served, ← answer]
              exact through_agrees held leaves unchanged
            case readAtInto position target resume =>
              obtain ⟨answer, unchanged⟩ := beneath (d := .readAtInto position target) rfl
              simp only [Sight.served, ← answer]
              exact through_agrees held leaves unchanged
          · cases c with
            | close =>
              have closing : Accounted roots ((key, .view v) :: rest) := ⟨isNew, fits, tail⟩
              refine ⟨closing.close_result key, ?_⟩
              simp only [Streams.call, if_true, held]
              exact sight_givenUp rfl key _
            | _ => exact absurd rfl stays
      | scripted f | slow inner clock => exact fits.elim
    · rw [isFile_cons_of_ne same] at asked
      rw [call_other rest same, sight_cons_of_ne same]
      obtain ⟨answer, seen⟩ := ih tail asked
      exact ⟨answer, (sight_cons_of_ne same).trans seen⟩

/-! ### The other streams -/

/-- A stream in reach of a program: it holds a reference to it, or the stream is a file that has
handles. -/
def InReach (roots : List Nat) (streams : Streams) (name : Nat) : Prop :=
  name ∈ roots ∨ 0 < streams.handles name

/-- What is seen does not depend on the number of handles. -/
@[simp] lemma sight_setHandles (change : Nat → Nat) (streams : Streams) (name other : Nat) :
    (setHandles change streams name).sight other = streams.sight other := by
  induction streams generalizing other with
  | nil => rfl
  | cons entry rest ih =>
    obtain ⟨key, node⟩ := entry
    by_cases same : key = name
    · cases node <;> simp only [setHandles, if_pos same, sight]
    · simp only [setHandles, if_neg same, sight]
      cases node <;> simp only [ih]

/-- What is seen through a stream is what is seen of the streams that it refers to. -/
lemma sight_cons_congr {later : Streams} (counted : 0 < handles ((key, node) :: rest) key ∨
      node.kind ≠ .shared) (links : ∀ other ∈ node.links, later.sight other = rest.sight other) :
    sight ((key, node) :: later) key = sight ((key, node) :: rest) key := by
  cases node with
  | reader r => simp only [sight, if_true]
  | view v =>
    cases held : v.file with
    | none => rw [sight_givenUp held, sight_givenUp held]
    | some file =>
      rw [sight_view held, sight_view held, links file (by simp [Node.links, held])]
  | shared inner count =>
    have some : count ≠ 0 := by
      rcases counted with some | other
      · simp only [handles, find?, if_true] at some
        exact Nat.ne_of_gt some
      · exact absurd rfl other
    rw [sight_shared, sight_shared, links inner (by simp [Node.links, some])]
  | scripted f | slow inner clock => simp only [sight, if_true]

/-- Only shared files have handles. -/
lemma handles_of_not_shared (other : node.kind ≠ .shared) :
    handles ((key, node) :: rest) key = 0 := by
  cases node with
  | shared inner count => exact absurd rfl other
  | reader r | scripted f | view v | slow inner clock => simp [handles, find?]

namespace InReach

/-- A shared file in reach has handles. -/
lemma counted {later : Streams} (reach : InReach roots ((key, node) :: later) key)
    (fits : node.Fits rest (roots.count key)) :
    0 < handles ((key, node) :: rest) key ∨ node.kind ≠ .shared := by
  rw [InReach, handles_cons_self key node later rest] at reach
  rcases reach with held | counted
  · cases node with
    | shared inner count =>
      left
      simp only [handles, find?, if_true, fits.1]
      exact List.count_pos_iff.mpr held
    | reader r | scripted f | view v | slow inner clock =>
      right
      intro shared
      cases shared
  · exact .inl counted

/-- What is in reach among the older streams is in reach of the program, or of a newer stream. -/
lemma tail (links : List Nat) (reach : InReach roots ((key, node) :: rest) other)
    (different : key ≠ other) : InReach (links ++ roots) rest other := by
  rcases reach with held | counted
  · exact .inl (List.mem_append_right links held)
  · rw [handles_cons_of_ne different] at counted
    exact .inr counted

/-- A stream is out of reach that the program has no reference to and that has no handles. -/
lemma ne (reach : InReach roots ((key, node) :: rest) other)
    (single : (key :: roots).count key ≤ 1) (none : handles ((key, node) :: rest) key = 0) :
    key ≠ other := by
  rintro rfl
  rcases reach with held | counted
  · have some := List.count_pos_iff.mpr held
    rw [List.count_cons_self] at single
    omega
  · omega

end InReach

/-- **Giving up** leaves what is seen through any stream that stays in reach. -/
theorem Accounted.sight_giveUp {leave : Reader → Reader} (h : Accounted (name :: roots) streams)
    (reach : InReach roots (streams.giveUp leave name) other) :
    (streams.giveUp leave name).sight other = streams.sight other := by
  induction streams generalizing roots name other with
  | nil => rfl
  | cons entry rest ih =>
    obtain ⟨key, node⟩ := entry
    obtain ⟨isNew, fits, tail⟩ := h
    by_cases same : key = name
    · subst same
      cases node with
      | reader r =>
        -- The only reference has been given up, so the stream in reach is another one.
        simp only [Streams.giveUp, if_true] at reach ⊢
        have different := reach.ne fits (handles_of_not_shared (by simp [Node.kind]))
        rw [sight_cons_of_ne different, sight_cons_of_ne different]
      | view v =>
        cases held : v.file with
        | none => simp only [Streams.giveUp, if_true, held]
        | some file =>
          simp only [Streams.giveUp, if_true, held] at reach ⊢
          simp only [Node.links, held, Option.toList_some] at tail
          have different := reach.ne fits.1 (handles_of_not_shared (by simp [Node.kind]))
          rw [sight_cons_of_ne different, sight_cons_of_ne different]
          exact ih tail (reach.tail [key] different)
      | shared inner count =>
        obtain ⟨counted, _⟩ := fits
        rw [List.count_cons_self] at counted
        have some : count ≠ 0 := by omega
        simp only [Node.links, if_neg some] at tail
        simp only [Streams.giveUp, if_true] at reach ⊢
        by_cases last : count = 1
        · rw [if_pos last] at reach ⊢
          have single : (key :: roots).count key ≤ 1 := by
            rw [List.count_cons_self]
            omega
          have different := reach.ne single (by simp [handles, find?, last])
          rw [sight_cons_of_ne different, sight_cons_of_ne different]
          exact ih tail (reach.tail [key] different)
        · rw [if_neg last]
          by_cases here : key = other
          · subst here
            rw [sight_shared, sight_shared]
          · rw [sight_cons_of_ne here, sight_cons_of_ne here]
      | scripted f | slow inner clock => exact fits.elim
    · simp only [Streams.giveUp, if_neg same] at reach ⊢
      rw [List.count_cons_of_ne (Ne.symm same)] at fits
      by_cases here : key = other
      · subst here
        have beneath : ∀ linked ∈ node.links,
            (Streams.giveUp leave rest name).sight linked = sight rest linked :=
          fun linked member => ih tail.rotate (.inl (List.mem_append_left _ member))
        exact sight_cons_congr (reach.counted fits) beneath
      · rw [sight_cons_of_ne here, sight_cons_of_ne here]
        exact ih tail.rotate (reach.tail node.links here)

/-- **A call** on a view that the program holds leaves what is seen through any other stream in
reach, unless it closes the view. -/
theorem Accounted.sight_call (h : Accounted (name :: roots) streams)
    (notFile : streams.isFile name = false) (stays : c.isClose = false)
    (reach : InReach roots (streams.call name c).streams other) :
    (streams.call name c).streams.sight other = streams.sight other := by
  induction streams generalizing roots other with
  | nil => rfl
  | cons entry rest ih =>
    obtain ⟨key, node⟩ := entry
    obtain ⟨isNew, fits, tail⟩ := h
    by_cases same : key = name
    · subst same
      cases node with
      | reader r =>
        rw [call_reader] at reach ⊢
        have different := reach.ne fits (handles_of_not_shared (by simp [Node.kind]))
        exact (sight_cons_of_ne different).trans (sight_cons_of_ne different).symm
      | shared inner count => simp [isFile, Node.kind] at notFile
      | view v =>
        cases held : v.file with
        | none => rw [call_view_closed rest key held]; rfl
        | some file =>
          obtain ⟨next, _, left⟩ := tail.view_moved held stays
          rw [left] at reach ⊢
          have different := reach.ne fits.1 (handles_of_not_shared (by simp [Node.kind]))
          rw [sight_cons_of_ne different, sight_cons_of_ne different]
      | scripted f | slow inner clock => exact fits.elim
    · rw [isFile_cons_of_ne same] at notFile
      rw [call_other rest same] at reach ⊢
      rw [List.count_cons_of_ne (Ne.symm same)] at fits
      by_cases here : key = other
      · subst here
        have beneath : ∀ linked ∈ node.links,
            (Streams.call rest name c).streams.sight linked = sight rest linked :=
          fun linked member => ih tail.rotate notFile (.inl (List.mem_append_left _ member))
        exact sight_cons_congr (reach.counted fits) beneath
      · have older := ih tail.rotate notFile (reach.tail node.links here)
        exact (sight_cons_of_ne here).trans (older.trans (sight_cons_of_ne here).symm)

end Streams

end ByteStreams
