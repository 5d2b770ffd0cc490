import ByteStreams.Proofs.Input.Holdings

/-!
# Views of one shared file

A scripted file is shared, and views of it lie one upon the other (`Streams.Family`).  A view that
holds a handle gives it up when it is closed, and when it is dropped; what it leaves is the same in
both cases (`Streams.parted`), but for the file, which is closed by the close of the only holder.
-/

namespace ByteStreams

namespace Streams

/-! ### Finding what was changed -/

/-- Another stream under a name that is in use is found there. -/
lemma find?_replace_self {streams : Streams} {name : Nat} {old : Node}
    (found : streams.find? name = some old) (new : Node) :
    (streams.replace name new).find? name = some new := by
  induction streams with
  | nil => cases found
  | cons entry rest ih =>
    obtain ⟨key, node⟩ := entry
    by_cases same : key = name
    · simp [replace, find?, same]
    · simp only [find?, if_neg same] at found
      simp only [replace, find?, if_neg same]
      exact ih found

/-- The other names stand for what they did. -/
lemma find?_replace_other {name other : Nat} (different : other ≠ name) (streams : Streams)
    (new : Node) : (streams.replace name new).find? other = streams.find? other := by
  induction streams with
  | nil => rfl
  | cons entry rest ih =>
    obtain ⟨key, node⟩ := entry
    by_cases same : key = name
    · subst same
      simp [replace, find?, Ne.symm different]
    · simp only [replace, find?, if_neg same, ih]

/-! ### Views that hold nothing -/

variable {streams : Streams} {name : Nat} {v : View}

/-- A view that has given up its handle answers as a closed stream. -/
lemma call_of_givenUp {α : Type} (found : streams.find? name = some (.view v))
    (givenUp : v.file = none) (c : InputCall α) :
    streams.call name c = .ofResult (c.whenClosed false) streams := by
  induction streams with
  | nil => cases found
  | cons entry rest ih =>
    obtain ⟨key, node⟩ := entry
    by_cases same : key = name
    · subst same
      simp only [find?, if_true, Option.some.injEq] at found
      subst found
      exact call_view_closed rest key givenUp c
    · simp only [find?, if_neg same] at found
      rw [call_other rest same, ih found]
      rfl

/-- A view that has given up its handle is closed. -/
lemma isClosed_of_givenUp (found : streams.find? name = some (.view v))
    (givenUp : v.file = none) : streams.isClosed name = true := by
  induction streams with
  | nil => cases found
  | cons entry rest ih =>
    obtain ⟨key, node⟩ := entry
    by_cases same : key = name
    · simp only [find?, if_pos same, Option.some.injEq] at found
      simp only [isClosed, if_pos same, found, givenUp]
    · simp only [find?, if_neg same] at found
      simp only [isClosed, if_neg same, ih found]

/-- Nothing is lost with a view that has given up its handle. -/
lemma letGo_of_givenUp (found : streams.find? name = some (.view v))
    (givenUp : v.file = none) : streams.letGo name = streams := by
  unfold letGo
  induction streams with
  | nil => cases found
  | cons entry rest ih =>
    obtain ⟨key, node⟩ := entry
    by_cases same : key = name
    · simp only [find?, if_pos same, Option.some.injEq] at found
      simp only [giveUp, if_pos same, found, givenUp]
    · simp only [find?, if_neg same] at found
      simp only [giveUp, if_neg same, ih found]

/-! ### Views of one shared file -/

/-- Views of a shared file that has so many handles and stands for a scripted file. -/
inductive Family (count : Nat) (f : ScriptedFile) : Streams → Prop where
  | file : Family count f [(1, .shared 0 count), (0, .scripted f)]
  | view {streams : Streams} {key : Nat} {v : View} (beneath : Family count f streams)
      (notFile : key ≠ 0) (notShared : key ≠ 1) (holds : v.file = none ∨ v.file = some 1) :
      Family count f ((key, .view v) :: streams)

/-- A view that holds a handle on the shared file. -/
def Holds (streams : Streams) (name : Nat) : Prop :=
  ∃ v : View, streams.find? name = some (.view v) ∧ v.file = some 1

/-- The streams once a view has given up its handle on the shared file. -/
def parted (streams : Streams) (name : Nat) (v : View) : Streams :=
  (streams.replace name (.view { v with file := none })).release 1

namespace Family

variable {count : Nat} {f : ScriptedFile}

/-- There is no view beneath the shared file. -/
lemma find?_file_ne_view (count : Nat) (f : ScriptedFile) (name : Nat) (v : View) :
    find? [(1, .shared 0 count), (0, .scripted f)] name ≠ some (.view v) := by
  intro found
  simp only [find?] at found
  split at found
  · cases found
  · split at found <;> cases found

variable (h : Family count f streams)

include h

/-- The scripted file. -/
lemma find?_zero : streams.find? 0 = some (.scripted f) := by
  induction h with
  | file => rfl
  | view beneath notFile notShared holds ih => simpa [find?, notFile] using ih

/-- The shared file. -/
lemma find?_one : streams.find? 1 = some (.shared 0 count) := by
  induction h with
  | file => rfl
  | view beneath notFile notShared holds ih => simpa [find?, notShared] using ih

lemma handles_eq : streams.handles 1 = count := by
  unfold handles
  rw [h.find?_one]

/-- The shared file is the only file. -/
lemma isFile_eq (name : Nat) : streams.isFile name = decide (name = 1) := by
  unfold isFile
  by_cases shared : name = 1
  · simp [shared, kind?, h.find?_one, Node.kind]
  · rw [decide_eq_false shared, decide_eq_false_iff_not]
    induction h with
    | file =>
      rw [kind?_cons_of_ne (Ne.symm shared)]
      by_cases file : 0 = name <;> simp [kind?, find?, file, Node.kind]
    | @view streams key v beneath notFile notShared holds ih =>
      by_cases same : key = name
      · rw [same, kind?_cons_self]
        exact fun isShared => by cases isShared
      · rwa [kind?_cons_of_ne same]

/-- A view of a family holds the shared file or nothing. -/
lemma file_eq (found : streams.find? name = some (.view v)) :
    v.file = none ∨ v.file = some 1 := by
  induction h with
  | file => exact absurd found (find?_file_ne_view count f name v)
  | @view streams key w beneath notFile notShared holds ih =>
    by_cases same : key = name
    · simp only [find?, same, if_true, Option.some.injEq, Node.view.injEq] at found
      rw [← found]
      exact holds
    · simp only [find?, if_neg same] at found
      exact ih found

/-- A name that stands for a view is neither the file's nor the shared file's. -/
lemma ne_of_view (found : streams.find? name = some (.view v)) : name ≠ 0 ∧ name ≠ 1 := by
  refine ⟨fun file => ?_, fun shared => ?_⟩
  · rw [file, h.find?_zero] at found
    cases found
  · rw [shared, h.find?_one] at found
    cases found

/-- Another scripted file. -/
lemma replace_file (g : ScriptedFile) : Family count g (streams.replace 0 (.scripted g)) := by
  induction h with
  | file => exact .file
  | @view streams key v beneath notFile notShared holds ih =>
    simp only [replace, if_neg notFile]
    exact .view ih notFile notShared holds

/-- Another view under the name of a view. -/
lemma replace_view (notFile : name ≠ 0) (notShared : name ≠ 1)
    (holds : v.file = none ∨ v.file = some 1) :
    Family count f (streams.replace name (.view v)) := by
  induction h with
  | file =>
    simp only [replace, if_neg (Ne.symm notFile), if_neg (Ne.symm notShared)]
    exact .file
  | @view streams key w beneath notZero notOne before ih =>
    by_cases same : key = name
    · simp only [replace, if_pos same]
      exact .view beneath notZero notOne holds
    · simp only [replace, if_neg same]
      exact .view ih notZero notOne before

/-- Another number of handles. -/
lemma of_setHandles (change : Nat → Nat) :
    Family (change count) f (setHandles change streams 1) := by
  induction h with
  | file => exact .file
  | @view streams key v beneath notFile notShared holds ih =>
    simp only [setHandles, if_neg notShared]
    exact .view ih notFile notShared holds

/-- A family in which a view has given up its handle. -/
lemma of_parted (found : streams.find? name = some (.view v)) :
    Family (count - 1) f (streams.parted name v) := by
  obtain ⟨notFile, notShared⟩ := h.ne_of_view found
  have replaced := h.replace_view (v := { v with file := none }) notFile notShared (.inl rfl)
  exact replaced.of_setHandles (· - 1)

/-- The view that has given up its handle holds none, and all others hold what they held. -/
lemma holds_parted (found : streams.find? name = some (.view v)) (view : Nat) :
    (streams.parted name v).Holds view ↔ view ≠ name ∧ streams.Holds view := by
  obtain ⟨_, notShared⟩ := h.ne_of_view found
  by_cases same : view = name
  · subst same
    have here : (streams.parted view v).find? view = some (.view { v with file := none }) :=
      (find?_setHandles_other notShared _ _).trans (find?_replace_self found _)
    simp [Holds, here]
  · by_cases shared : view = 1
    · subst shared
      simp [Holds, (h.of_parted found).find?_one, h.find?_one]
    · have there : (streams.parted name v).find? view = streams.find? view :=
        (find?_setHandles_other shared _ _).trans (find?_replace_other same _ _)
      simp [Holds, there, same]

/-- The number of handles makes no difference to the views. -/
lemma holds_setHandles (change : Nat → Nat) (view : Nat) :
    (setHandles change streams 1).Holds view ↔ streams.Holds view := by
  by_cases shared : view = 1
  · subst shared
    simp [Holds, (h.of_setHandles change).find?_one, h.find?_one]
  · simp [Holds, find?_setHandles_other shared]

/-- Another scripted file makes no difference to the views. -/
lemma holds_replace_file (g : ScriptedFile) (view : Nat) :
    (streams.replace 0 (.scripted g)).Holds view ↔ streams.Holds view := by
  by_cases file : view = 0
  · subst file
    simp [Holds, (h.replace_file g).find?_zero, h.find?_zero]
  · simp [Holds, find?_replace_other file]

/-! ### What closing and dropping does -/

/-- The shared file hands a call on to the scripted file. -/
lemma call_file {α : Type} (c : InputCall α) :
    streams.call 1 c =
      .ofResult (f.call c).1 (streams.replace 0 (.scripted (f.call c).2)) := by
  induction h with
  | file => rfl
  | @view streams key v beneath notFile notShared holds ih =>
    rw [call_other streams notShared, ih]
    simp only [replace, if_neg notFile]
    rfl

/-- Dropping a handle closes nothing. -/
lemma letGo_file : streams.letGo 1 = streams.release 1 := by
  unfold letGo release
  induction h with
  | file => by_cases last : count = 1 <;> simp [giveUp, setHandles]
  | @view streams key v beneath notFile notShared holds ih =>
    simp only [giveUp, setHandles, if_neg notShared, ih]

/-- A view that holds a handle gives it up when it is dropped. -/
lemma letGo_view (found : streams.find? name = some (.view v)) (holding : v.file = some 1) :
    streams.letGo name = streams.parted name v := by
  unfold letGo
  induction h with
  | file => exact absurd found (find?_file_ne_view count f name v)
  | @view streams key w beneath notFile notShared holds ih =>
    by_cases same : key = name
    · subst same
      simp only [find?, if_true, Option.some.injEq, Node.view.injEq] at found
      subst found
      have dropped := beneath.letGo_file
      unfold letGo at dropped
      simp only [giveUp, if_true, holding, dropped, parted, replace, release, setHandles,
        if_neg notShared]
    · simp only [find?, if_neg same] at found
      simp only [giveUp, if_neg same, ih found, parted, replace, release, setHandles,
        if_neg notShared]

/-- A view that holds the only handle closes the file, and any view gives up its handle. -/
lemma call_close (found : streams.find? name = some (.view v)) (holding : v.file = some 1) :
    streams.call name .close =
      if count = 1 then
        .ofResult (f.call .close).1
          ((streams.replace 0 (.scripted (f.call .close).2)).parted name v)
      else .ofResult (.ok ()) (streams.parted name v) := by
  induction h with
  | file => exact absurd found (find?_file_ne_view count f name v)
  | @view streams key w beneath notFile notShared holds ih =>
    by_cases same : key = name
    · subst same
      simp only [find?, if_true, Option.some.injEq, Node.view.injEq] at found
      subst found
      simp only [call, if_true, holding, beneath.handles_eq, beneath.call_file, parted, replace,
        release, setHandles, if_neg notShared, if_neg notFile]
      split <;> rfl
    · simp only [find?, if_neg same] at found
      rw [call_other streams same, ih found]
      simp only [parted, replace, release, setHandles, if_neg same, if_neg notShared,
        if_neg notFile]
      split <;> rfl

end Family

end Streams

end ByteStreams
