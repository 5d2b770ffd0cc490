import ByteStreams.Proofs.Input.Accounted
import ByteStreams.Proofs.Input.Closings
import ByteStreams.Proofs.Input.Family
import Mathlib.Data.List.Nodup

/-!
# Closing nested views

Views are nested when each of them holds a shared file that stands for the next one, and the
innermost holds one that stands for a reader (`Streams.Nested`).  Closing the outermost view gives
it up: it gives up its handle, and a shared file that loses its last handle gives up what it stands
for (`Streams.close_nested`).

What is given up is read off the parts of the view: they are given up one after the other, as far as
the first that does not take the next one along (`Streams.givenUpWith`).  So the closing goes down
to the first shared file that has another handle, and no further; if there is none, it goes down to
the reader (`Streams.close_cascades`).
-/

namespace ByteStreams

/-- One level of nested views: an open view, and the shared file that it holds. -/
structure Level where
  name : Nat
  start : Int
  length : Int
  position : Int
  file : Nat
  /-- The number of handles on the shared file, that of the view included. -/
  handles : Nat
  /-- What the shared file stands for. -/
  beneath : Nat

/-- Closing a reader succeeds and leaves it closed. -/
lemma Reader.call_close (r : Reader) : r.call .close = (.ok (), r.shut) := by
  obtain ⟨buffer, position, closed⟩ := r
  cases closed <;> rfl

namespace Level

/-- The view, which holds the file. -/
def view (l : Level) : View := ⟨some l.file, l.start, l.length, l.position⟩

/-- The view once it has been closed. -/
def released (l : Level) : View := { l.view with file := none }

/-- The view and the file, as parts of what stands upon them. -/
def parts (l : Level) : List (Nat × Node) :=
  [(l.name, .view l.view), (l.file, .shared l.beneath l.handles)]

/-- The names of the view and of the file. -/
def names (l : Level) : List Nat := [l.name, l.file]

/-- The names of the parts of several levels. -/
lemma map_parts (levels : List Level) :
    (levels.flatMap parts).map Prod.fst = levels.flatMap names :=
  List.map_flatMap

end Level

namespace Streams

variable {streams rest before after : Streams} {name key other top base : Nat} {node : Node}
  {levels above below : List Level} {l stop : Level} {r : Reader}

/-! ### What is given up -/

/-- Of the parts of a stream, the names of those that are given up with it. -/
def givenUpWith : List (Nat × Node) → List Nat
  | [] => []
  | (key, node) :: parts => key :: if node.takesAlong?.isSome then givenUpWith parts else []

/-- Only parts are given up. -/
lemma givenUpWith_subset (parts : List (Nat × Node)) : givenUpWith parts ⊆ parts.map Prod.fst := by
  induction parts with
  | nil => exact List.Subset.refl []
  | cons part parts ih =>
    obtain ⟨key, node⟩ := part
    simp only [givenUpWith, List.map_cons]
    split
    · exact List.cons_subset_cons key ih
    · exact List.cons_subset_cons key (List.nil_subset _)

/-- The parts of a stream are in use. -/
lemma mem_names_of_mem_givenUpWith (member : other ∈ givenUpWith (streams.parts name)) :
    other ∈ streams.names := by
  obtain ⟨part, isPart, rfl⟩ := List.mem_map.mp (givenUpWith_subset _ member)
  exact List.mem_map_of_mem (mem_of_mem_parts isPart)

/-- What a stream takes along is what it stands upon. -/
lemma beneath?_of_takesAlong? {inner : Nat} (takes : node.takesAlong? = some inner) :
    node.beneath? = some inner := by
  cases node with
  | shared file count =>
    simp only [Node.takesAlong?] at takes
    split at takes
    · exact takes
    · cases takes
  | view v | slow file clock => exact takes
  | reader r | scripted f => cases takes

/-- **Giving up** changes those parts of a stream that are given up with it, and no other
streams. -/
theorem find?_giveUp (leave : Reader → Reader) (nodup : streams.names.Nodup) (name other : Nat) :
    (streams.giveUp leave name).find? other =
      if other ∈ givenUpWith (streams.parts name) then
        (streams.find? other).map (Node.givenUp leave)
      else streams.find? other := by
  induction streams generalizing name with
  | nil => rfl
  | cons entry rest ih =>
    obtain ⟨key, node⟩ := entry
    obtain ⟨isNew, older⟩ := List.nodup_cons.mp nodup
    by_cases same : key = name
    · subst same
      rw [giveUp_cons_self, parts, if_pos rfl, givenUpWith]
      by_cases here : key = other
      · subst here
        simp [find?]
      · simp only [find?, if_neg here, List.mem_cons, Ne.symm here, false_or]
        cases takes : node.takesAlong? with
        | none => simp
        | some inner =>
          simp only [beneath?_of_takesAlong? takes, Option.isSome_some, if_true]
          exact ih older inner
    · have untouched : key ∉ givenUpWith (parts rest name) :=
        fun given => isNew (mem_names_of_mem_givenUpWith given)
      simp only [giveUp, if_neg same, parts]
      by_cases here : key = other
      · subst here
        simp [find?, untouched]
      · simp only [find?, if_neg here]
        exact ih older name

/-- A new name is none of those in use. -/
lemma ne_of_mem (isNew : key ∉ names rest) {entry : Nat × Node} (member : entry ∈ rest) :
    key ≠ entry.1 :=
  fun same => isNew (same ▸ List.mem_map_of_mem member)

/-- A stream that is in use is found under its name. -/
lemma find?_of_mem (nodup : streams.names.Nodup) (member : (key, node) ∈ streams) :
    streams.find? key = some node := by
  induction streams with
  | nil => cases member
  | cons entry rest ih =>
    obtain ⟨newest, first⟩ := entry
    obtain ⟨isNew, older⟩ := List.nodup_cons.mp nodup
    rcases List.mem_cons.mp member with same | member
    · cases same
      exact if_pos rfl
    · have different : newest ≠ key := ne_of_mem isNew member
      exact (if_neg different).trans (ih older member)

/-- A part that is given up is found as it is left. -/
lemma find?_giveUp_part (leave : Reader → Reader) (nodup : streams.names.Nodup)
    (part : (key, node) ∈ streams.parts name) (given : key ∈ givenUpWith (streams.parts name)) :
    (streams.giveUp leave name).find? key = some (node.givenUp leave) := by
  rw [find?_giveUp leave nodup, if_pos given, find?_of_mem nodup (mem_of_mem_parts part)]
  rfl

/-- Giving up leaves the names. -/
lemma names_giveUp (leave : Reader → Reader) (streams : Streams) (name : Nat) :
    (streams.giveUp leave name).names = streams.names :=
  giveUp_induction (motive := fun before after => after.names = before.names) (fun _ => rfl)
    (fun entry _ _ same => congrArg (entry.1 :: ·) same)
    (fun key _ _ _ same => congrArg (key :: ·) same) streams name

/-! ### Parts -/

/-- The parts of a stream are some of the streams, in their order. -/
lemma parts_sublist (streams : Streams) (name : Nat) : (streams.parts name).Sublist streams := by
  induction streams generalizing name with
  | nil => exact List.Sublist.refl []
  | cons entry rest ih =>
    obtain ⟨key, node⟩ := entry
    unfold parts
    split
    · refine List.Sublist.cons_cons _ ?_
      cases node.beneath? with
      | none => exact List.nil_sublist rest
      | some inner => exact ih inner
    · exact (ih name).cons _

/-- A part of a stream has the parts that follow it. -/
lemma parts_of_append (nodup : streams.names.Nodup) {first last : List (Nat × Node)}
    (shape : streams.parts name = first ++ (key, node) :: last) :
    streams.parts key = (key, node) :: last := by
  induction streams generalizing name first with
  | nil => simp [parts] at shape
  | cons entry rest ih =>
    obtain ⟨newest, top⟩ := entry
    obtain ⟨isNew, older⟩ := List.nodup_cons.mp nodup
    -- The parts beneath the newest stream are older than it.
    have deeper {first : List (Nat × Node)} {inner : Nat}
        (shape : parts rest inner = first ++ (key, node) :: last) :
        parts ((newest, top) :: rest) key = (key, node) :: last := by
      have isPart : (key, node) ∈ parts rest inner := by
        rw [shape]
        exact List.mem_append_right first List.mem_cons_self
      have different : newest ≠ key := ne_of_mem isNew (mem_of_mem_parts isPart)
      rw [parts, if_neg different]
      exact ih older shape
    by_cases same : newest = name
    · rw [parts, if_pos same] at shape
      cases first with
      | nil =>
        obtain ⟨⟨rfl, rfl⟩, rfl⟩ := List.cons.inj shape
        rw [parts, if_pos rfl]
      | cons part first =>
        have tail := (List.cons.inj shape).2
        revert tail
        cases top.beneath? with
        | none => intro impossible; simp at impossible
        | some inner => exact deeper
    · rw [parts, if_neg same] at shape
      exact deeper shape

/-- Streams under the same names have the same parts if they have these parts in common. -/
lemma parts_congr (sameNames : after.names = before.names) (nodup : before.names.Nodup)
    (same : ∀ part ∈ before.parts name, after.find? part.1 = some part.2) :
    after.parts name = before.parts name := by
  induction before generalizing after name with
  | nil =>
    rw [List.map_eq_nil_iff.mp sameNames]
  | cons entry rest ih =>
    obtain ⟨key, node⟩ := entry
    obtain ⟨isNew, older⟩ := List.nodup_cons.mp nodup
    cases after with
    | nil => cases sameNames
    | cons newer later =>
      obtain ⟨key', node'⟩ := newer
      obtain ⟨rfl, names⟩ := List.cons.inj sameNames
      have deeper {inner : Nat}
          (here : ∀ part ∈ parts rest inner,
            find? ((key', node') :: later) part.1 = some part.2) :
          parts later inner = parts rest inner := by
        refine ih names older fun part isPart => ?_
        have different : key' ≠ part.1 := ne_of_mem isNew (mem_of_mem_parts isPart)
        simpa only [find?, if_neg different] using here part isPart
      simp only [parts] at same ⊢
      by_cases here : key' = name
      · subst here
        simp only [if_true] at same ⊢
        have top := same _ List.mem_cons_self
        simp only [find?, if_true, Option.some.injEq] at top
        subst top
        cases upon : node'.beneath? with
        | none => rfl
        | some inner =>
          simp only [upon] at same
          exact congrArg _ (deeper fun part isPart => same part (List.mem_cons_of_mem _ isPart))
      · simp only [if_neg here] at same ⊢
        exact deeper same

/-- The first part is the stream itself. -/
lemma key_of_parts {last : List (Nat × Node)} (shape : streams.parts name = (key, node) :: last) :
    key = name := by
  induction streams generalizing name with
  | nil => cases shape
  | cons entry rest ih =>
    obtain ⟨newest, first⟩ := entry
    by_cases same : newest = name
    · rw [parts, if_pos same] at shape
      obtain ⟨⟨rfl, _⟩, _⟩ := List.cons.inj shape
      exact same
    · rw [parts, if_neg same] at shape
      exact ih shape

/-- The second part is what the stream stands upon. -/
lemma beneath?_of_parts {part : Nat × Node} {last : List (Nat × Node)}
    (shape : streams.parts name = (key, node) :: part :: last) : node.beneath? = some part.1 := by
  induction streams generalizing name with
  | nil => cases shape
  | cons entry rest ih =>
    obtain ⟨newest, first⟩ := entry
    by_cases same : newest = name
    · rw [parts, if_pos same] at shape
      obtain ⟨⟨_, rfl⟩, tail⟩ := List.cons.inj shape
      cases upon : node.beneath? with
      | none =>
        rw [upon] at tail
        cases tail
      | some inner =>
        rw [upon] at tail
        rw [key_of_parts tail]
    · rw [parts, if_neg same] at shape
      exact ih shape

/-- A stream whose parts end with a reader is open if none of them is shut. -/
lemma isClosed_of_parts (ends : (streams.parts name).getLast? = some (base, .reader r))
    (unshut : ∀ part ∈ streams.parts name, part.2.isShut = false) :
    streams.isClosed name = false := by
  induction streams generalizing name with
  | nil => cases ends
  | cons entry rest ih =>
    obtain ⟨key, node⟩ := entry
    by_cases same : key = name
    · subst same
      rw [parts, if_pos rfl] at ends unshut
      have upright : node.isShut = false := unshut _ List.mem_cons_self
      cases upon : node.beneath? with
      | none =>
        simp only [upon, List.getLast?_singleton, Option.some.injEq, Prod.mk.injEq] at ends
        rw [ends.2] at upright
        simpa [Streams.isClosed, ends.2, Node.isShut] using upright
      | some inner =>
        have noScript : node.kind ≠ .scripted := by
          intro scripted
          cases node <;> cases scripted
          cases upon
        rw [isClosed_cons_self noScript, upright, upon, Bool.false_or]
        simp only [upon] at ends unshut
        refine ih ?_ fun part isPart => unshut part (List.mem_cons_of_mem _ isPart)
        cases below : parts rest inner with
        | nil =>
          simp only [below, List.getLast?_singleton, Option.some.injEq, Prod.mk.injEq] at ends
          rw [ends.2] at upon
          cases upon
        | cons part last =>
          rw [below, List.getLast?_cons_cons] at ends
          exact ends
    · rw [isClosed_cons_of_ne same]
      rw [parts, if_neg same] at ends unshut
      exact ih ends unshut

/-! ### Nested views -/

/-- The outermost of nested views, with its levels from the outermost to the innermost, upon an open
reader.  All views are open, since they hold their files. -/
structure Nested (streams : Streams) (top : Nat) (levels : List Level) (base : Nat) (r : Reader) :
    Prop where
  nodup : streams.names.Nodup
  parts : streams.parts top = levels.flatMap Level.parts ++ [(base, .reader r)]
  nonempty : levels ≠ []
  isOpen : r.closed = false

/-- **Closing a view** gives it up, if it is the outermost of nested ones, with the reader left
closed if it is reached.  Closing succeeds. -/
theorem close_levels (streams : Streams) (levels : List Level) (base : Nat) (r : Reader) :
    (∀ name, streams.parts name = levels.flatMap Level.parts ++ [(base, .reader r)] →
      (streams.call name .close).result = .ok () ∧
        (streams.call name .close).streams = streams.giveUp Reader.shut name) ∧
    (∀ name inner count, streams.parts name =
        (name, .shared inner count) :: (levels.flatMap Level.parts ++ [(base, .reader r)]) →
      streams.handles name = count ∧ (streams.call name .close).result = .ok () ∧
        (if count = 1 then (streams.call name .close).streams else streams).release name =
          streams.giveUp Reader.shut name) := by
  -- The two parts need each other: a view gives up a file, and a file what it stands for.
  induction streams generalizing levels with
  | nil =>
    constructor
    · intro name shape
      simp [Streams.parts] at shape
    · intro name inner count shape
      simp [Streams.parts] at shape
  | cons entry rest ih =>
    obtain ⟨key, node⟩ := entry
    constructor
    · intro name shape
      by_cases same : key = name
      · subst same
        rw [Streams.parts, if_pos rfl] at shape
        cases levels with
        | nil =>
          obtain ⟨⟨_, rfl⟩, _⟩ := List.cons.inj shape
          rw [call_reader, Reader.call_close]
          simp only [Streams.giveUp, if_true]
          exact ⟨rfl, rfl⟩
        | cons l levels =>
          obtain ⟨⟨_, rfl⟩, below⟩ := List.cons.inj shape
          obtain ⟨counted, result, left⟩ := (ih levels).2 l.file l.beneath l.handles below
          simp only [Streams.call, Streams.giveUp, Level.view, if_true, counted, ← left]
          constructor
          · split
            · exact result
            · rfl
          · split <;> rfl
      · rw [Streams.parts, if_neg same] at shape
        obtain ⟨result, left⟩ := (ih levels).1 name shape
        rw [call_other rest same]
        simp only [Streams.giveUp, if_neg same]
        exact ⟨result, congrArg _ left⟩
    · intro name inner count shape
      by_cases same : key = name
      · subst same
        rw [Streams.parts, if_pos rfl] at shape
        obtain ⟨⟨_, rfl⟩, below⟩ := List.cons.inj shape
        obtain ⟨result, left⟩ := (ih levels).1 inner below
        rw [call_shared]
        refine ⟨by simp [handles, find?], result, ?_⟩
        by_cases last : count = 1
        · simp [Served.under, Streams.release, setHandles, Streams.giveUp, last, left]
        · simp [Streams.release, setHandles, Streams.giveUp, last]
      · rw [Streams.parts, if_neg same] at shape
        obtain ⟨counted, result, left⟩ := (ih levels).2 name inner count shape
        rw [handles_cons_of_ne same, call_other rest same]
        simp only [Streams.giveUp, if_neg same, ← left]
        refine ⟨counted, result, ?_⟩
        split <;> simp [Served.under, Streams.release, setHandles, same]

/-! ### How far a closing goes -/

/-- A view that holds the only handle on its file takes along what the file stands for. -/
lemma givenUpWith_levels (sole : ∀ l ∈ above, l.handles = 1) (parts : List (Nat × Node)) :
    givenUpWith (above.flatMap Level.parts ++ parts) =
      above.flatMap Level.names ++ givenUpWith parts := by
  induction above with
  | nil => rfl
  | cons l above ih =>
    have one : l.handles = 1 := sole l List.mem_cons_self
    have deeper := ih fun l below => sole l (List.mem_cons_of_mem _ below)
    simp only [List.flatMap_cons, Level.parts, Level.names, List.cons_append, List.nil_append,
      givenUpWith, Node.takesAlong?, Level.view, one, if_true, Option.isSome_some, deeper]

/-- A view whose file has other handles takes along the file and nothing else. -/
lemma givenUpWith_level (more : stop.handles ≠ 1) (parts : List (Nat × Node)) :
    givenUpWith (stop.parts ++ parts) = stop.names := by
  simp [Level.parts, Level.names, givenUpWith, Node.takesAlong?, Level.view, more]

/-- What becomes of nested views if the closing of the outermost one stops at the file of `stop`,
which has another handle: the levels from the outermost to `stop` are `above` and `stop`, those
beneath are `below`. -/
structure StopsAt (before after : Streams) (above : List Level) (stop : Level)
    (below : List Level) (base : Nat) (r : Reader) : Prop where
  /-- The views down to `stop` are released. -/
  released : ∀ l ∈ above ++ [stop], after.find? l.name = some (.view l.released)
  /-- The files above have no handle left. -/
  spent : ∀ l ∈ above, after.find? l.file = some (.shared l.beneath 0)
  /-- The file of `stop` has lost one handle. -/
  kept : after.find? stop.file = some (.shared stop.beneath (stop.handles - 1))
  /-- Beneath it all views, files and the reader are as they were. -/
  beneath : after.parts stop.beneath = below.flatMap Level.parts ++ [(base, .reader r)]
  /-- They are open. -/
  isOpen : ∀ part ∈ below.flatMap Level.parts ++ [(base, .reader r)],
    after.isClosed part.1 = false
  /-- So are all other streams as they were. -/
  others : ∀ name, name ∉ (above ++ [stop]).flatMap Level.names →
    after.find? name = before.find? name

/-- What becomes of nested views if the closing of the outermost one goes down to the reader. -/
structure ReachesReader (before after : Streams) (levels : List Level) (base : Nat) (r : Reader) :
    Prop where
  /-- All views are released. -/
  released : ∀ l ∈ levels, after.find? l.name = some (.view l.released)
  /-- Their files have no handle left. -/
  spent : ∀ l ∈ levels, after.find? l.file = some (.shared l.beneath 0)
  /-- The reader is closed, where it was. -/
  closed : after.find? base = some (.reader r.shut)
  /-- All other streams are as they were. -/
  others : ∀ name, name ∉ levels.flatMap Level.names → name ≠ base →
    after.find? name = before.find? name

/-- What closing the outermost of nested views does. -/
structure Cascades (before : Streams) (top : Nat) (levels : List Level) (base : Nat) (r : Reader)
    (closing : Served Unit) : Prop where
  succeeds : closing.result = .ok ()
  /-- The view says that it is closed. -/
  reports : closing.streams.call top .isClosed = .ofResult (.ok true) closing.streams
  /-- Closing the view again has no effect. -/
  again : closing.streams.call top .close = .ofResult (.ok ()) closing.streams
  /-- The closing stops at the first file that has another handle. -/
  stops : ∀ above stop below, levels = above ++ stop :: below →
    (∀ l ∈ above, l.handles = 1) → 1 < stop.handles →
      StopsAt before closing.streams above stop below base r
  /-- If no file has another handle, the closing goes down to the reader. -/
  reaches : (∀ l ∈ levels, l.handles = 1) → ReachesReader before closing.streams levels base r

namespace Nested

variable (h : streams.Nested top levels base r)

include h

/-- The views are parts. -/
lemma view_mem (isLevel : l ∈ levels) : (l.name, .view l.view) ∈ streams.parts top := by
  rw [h.parts]
  refine List.mem_append_left _ (List.mem_flatMap.mpr ⟨l, isLevel, ?_⟩)
  exact List.mem_cons_self

/-- The files are parts. -/
lemma file_mem (isLevel : l ∈ levels) :
    (l.file, .shared l.beneath l.handles) ∈ streams.parts top := by
  rw [h.parts]
  refine List.mem_append_left _ (List.mem_flatMap.mpr ⟨l, isLevel, ?_⟩)
  exact List.mem_cons_of_mem _ List.mem_cons_self

/-- The levels that are given up leave released views. -/
lemma find?_view (isLevel : l ∈ levels) (given : l.name ∈ givenUpWith (streams.parts top)) :
    (streams.giveUp Reader.shut top).find? l.name = some (.view l.released) :=
  find?_giveUp_part Reader.shut h.nodup (h.view_mem isLevel) given

/-- And files with one handle less. -/
lemma find?_file (isLevel : l ∈ levels) (given : l.file ∈ givenUpWith (streams.parts top)) :
    (streams.giveUp Reader.shut top).find? l.file =
      some (.shared l.beneath (l.handles - 1)) :=
  find?_giveUp_part Reader.shut h.nodup (h.file_mem isLevel) given

/-- The outermost view is given up in any case. -/
lemma exists_released :
    ∃ l ∈ levels, (streams.giveUp Reader.shut top).find? top = some (.view l.released) := by
  obtain ⟨l, lower, rfl⟩ := List.exists_cons_of_ne_nil h.nonempty
  have shape := h.parts
  rw [List.flatMap_cons, Level.parts, List.cons_append, List.cons_append] at shape
  have isTop : l.name = top := key_of_parts shape
  have given : l.name ∈ givenUpWith (streams.parts top) := by
    rw [shape]
    exact List.mem_cons_self
  have left := h.find?_view List.mem_cons_self given
  rw [isTop] at left
  exact ⟨l, List.mem_cons_self, left⟩

/-- What the file of a level stands for has the parts that follow the level. -/
lemma parts_beneath (split : levels = above ++ stop :: below) :
    streams.parts stop.beneath = below.flatMap Level.parts ++ [(base, .reader r)] := by
  obtain ⟨part, last, tail⟩ : ∃ part last,
      below.flatMap Level.parts ++ [(base, .reader r)] = part :: last :=
    List.exists_cons_of_ne_nil (List.append_ne_nil_of_right_ne_nil _ (List.cons_ne_nil _ []))
  have shape : streams.parts top = (above.flatMap Level.parts ++ [(stop.name, .view stop.view)]) ++
      (stop.file, .shared stop.beneath stop.handles) :: part :: last := by
    rw [h.parts, split, ← tail]
    simp [List.flatMap_append, List.flatMap_cons, Level.parts]
  have upon := beneath?_of_parts (parts_of_append h.nodup shape)
  simp only [Node.beneath?, Option.some.injEq] at upon
  rw [List.append_cons] at shape
  rw [tail, upon]
  exact parts_of_append h.nodup shape

/-- The parts beneath a level have other names than those down to it. -/
lemma not_mem_names (split : levels = above ++ stop :: below) {part : Nat × Node}
    (isLower : part ∈ below.flatMap Level.parts ++ [(base, .reader r)]) :
    part.1 ∉ (above ++ [stop]).flatMap Level.names := by
  have nodup : ((streams.parts top).map Prod.fst).Nodup :=
    ((parts_sublist streams top).map Prod.fst).nodup h.nodup
  have shape : (streams.parts top).map Prod.fst = (above ++ [stop]).flatMap Level.names ++
      (below.flatMap Level.parts ++ [(base, Node.reader r)]).map Prod.fst := by
    rw [h.parts, split, List.append_cons above stop below, List.flatMap_append, List.append_assoc,
      List.map_append, Level.map_parts]
  rw [shape] at nodup
  intro upper
  exact nodup.disjoint upper (List.mem_map_of_mem isLower)

/-- No part of nested views is shut. -/
lemma isShut_eq {part : Nat × Node} (isPart : part ∈ streams.parts top) :
    part.2.isShut = false := by
  rw [h.parts] at isPart
  rcases List.mem_append.mp isPart with upper | last
  · obtain ⟨l, _, member⟩ := List.mem_flatMap.mp upper
    simp only [Level.parts, List.mem_cons, List.not_mem_nil, or_false] at member
    rcases member with rfl | rfl <;> rfl
  · rw [List.mem_singleton.mp last]
    exact h.isOpen

/-- A closing that stops at the file of `stop`. -/
lemma stopsAt (split : levels = above ++ stop :: below) (sole : ∀ l ∈ above, l.handles = 1)
    (more : 1 < stop.handles) :
    StopsAt streams (streams.giveUp Reader.shut top) above stop below base r := by
  have shape : streams.parts top = above.flatMap Level.parts ++
      (stop.parts ++ (below.flatMap Level.parts ++ [(base, .reader r)])) := by
    rw [h.parts, split]
    simp only [List.flatMap_append, List.flatMap_cons, List.append_assoc]
  have given : givenUpWith (streams.parts top) = (above ++ [stop]).flatMap Level.names := by
    rw [shape, givenUpWith_levels sole, givenUpWith_level (Nat.ne_of_gt more)]
    simp only [List.flatMap_append, List.flatMap_cons, List.flatMap_nil, List.append_nil]
  have named : ∀ l ∈ above ++ [stop], l ∈ levels ∧ ∀ name ∈ l.names,
      name ∈ givenUpWith (streams.parts top) := by
    intro l reached
    constructor
    · rw [split]
      simp only [List.mem_append, List.mem_cons, List.not_mem_nil, or_false] at reached ⊢
      exact reached.imp_right .inl
    · intro name member
      rw [given]
      exact List.mem_flatMap.mpr ⟨l, reached, member⟩
  have others : ∀ name, name ∉ (above ++ [stop]).flatMap Level.names →
      (streams.giveUp Reader.shut top).find? name = streams.find? name := by
    intro name notReached
    rw [find?_giveUp Reader.shut h.nodup, given, if_neg notReached]
  have below : (streams.giveUp Reader.shut top).parts stop.beneath =
      below.flatMap Level.parts ++ [(base, .reader r)] := by
    have was := h.parts_beneath split
    rw [← was]
    refine parts_congr (names_giveUp ..) h.nodup fun part isPart => ?_
    rw [others, find?_of_mem h.nodup (mem_of_mem_parts isPart)]
    rw [was] at isPart
    exact h.not_mem_names split isPart
  constructor
  · intro l reached
    obtain ⟨isLevel, given⟩ := named l reached
    exact h.find?_view isLevel (given _ List.mem_cons_self)
  · intro l isAbove
    obtain ⟨isLevel, given⟩ := named l (List.mem_append_left _ isAbove)
    have left := h.find?_file isLevel (given _ (List.mem_cons_of_mem _ List.mem_cons_self))
    rw [sole l isAbove] at left
    exact left
  · obtain ⟨isLevel, given⟩ := named stop (List.mem_append_right _ List.mem_cons_self)
    exact h.find?_file isLevel (given _ (List.mem_cons_of_mem _ List.mem_cons_self))
  · exact below
  · intro part isPart
    obtain ⟨first, last, cut⟩ := List.append_of_mem isPart
    have nodup : (streams.giveUp Reader.shut top).names.Nodup := by
      rw [names_giveUp]
      exact h.nodup
    have own := parts_of_append nodup (below.trans cut)
    apply isClosed_of_parts
    · rw [own, ← List.getLast?_append_cons first, ← cut, List.getLast?_append_cons]
      rfl
    · intro part isLower
      rw [own] at isLower
      apply h.isShut_eq
      rw [shape, ← List.append_assoc, cut]
      exact List.mem_append_right _ (List.mem_append_right first isLower)
  · exact others

/-- A closing that goes down to the reader. -/
lemma reachesReader (sole : ∀ l ∈ levels, l.handles = 1) :
    ReachesReader streams (streams.giveUp Reader.shut top) levels base r := by
  have given : givenUpWith (streams.parts top) = levels.flatMap Level.names ++ [base] := by
    rw [h.parts, givenUpWith_levels sole]
    rfl
  have named : ∀ l ∈ levels, ∀ name ∈ l.names, name ∈ givenUpWith (streams.parts top) := by
    intro l isLevel name member
    rw [given]
    exact List.mem_append_left _ (List.mem_flatMap.mpr ⟨l, isLevel, member⟩)
  constructor
  · intro l isLevel
    exact h.find?_view isLevel (named l isLevel _ List.mem_cons_self)
  · intro l isLevel
    have left :=
      h.find?_file isLevel (named l isLevel _ (List.mem_cons_of_mem _ List.mem_cons_self))
    rw [sole l isLevel] at left
    exact left
  · have isPart : (base, .reader r) ∈ streams.parts top := by
      rw [h.parts]
      exact List.mem_append_right _ List.mem_cons_self
    refine find?_giveUp_part Reader.shut h.nodup isPart ?_
    rw [given]
    exact List.mem_append_right _ List.mem_cons_self
  · intro name notLevel notBase
    rw [find?_giveUp Reader.shut h.nodup, if_neg]
    rw [given, List.mem_append, List.mem_singleton]
    rintro (level | same)
    · exact notLevel level
    · exact notBase same

end Nested

/-- **Closing nested views.**  Close the outermost of any number of nested views, with any windows
and cursors and any numbers of handles on the files between them, upon an open reader.  Closing
succeeds, the view is closed, and closing it again has no effect.  The closing goes down as far as
the first file that has another handle: the views down to there are released, that file loses one
handle, and everything beneath is as it was.  If there is no such file, all views are released and
the reader is closed. -/
theorem close_cascades (h : streams.Nested top levels base r) :
    Cascades streams top levels base r (streams.call top .close) := by
  obtain ⟨succeeds, left⟩ := (close_levels streams levels base r).1 top h.parts
  obtain ⟨l, _, released⟩ := h.exists_released
  constructor
  · exact succeeds
  · rw [left]
    exact call_of_givenUp released rfl .isClosed
  · rw [left]
    exact call_of_givenUp released rfl .close
  · intro above stop below split sole more
    rw [left]
    exact h.stopsAt split sole more
  · intro sole
    rw [left]
    exact h.reachesReader sole

/-- Three views, one upon the other, upon a reader of no bytes.  There is another handle on the file
of the second. -/
def threeViews : Streams :=
  [(6, .view ⟨some 5, 0, 4, 1⟩), (5, .shared 4 1), (4, .view ⟨some 3, 1, 8, 2⟩),
    (3, .shared 2 2), (2, .view ⟨some 1, 0, 9, 3⟩), (1, .shared 0 1),
    (0, .reader { buffer := .ofBytes ⟨0, 0⟩ [] })]

/-- The levels of these views. -/
def threeLevels : List Level :=
  [⟨6, 0, 4, 1, 5, 1, 4⟩, ⟨4, 1, 8, 2, 3, 2, 2⟩, ⟨2, 0, 9, 3, 1, 1, 0⟩]

/-- Closing the third view closes the second as well, and leaves the first one open. -/
theorem close_threeViews :
    threeViews.Nested 6 threeLevels 0 { buffer := .ofBytes ⟨0, 0⟩ [] } ∧
      Cascades threeViews 6 threeLevels 0 { buffer := .ofBytes ⟨0, 0⟩ [] }
        (threeViews.call 6 .close) ∧
      (threeViews.call 6 .close).streams.find? 4 = some (.view ⟨none, 1, 8, 2⟩) ∧
      (threeViews.call 6 .close).streams.find? 3 = some (.shared 2 1) ∧
      (threeViews.call 6 .close).streams.isClosed 2 = false := by
  have nested : threeViews.Nested 6 threeLevels 0 { buffer := .ofBytes ⟨0, 0⟩ [] } :=
    ⟨by decide, rfl, by decide, rfl⟩
  have cascades := close_cascades nested
  have stops := cascades.stops [⟨6, 0, 4, 1, 5, 1, 4⟩] ⟨4, 1, 8, 2, 3, 2, 2⟩
    [⟨2, 0, 9, 3, 1, 1, 0⟩] rfl (by decide) (by decide)
  have released := stops.released ⟨4, 1, 8, 2, 3, 2, 2⟩ (by simp)
  have isOpen := stops.isOpen (2, .view ⟨some 1, 0, 9, 3⟩) (by simp [Level.parts, Level.view])
  exact ⟨nested, cascades, released, stops.kept, isOpen⟩

end Streams

end ByteStreams
