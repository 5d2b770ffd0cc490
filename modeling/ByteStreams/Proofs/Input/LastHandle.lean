import ByteStreams.Proofs.Input.Family

/-!
# The last handle closes the file

A scripted file is shared, its handles are copied and dropped, and views of it are opened, closed
and dropped (`Handling`).  `Ledger` reads off the steps of a run how many handles the program has
and which views have been opened and neither closed nor dropped since.

The streams are views of one shared file, with a count of handles that is the one of the ledger
(`Tally`).  So the file is closed by the close of a view that is the last holder in the ledger, and
by nothing else (`last_handle_closes_file`).
-/

namespace ByteStreams

/-! ### The ledger -/

/-- What a program does with the handles and the views of one shared file. -/
inductive Handling where
  /-- Copies a handle. -/
  | clone
  /-- Drops a handle. -/
  | drop
  | openView (view : Nat) (offset length : Int)
  | closeView (view : Nat)
  | dropView (view : Nat)

namespace Handling

/-- The same as an act. -/
def act : Handling → Act
  | clone => .clone 1
  | drop => .dropHandle 1
  | openView view offset length => .openView view 1 offset length
  | closeView view => .call view .close
  | dropView view => .dropView view

/-- A program that does nothing else. -/
def machine : Machine Handling (Option (Except Fault Seen)) Holdings := fun step h =>
  Holdings.machine step.act h

end Handling

/-- The handles that a program has, and the views that have been opened and neither closed nor
dropped since. -/
structure Ledger where
  handles : Nat := 1
  views : List Nat := []

namespace Ledger

/-- The ledger after a step.  A step that was not possible, or failed to open a view, is not
entered. -/
def enter (l : Ledger) : Handling × Option (Except Fault Seen) → Ledger
  | (.clone, some _) => { l with handles := l.handles + 1 }
  | (.drop, some _) => { l with handles := l.handles - 1 }
  | (.openView view _ _, some (.ok _)) => { l with views := view :: l.views }
  | (.closeView view, some _) | (.dropView view, some _) =>
    { l with views := l.views.erase view }
  | (.openView _ _ _, some (.error _)) | (_, none) => l

/-- The ledger of the steps so far. -/
def ofPast (past : List (Handling × Option (Except Fault Seen))) : Ledger := past.foldl enter {}

/-- The number of holders. -/
def holders (l : Ledger) : Nat := l.handles + l.views.length

/-- There are holders if there is a view. -/
lemma holders_pos_of_mem (l : Ledger) {view : Nat} (member : view ∈ l.views) : 0 < l.holders :=
  Nat.add_pos_right _ (List.length_pos_of_mem member)

/-- The close of a view that is the only holder. -/
def IsLast (l : Ledger) : Handling → Prop
  | .closeView view => l.handles = 0 ∧ l.views = [view]
  | .clone | .drop | .openView _ _ _ | .dropView _ => False

instance (l : Ledger) : (step : Handling) → Decidable (l.IsLast step)
  | .closeView _ => inferInstanceAs (Decidable (_ = _ ∧ _ = _))
  | .clone | .drop | .openView _ _ _ | .dropView _ => inferInstanceAs (Decidable False)

end Ledger

/-- How often the scripted file has been closed. -/
def Holdings.closings (h : Holdings) : Nat :=
  match h.streams.find? 0 with
  | some (.scripted f) => f.log.count .close
  | _ => 0

open Streams

/-- The ledger names the handles and the views that hold one. -/
structure Ledger.Covers (l : Ledger) (h : Holdings) : Prop where
  handles : h.held.count 1 = l.handles
  holds : ∀ view, h.streams.Holds view ↔ view ∈ l.views
  nodup : l.views.Nodup
  owned : ∀ view ∈ h.held, view ≠ 1 → ∃ v : View, h.streams.find? view = some (.view v)
  views_held : ∀ view ∈ l.views, view ∈ h.held

namespace Ledger.Covers

variable {l : Ledger} {h : Holdings} {f : ScriptedFile} {count view : Nat} {v : View}
  (c : l.Covers h)

include c

/-- A view that the program holds. -/
lemma exists_view (family : Family count f h.streams) (member : view ∈ h.held)
    (notFile : h.streams.isFile view = false) :
    ∃ v : View, h.streams.find? view = some (.view v) := by
  refine c.owned view member fun shared => ?_
  rw [family.isFile_eq, shared] at notFile
  cases notFile

/-- A view holds a handle exactly if it is in the ledger. -/
lemma file_eq_iff (found : h.streams.find? view = some (.view v)) :
    v.file = some 1 ↔ view ∈ l.views := by
  rw [← c.holds view]
  refine ⟨fun holding => ⟨v, found, holding⟩, ?_⟩
  rintro ⟨w, same, holding⟩
  rw [found] at same
  cases same
  exact holding

/-- A view that is not in the ledger holds nothing. -/
lemma file_eq_none (family : Family count f h.streams)
    (found : h.streams.find? view = some (.view v)) (other : view ∉ l.views) : v.file = none := by
  rcases family.file_eq found with givenUp | holding
  · exact givenUp
  · exact absurd ((c.file_eq_iff found).mp holding) other

/-- The shared file is no view. -/
lemma ne_one_of_mem (family : Family count f h.streams) (member : view ∈ l.views) : view ≠ 1 := by
  obtain ⟨v, found, _⟩ := (c.holds view).mpr member
  exact (family.ne_of_view found).2

/-- Another number of handles, on the side of the program too. -/
lemma setHandles (family : Family count f h.streams) (change : Nat → Nat) {held : List Nat}
    {n : Nat} (counted : held.count 1 = n)
    (same : ∀ view, view ≠ 1 → (view ∈ held ↔ view ∈ h.held)) :
    Covers { l with handles := n } ⟨Streams.setHandles change h.streams 1, held⟩ where
  handles := counted
  holds view := (family.holds_setHandles change view).trans (c.holds view)
  nodup := c.nodup
  owned view member other := by
    obtain ⟨v, found⟩ := c.owned view ((same view other).mp member) other
    exact ⟨v, (find?_setHandles_other other _ _).trans found⟩
  views_held view member := (same view (c.ne_one_of_mem family member)).mpr
    (c.views_held view member)

/-- Another state of the scripted file. -/
lemma replace_file (family : Family count f h.streams) (g : ScriptedFile) :
    l.Covers ⟨h.streams.replace 0 (.scripted g), h.held⟩ where
  handles := c.handles
  holds view := (family.holds_replace_file g view).trans (c.holds view)
  nodup := c.nodup
  owned view member other := by
    obtain ⟨v, found⟩ := c.owned view member other
    exact ⟨v, (find?_replace_other (family.ne_of_view found).1 _ _).trans found⟩
  views_held := c.views_held

/-- A view gives up its handle. -/
lemma parted (family : Family count f h.streams)
    (found : h.streams.find? view = some (.view v)) :
    Covers { l with views := l.views.erase view } ⟨h.streams.parted view v, h.held⟩ where
  handles := c.handles
  holds other := by
    rw [family.holds_parted found, c.holds, c.nodup.mem_erase_iff]
  nodup := c.nodup.erase view
  owned other member different := by
    by_cases same : other = view
    · subst same
      exact ⟨_, (find?_setHandles_other different _ _).trans (find?_replace_self found _)⟩
    · obtain ⟨w, there⟩ := c.owned other member different
      refine ⟨w, ?_⟩
      refine (find?_setHandles_other different _ _).trans ?_
      exact (find?_replace_other same _ _).trans there
  views_held other member := c.views_held other (List.mem_of_mem_erase member)

/-- The program lets go of a view that holds nothing. -/
lemma erase (notShared : view ≠ 1) (givenUp : view ∉ l.views) :
    l.Covers ⟨h.streams, h.held.erase view⟩ where
  handles := (List.count_erase_of_ne (Ne.symm notShared)).trans c.handles
  holds := c.holds
  nodup := c.nodup
  owned other member := c.owned other (List.mem_of_mem_erase member)
  views_held other member := by
    have different : other ≠ view := fun same => givenUp (same ▸ member)
    exact (List.mem_erase_of_ne different).mpr (c.views_held other member)

/-- A new view. -/
lemma openView (family : Family count f h.streams) (isNew : h.streams.find? view = none)
    (offset length : Int) :
    Covers { l with views := view :: l.views }
      ⟨(view, .view ⟨some 1, offset, length, 0⟩) :: h.streams.retain 1, view :: h.held⟩ where
  handles := by
    have notShared : view ≠ 1 := by
      rintro rfl
      rw [family.find?_one] at isNew
      cases isNew
    rw [List.count_cons_of_ne notShared, c.handles]
  holds other := by
    by_cases same : view = other
    · subst same
      simp [Holds, find?]
    · have before := (family.holds_setHandles (· + 1) other).trans (c.holds other)
      simpa [Holds, find?, same, Ne.symm same, retain] using before
  nodup := by
    refine List.nodup_cons.mpr ⟨fun member => ?_, c.nodup⟩
    obtain ⟨v, found, _⟩ := (c.holds view).mpr member
    rw [isNew] at found
    cases found
  owned other member different := by
    by_cases same : view = other
    · exact ⟨_, if_pos same⟩
    · obtain ⟨v, found⟩ := c.owned other (List.mem_of_ne_of_mem (Ne.symm same) member) different
      refine ⟨v, ?_⟩
      simp only [find?, if_neg same]
      exact (find?_setHandles_other different _ _).trans found
  views_held other member := by
    rcases List.mem_cons.mp member with rfl | member
    · exact List.mem_cons_self
    · exact List.mem_cons_of_mem _ (c.views_held other member)

end Ledger.Covers

/-- The ledger tells the truth, where the scripted file was `f` at the start and has been closed so
many times since. -/
structure Tally (f : ScriptedFile) (times : Nat) (l : Ledger) (h : Holdings) : Prop where
  covers : l.Covers h
  /-- The file is as it was, or it has been closed once and there are no holders. -/
  family : times = 0 ∧ Family l.holders f h.streams ∨
    times = 1 ∧ l.holders = 0 ∧ Family 0 (f.call .close).2 h.streams

namespace Tally

variable {f : ScriptedFile} {times view : Nat} {l : Ledger} {h : Holdings} {v : View}

/-- The ledger at the start. -/
lemma start (f : ScriptedFile) : Tally f 0 {} (.ofFile (.scripted f)) where
  covers :=
    { handles := rfl
      holds := fun view => by
        simp only [List.not_mem_nil, iff_false]
        rintro ⟨v, found, _⟩
        exact Family.find?_file_ne_view 1 f view v found
      nodup := List.nodup_nil
      owned := fun view member other => absurd (List.mem_singleton.mp member) other
      views_held := fun view member => absurd member List.not_mem_nil }
  family := .inl ⟨rfl, .file⟩

variable (t : Tally f times l h)

include t

/-- The streams are a family with as many handles as there are holders. -/
lemma exists_family : ∃ g, Family l.holders g h.streams := by
  rcases t.family with ⟨_, standing⟩ | ⟨_, none, closed⟩
  · exact ⟨f, standing⟩
  · exact ⟨_, none ▸ closed⟩

/-- While there are holders, the file is as it was. -/
lemma standing (some : 0 < l.holders) : times = 0 ∧ Family l.holders f h.streams := by
  rcases t.family with standing | ⟨_, none, _⟩
  · exact standing
  · omega

/-- There are holders if the shared file counts handles. -/
lemma holders_pos (counted : 0 < h.streams.handles 1) : 0 < l.holders := by
  obtain ⟨g, family⟩ := t.exists_family
  rwa [family.handles_eq] at counted

/-- The scripted file has seen itself closed that many times more. -/
lemma closings_eq : h.closings = f.log.count .close + times := by
  unfold Holdings.closings
  rcases t.family with ⟨rfl, standing⟩ | ⟨rfl, _, closed⟩
  · rw [standing.find?_zero]
    rfl
  · rw [closed.find?_zero]
    exact List.count_cons_self

/-- A handle is copied. -/
lemma clone (possible : h.Permits (.clone 1)) :
    Tally f times { l with handles := l.handles + 1 } ⟨h.streams.retain 1, 1 :: h.held⟩ := by
  obtain ⟨unclosed, standing⟩ := t.standing (t.holders_pos possible)
  have counted : (1 :: h.held).count 1 = l.handles + 1 := by
    rw [List.count_cons_self, t.covers.handles]
  refine ⟨t.covers.setHandles standing (· + 1) counted fun view other => ?_,
    .inl ⟨unclosed, ?_⟩⟩
  · simp [other]
  have more : l.handles + 1 + l.views.length = l.holders + 1 := Nat.add_right_comm ..
  change Family (l.handles + 1 + l.views.length) f _
  rw [more]
  exact standing.of_setHandles (· + 1)

/-- A handle is dropped. -/
lemma drop (possible : h.Permits (.dropHandle 1)) :
    Tally f times { l with handles := l.handles - 1 } ⟨h.streams.letGo 1, h.held.erase 1⟩ := by
  have some : 0 < l.handles := by
    rw [← t.covers.handles]
    exact List.count_pos_iff.mpr possible.1
  obtain ⟨unclosed, standing⟩ := t.standing (Nat.lt_add_right _ some)
  have counted : (h.held.erase 1).count 1 = l.handles - 1 := by
    rw [List.count_erase_self, t.covers.handles]
  rw [standing.letGo_file]
  refine ⟨t.covers.setHandles standing (· - 1) counted fun view other =>
    List.mem_erase_of_ne other, .inl ⟨unclosed, ?_⟩⟩
  have fewer : l.handles - 1 + l.views.length = l.holders - 1 := (Nat.sub_add_comm some).symm
  change Family (l.handles - 1 + l.views.length) f _
  rw [fewer]
  exact standing.of_setHandles (· - 1)

/-- A view is opened. -/
lemma openView {offset length : Int} (possible : h.Permits (.openView view 1 offset length)) :
    Tally f times { l with views := view :: l.views }
      ⟨(view, .view ⟨some 1, offset, length, 0⟩) :: h.streams.retain 1, view :: h.held⟩ := by
  obtain ⟨counted, isNew⟩ := possible
  obtain ⟨unclosed, standing⟩ := t.standing (t.holders_pos counted)
  have notFile : view ≠ 0 := by
    rintro rfl
    rw [standing.find?_zero] at isNew
    cases isNew
  have notShared : view ≠ 1 := by
    rintro rfl
    rw [standing.find?_one] at isNew
    cases isNew
  exact ⟨t.covers.openView standing isNew offset length, .inl ⟨unclosed,
    .view (standing.of_setHandles (· + 1)) notFile notShared (.inr rfl)⟩⟩

/-- A view that is not the last holder gives up its handle. -/
lemma parted (found : h.streams.find? view = some (.view v)) (member : view ∈ l.views) :
    Tally f times { l with views := l.views.erase view } ⟨h.streams.parted view v, h.held⟩ := by
  obtain ⟨unclosed, standing⟩ := t.standing (l.holders_pos_of_mem member)
  refine ⟨t.covers.parted standing found, .inl ⟨unclosed, ?_⟩⟩
  have fewer : l.handles + (l.views.erase view).length = l.holders - 1 := by
    rw [List.length_erase_of_mem member]
    exact (Nat.add_sub_assoc (List.length_pos_of_mem member) _).symm
  change Family (l.handles + (l.views.erase view).length) f _
  rw [fewer]
  exact standing.of_parted found

/-- The last holder closes the file. -/
lemma closed (found : h.streams.find? view = some (.view v)) (last : l.IsLast (.closeView view)) :
    Tally f (times + 1) { l with views := l.views.erase view }
      ⟨(h.streams.replace 0 (.scripted (f.call .close).2)).parted view v, h.held⟩ := by
  obtain ⟨noHandles, only⟩ := last
  have one : l.holders = 1 := by
    unfold Ledger.holders
    rw [noHandles, only]
    rfl
  obtain ⟨unclosed, standing⟩ := t.standing (by omega)
  have replaced := standing.replace_file (f.call .close).2
  have there : (h.streams.replace 0 (.scripted (f.call .close).2)).find? view = some (.view v) :=
    (find?_replace_other (standing.ne_of_view found).1 _ _).trans found
  refine ⟨(t.covers.replace_file standing _).parted replaced there, .inr ⟨?_, ?_, ?_⟩⟩
  · rw [unclosed]
  · unfold Ledger.holders
    simp [noHandles, only]
  · have none := replaced.of_parted there
    rwa [one] at none

/-- The program lets go of a view that holds nothing. -/
lemma erase (notShared : view ≠ 1) (givenUp : view ∉ l.views) :
    Tally f times l ⟨h.streams, h.held.erase view⟩ :=
  ⟨t.covers.erase notShared givenUp, t.family⟩

/-! ### Steps -/

/-- A view that the program holds. -/
lemma exists_view (member : view ∈ h.held) (notFile : h.streams.isFile view = false) :
    view ≠ 1 ∧ ∃ v : View, h.streams.find? view = some (.view v) := by
  obtain ⟨g, family⟩ := t.exists_family
  obtain ⟨v, found⟩ := t.covers.exists_view family member notFile
  exact ⟨(family.ne_of_view found).2, v, found⟩

/-- The last holder can be closed. -/
lemma permits_of_isLast (last : l.IsLast (.closeView view)) :
    h.Permits (.call view .close) := by
  obtain ⟨g, family⟩ := t.exists_family
  have member : view ∈ l.views := by
    rw [last.2]
    exact List.mem_singleton_self view
  have notShared := t.covers.ne_one_of_mem family member
  refine Holdings.permits_close_iff.mpr ⟨t.covers.views_held view member, ?_⟩
  rw [family.isFile_eq, decide_eq_false notShared]

/-- What the close of a view answers and leaves, if the program holds the view. -/
lemma close_cases (found : h.streams.find? view = some (.view v)) :
    (view ∉ l.views ∧ h.streams.call view .close = .ofResult (.ok ()) h.streams) ∨
    (view ∈ l.views ∧ l.IsLast (.closeView view) ∧
      h.streams.call view .close = .ofResult (f.call .close).1
        ((h.streams.replace 0 (.scripted (f.call .close).2)).parted view v)) ∨
    (view ∈ l.views ∧ ¬ l.IsLast (.closeView view) ∧
      h.streams.call view .close = .ofResult (.ok ()) (h.streams.parted view v)) := by
  by_cases member : view ∈ l.views
  · obtain ⟨_, standing⟩ := t.standing (l.holders_pos_of_mem member)
    have closing := standing.call_close found ((t.covers.file_eq_iff found).mpr member)
    by_cases last : l.IsLast (.closeView view)
    · have one : l.holders = 1 := by
        unfold Ledger.holders
        rw [last.1, last.2]
        rfl
      rw [if_pos one] at closing
      exact .inr (.inl ⟨member, last, closing⟩)
    · have several : l.holders ≠ 1 := by
        intro one
        have some := List.length_pos_of_mem member
        unfold Ledger.holders at one
        have single : l.views.length = 1 := by omega
        obtain ⟨only, same⟩ := List.length_eq_one_iff.mp single
        rw [same, List.mem_singleton] at member
        exact last ⟨by omega, by rw [same, member]⟩
      rw [if_neg several] at closing
      exact .inr (.inr ⟨member, last, closing⟩)
  · obtain ⟨g, family⟩ := t.exists_family
    exact .inl ⟨member, call_of_givenUp found (t.covers.file_eq_none family found member) .close⟩

/-- **One step.**  The ledger stays true, and the file is closed by the last holder alone. -/
lemma step (step : Handling) :
    Tally f (times + if l.IsLast step then 1 else 0)
      (l.enter (step, (Handling.machine step h).1)) (Handling.machine step h).2 := by
  unfold Handling.machine
  by_cases possible : h.Permits step.act
  · rw [Holdings.machine_of_permits possible]
    cases step with
    | clone => exact t.clone possible
    | drop => exact t.drop possible
    | openView view offset length =>
      simp only [Handling.act, perform]
      cases opens : h.streams.openView view 1 offset length with
      | error e => exact t
      | ok opened =>
        obtain ⟨_, rfl⟩ := openView_eq_ok_iff.mp opens
        exact t.openView possible
    | closeView view =>
      obtain ⟨held, notFile⟩ := Holdings.permits_close_iff.mp possible
      obtain ⟨_, v, found⟩ := t.exists_view held notFile
      simp only [Handling.act, perform, Ledger.enter, Holdings.heldAfter]
      rcases t.close_cases found with
        ⟨other, closing⟩ | ⟨_, last, closing⟩ | ⟨member, several, closing⟩
      · have several : ¬ l.IsLast (.closeView view) := fun last =>
          other (last.2 ▸ List.mem_singleton_self view)
        rw [closing, if_neg several, List.erase_of_not_mem other]
        exact t
      · rw [closing, if_pos last]
        exact t.closed found last
      · rw [closing, if_neg several]
        exact t.parted found member
    | dropView view =>
      obtain ⟨notShared, v, found⟩ := t.exists_view possible.1 possible.2
      simp only [Handling.act, perform, Ledger.enter, Holdings.heldAfter]
      by_cases member : view ∈ l.views
      · obtain ⟨_, standing⟩ := t.standing (l.holders_pos_of_mem member)
        rw [standing.letGo_view found ((t.covers.file_eq_iff found).mpr member)]
        exact (t.parted found member).erase notShared (t.covers.nodup.not_mem_erase)
      · obtain ⟨g, family⟩ := t.exists_family
        rw [letGo_of_givenUp found (t.covers.file_eq_none family found member),
          List.erase_of_not_mem member]
        exact t.erase notShared member
  · rw [Holdings.machine_of_not_permits possible]
    have several : ¬ l.IsLast step := by
      cases step with
      | closeView view => exact fun last => possible (t.permits_of_isLast last)
      | clone | drop | openView _ _ _ | dropView _ => exact id
    rw [if_neg several]
    cases step <;> exact t

/-- The close of the last holder answers what the file answers. -/
lemma last_answers (last : l.IsLast (.closeView view)) :
    (Handling.machine (.closeView view) h).1 =
      some (((f.call .close).1.mapError .error).map InputCall.close.seen) := by
  have possible := t.permits_of_isLast last
  obtain ⟨g, family⟩ := t.exists_family
  have member : view ∈ l.views := by
    rw [last.2]
    exact List.mem_singleton_self view
  obtain ⟨v, found, _⟩ := (t.covers.holds view).mpr member
  have machine := Holdings.machine_of_permits possible
  unfold Handling.machine
  rw [Handling.act, machine]
  rcases t.close_cases found with ⟨other, _⟩ | ⟨_, _, closing⟩ | ⟨_, several, _⟩
  · exact absurd member other
  · simp only [perform, closing]
    rfl
  · exact absurd last several

/-- A view that is not in the ledger has been given up. -/
lemma call_of_shut (isView : h.streams.kind? view = some .view) (other : view ∉ l.views) :
    ¬ h.streams.Holds view ∧ h.streams.isClosed view = true ∧
      h.streams.call view .isClosed = .ofResult (.ok true) h.streams ∧
      h.streams.call view .close = .ofResult (.ok ()) h.streams := by
  obtain ⟨g, family⟩ := t.exists_family
  obtain ⟨node, found, kind⟩ := Option.map_eq_some_iff.mp isView
  cases node with
  | view v =>
    have givenUp := t.covers.file_eq_none family found other
    exact ⟨mt (t.covers.holds view).mp other, isClosed_of_givenUp found givenUp,
      call_of_givenUp found givenUp .isClosed, call_of_givenUp found givenUp .close⟩
  | reader r | scripted f | shared file count | slow inner clock => cases kind

end Tally

/-! ### Runs -/

/-- The views that the run has closed are views that are not in the ledger. -/
def Ledger.Omits (l : Ledger) (past : List (Handling × Option (Except Fault Seen)))
    (h : Holdings) : Prop :=
  ∀ view answer, (.closeView view, some answer) ∈ past →
    view ∉ l.views ∧ h.streams.kind? view = some .view

/-- A view that has been closed is not entered again. -/
lemma Tally.omits {f : ScriptedFile} {times : Nat} {l : Ledger} {h : Holdings}
    (t : Tally f times l h) {past : List (Handling × Option (Except Fault Seen))}
    (omits : l.Omits past h) (step : Handling) :
    (l.enter (step, (Handling.machine step h).1)).Omits
      (past ++ [(step, (Handling.machine step h).1)]) (Handling.machine step h).2 := by
  intro view answer member
  by_cases possible : h.Permits step.act
  · rcases List.mem_append.mp member with earlier | now
    · obtain ⟨other, isView⟩ := omits view answer earlier
      refine ⟨fun entered => ?_, Holdings.kind?_machine step.act h isView⟩
      unfold Handling.machine at entered
      rw [Holdings.machine_of_permits possible] at entered
      cases step with
      | clone | drop => exact other entered
      | closeView closed | dropView closed => exact other (List.mem_of_mem_erase entered)
      | openView opened offset length =>
        have different : view ≠ opened := by
          rintro rfl
          rw [kind?_eq_none_iff.mpr possible.2] at isView
          cases isView
        simp only [Handling.act, perform] at entered
        cases opens : h.streams.openView opened 1 offset length with
        | error e =>
          rw [opens] at entered
          exact other entered
        | ok later =>
          rw [opens] at entered
          exact other (List.mem_of_ne_of_mem different entered)
    · obtain ⟨same, answered⟩ := Prod.mk.inj (List.mem_singleton.mp now)
      subst same
      rw [← answered]
      refine ⟨t.covers.nodup.not_mem_erase, ?_⟩
      obtain ⟨held, notFile⟩ := Holdings.permits_close_iff.mp possible
      obtain ⟨_, v, found⟩ := t.exists_view held notFile
      refine Holdings.kind?_machine _ h ?_
      unfold kind?
      rw [found]
      rfl
  · unfold Handling.machine at member ⊢
    rw [Holdings.machine_of_not_permits possible] at member ⊢
    rcases List.mem_append.mp member with earlier | now
    · cases step <;> exact omits view answer earlier
    · cases (Prod.mk.inj (List.mem_singleton.mp now)).2

/-- How a shared file and its views stand after the steps of a run. -/
structure ClosePolicy (f : ScriptedFile) (past : List (Handling × Option (Except Fault Seen)))
    (h : Holdings) : Prop where
  /-- The program has the handles of the ledger. -/
  handles : h.held.count 1 = (Ledger.ofPast past).handles
  /-- The views that hold a handle are those of the ledger. -/
  holds : ∀ view, h.streams.Holds view ↔ view ∈ (Ledger.ofPast past).views
  /-- The next step closes the file, once, exactly if it closes the view that is the last holder. -/
  closes : ∀ step, (Handling.machine step h).2.closings =
    h.closings + if (Ledger.ofPast past).IsLast step then 1 else 0
  /-- It answers then as the file does, which may be with an error. -/
  answers : ∀ view, (Ledger.ofPast past).IsLast (.closeView view) →
    (Handling.machine (.closeView view) h).1 =
      some (((f.call .close).1.mapError .error).map InputCall.close.seen)
  /-- The run closes the file once at most. -/
  once : h.closings ≤ f.log.count .close + 1
  /-- A view that has been closed, whatever that was answered, holds nothing and is closed; it tells
  that if it is asked, and closing it again succeeds and does nothing. -/
  shut : ∀ view answer, (.closeView view, some answer) ∈ past →
    ¬ h.streams.Holds view ∧ h.streams.isClosed view = true ∧
      h.streams.call view .isClosed = .ofResult (.ok true) h.streams ∧
      h.streams.call view .close = .ofResult (.ok ()) h.streams

/-- **Last handle.**  However handles on a file and views of it are made, closed and dropped, it is
the close of the last holder that closes the file, and nothing else does. -/
theorem last_handle_closes_file (f : ScriptedFile) (steps : List Handling) :
    ClosePolicy f (Handling.machine.transcript steps (.ofFile (.scripted f)))
      (Handling.machine.final steps (.ofFile (.scripted f))) := by
  -- The ledger of the run is true, and omits the views that were closed.
  have run := Handling.machine.run_induction
    (motive := fun past h =>
      (∃ times, Tally f times (Ledger.ofPast past) h) ∧ (Ledger.ofPast past).Omits past h)
    (s := .ofFile (.scripted f))
    ⟨⟨0, .start f⟩, fun view answer member => absurd member List.not_mem_nil⟩
    (fun past h step ⟨⟨times, t⟩, omits⟩ => by
      have entered : Ledger.ofPast (past ++ [(step, (Handling.machine step h).1)]) =
          (Ledger.ofPast past).enter (step, (Handling.machine step h).1) := by
        simp [Ledger.ofPast]
      rw [entered]
      exact ⟨⟨_, t.step step⟩, t.omits omits step⟩)
    steps
  obtain ⟨⟨times, t⟩, omits⟩ := run
  refine ⟨t.covers.handles, t.covers.holds, fun step => ?_, fun view last => t.last_answers last,
    ?_, fun view answer closed => ?_⟩
  · rw [(t.step step).closings_eq, t.closings_eq, Nat.add_assoc]
  · rw [t.closings_eq]
    have once : times ≤ 1 := by
      rcases t.family with ⟨none, _⟩ | ⟨one, _⟩ <;> omega
    exact Nat.add_le_add_left once _
  · obtain ⟨other, isView⟩ := omits view answer closed
    exact t.call_of_shut isView other

end ByteStreams
