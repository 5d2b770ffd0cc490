import ByteStreams.Proofs.Input.Holdings

/-!
# Handles are counted

The streams of a program are readers, shared files and views, and are referred to by the program and
by what is built upon them.  The count of a shared file is the number of references to it, and a
reader or a view has one reference at most (`Streams.Accounted`).

What is asked of a stream changes nothing (`Accounted.query`); a call on a view that the program
holds changes only the view (`Accounted.call`), unless it closes the view, which gives it up as
dropping it does (`Accounted.close`).  In each case the counts stay true.
-/

namespace ByteStreams

/-- The names that a stream refers to.  A shared file without handles is gone and refers to none. -/
def Node.links : Node → List Nat
  | .shared inner count => if count = 0 then [] else [inner]
  | .view v => v.file.toList
  | .slow inner _ => [inner]
  | .reader _ | .scripted _ => []

/-- The stream fits upon the older ones and beneath so many references. -/
def Node.Fits (rest : Streams) (references : Nat) : Node → Prop
  | .reader _ => references ≤ 1
  | .view v => references ≤ 1 ∧ ∀ file, v.file = some file → rest.isFile file = true
  | .shared inner count => count = references ∧ (count ≠ 0 → rest.isFile inner = false)
  | .scripted _ | .slow _ _ => False

/-- The reader, closed. -/
def Reader.shut (r : Reader) : Reader := { r with closed := true }

/-- A query changes nothing of a reader. -/
lemma Reader.call_query {α : Type} {c : InputCall α} (query : c.isQuery = true) (r : Reader) :
    (r.call c).2 = r := by
  unfold call
  split
  · rfl
  cases c with
  | readAt position count => simp only [callOpen]; split <;> rfl
  | readAtInto position target => simp only [callOpen]; split <;> rfl
  | tell | zeroCopy | size | isClosed | checkOpen _ => rfl
  | read _ | readInto _ | peek _ | advance _ | seek _ | close => cases query

namespace Node.Fits

variable {rest later : Streams} {references fewer : Nat} {node : Node}

/-- What fits upon streams fits upon streams of the same kinds. -/
lemma congr (h : node.Fits rest references)
    (same : ∀ name, later.kind? name = rest.kind? name) : node.Fits later references := by
  cases node with
  | reader r => exact h
  | view v =>
    obtain ⟨single, onFile⟩ := h
    refine ⟨single, fun file held => ?_⟩
    rw [Streams.isFile_congr (same file)]
    exact onFile file held
  | shared inner count =>
    obtain ⟨counted, notFile⟩ := h
    refine ⟨counted, fun some => ?_⟩
    rw [Streams.isFile_congr (same inner)]
    exact notFile some
  | scripted f | slow inner clock => exact h

/-- A stream that is no shared file may have fewer references. -/
lemma of_le (h : node.Fits rest references) (le : fewer ≤ references)
    (file : node.kind = .shared → fewer = references) : node.Fits rest fewer := by
  cases node with
  | reader r => exact Nat.le_trans le h
  | view v => exact ⟨Nat.le_trans le h.1, h.2⟩
  | shared inner count =>
    rw [file rfl]
    exact h
  | scripted f | slow inner clock => exact h

end Node.Fits

namespace Streams

/-- The streams of a program that holds these references: each name is in use once, and the
references to it, those of the newer streams included, are counted. -/
def Accounted : List Nat → Streams → Prop
  | _, [] => True
  | roots, (key, node) :: rest =>
    kind? rest key = none ∧ node.Fits rest (roots.count key) ∧ Accounted (node.links ++ roots) rest

variable {roots others : List Nat} {streams rest : Streams} {key name other file : Nat}

/-! ### References -/

/-- An older stream has another name than a new one. -/
lemma ne_of_kind? (isNew : rest.kind? key = none) {kind : Node.Kind}
    (inUse : rest.kind? other = some kind) : key ≠ other := by
  rintro rfl
  rw [isNew] at inUse
  cases inUse

/-- Shared files are told by their kind. -/
lemma isFile_iff : streams.isFile name = true ↔ streams.kind? name = some .shared :=
  decide_eq_true_iff

/-- A file among the older streams. -/
lemma isFile_cons_of_ne {node : Node} (different : key ≠ name) :
    isFile ((key, node) :: rest) name = rest.isFile name :=
  isFile_congr (kind?_cons_of_ne different)

/-- The handles on an older file. -/
lemma handles_cons_of_ne {node : Node} (different : key ≠ name) :
    handles ((key, node) :: rest) name = rest.handles name := by
  simp [handles, find?, different]

/-- The handles on the newest stream, which has some only if it is a shared file. -/
lemma handles_cons_self (key : Nat) (node : Node) (rest later : Streams) :
    handles ((key, node) :: rest) key = handles ((key, node) :: later) key := by
  simp [handles, find?]

/-- Only files have handles. -/
lemma handles_eq_zero (notFile : streams.isFile name = false) : streams.handles name = 0 := by
  unfold handles
  split
  · next inner count found => simp [isFile, kind?, found, Node.kind] at notFile
  · rfl

/-- What has handles is a file. -/
lemma isFile_of_handles_pos (counted : 0 < streams.handles name) : streams.isFile name = true := by
  cases isFile : streams.isFile name with
  | true => rfl
  | false =>
    rw [handles_eq_zero isFile] at counted
    cases counted

/-- The counts stay true if files have as many references as before, and other streams no more. -/
lemma Accounted.of_count (h : Accounted roots streams)
    (fewer : ∀ name kind, streams.kind? name = some kind → others.count name ≤ roots.count name)
    (files : ∀ name, streams.isFile name = true → others.count name = roots.count name) :
    Accounted others streams := by
  induction streams generalizing roots others with
  | nil => trivial
  | cons entry rest ih =>
    obtain ⟨key, node⟩ := entry
    obtain ⟨isNew, fits, tail⟩ := h
    have here : others.count key ≤ roots.count key := fewer key _ (kind?_cons_self key node rest)
    refine ⟨isNew, fits.of_le here fun isShared => files key ?_, ih tail ?_ ?_⟩
    · rw [isFile_iff, kind?_cons_self, isShared]
    · intro name kind inUse
      have different := ne_of_kind? isNew inUse
      have older := fewer name kind ((kind?_cons_of_ne different).trans inUse)
      rw [List.count_append, List.count_append]
      omega
    · intro name isFile
      have different := ne_of_kind? isNew (isFile_iff.mp isFile)
      have older := files name ((isFile_cons_of_ne different).trans isFile)
      rw [List.count_append, List.count_append, older]

/-- The counts stay true if all that is in use has as many references as before. -/
lemma Accounted.of_count_eq (h : Accounted roots streams)
    (same : ∀ name kind, streams.kind? name = some kind →
      others.count name = roots.count name) : Accounted others streams :=
  h.of_count (fun name kind inUse => Nat.le_of_eq (same name kind inUse))
    fun name isFile => same name _ (isFile_iff.mp isFile)

/-- The references of a program may come before or after those of a stream. -/
lemma Accounted.rotate {links : List Nat} (h : Accounted (links ++ name :: roots) streams) :
    Accounted (name :: (links ++ roots)) streams :=
  h.of_count_eq fun other _ _ => (List.perm_middle.count_eq other).symm

/-- And the other way round. -/
lemma Accounted.rotate' (links : List Nat) (h : Accounted (name :: (links ++ roots)) streams) :
    Accounted (links ++ name :: roots) streams :=
  h.of_count_eq fun other _ _ => List.perm_middle.count_eq other

/-- A name that is not in use need not be counted. -/
lemma Accounted.without (h : Accounted (key :: roots) streams) (isNew : streams.kind? key = none) :
    Accounted roots streams := by
  refine h.of_count_eq fun name kind inUse => ?_
  rw [List.count_cons_of_ne (ne_of_kind? isNew inUse)]

/-- But may be. -/
lemma Accounted.withNew (h : Accounted roots streams) (isNew : streams.kind? key = none) :
    Accounted (key :: roots) streams := by
  refine h.of_count_eq fun name kind inUse => ?_
  rw [List.count_cons_of_ne (ne_of_kind? isNew inUse)]

/-- Nor need one be that is no file, if it has been given up. -/
lemma Accounted.release (h : Accounted (name :: roots) streams)
    (notFile : streams.isFile name = false) : Accounted roots streams := by
  refine h.of_count (fun other kind inUse => ?_) fun other isFile => ?_
  · rw [List.count_cons]
    exact Nat.le_add_right _ _
  · have different : name ≠ other := by
      rintro rfl
      rw [notFile] at isFile
      cases isFile
    rw [List.count_cons_of_ne different]

/-- A file has as many handles as the program has references to it, or more. -/
lemma Accounted.count_le_handles (h : Accounted roots streams)
    (isFile : streams.isFile name = true) : roots.count name ≤ streams.handles name := by
  induction streams generalizing roots with
  | nil => cases isFile
  | cons entry rest ih =>
    obtain ⟨key, node⟩ := entry
    obtain ⟨isNew, fits, tail⟩ := h
    by_cases same : key = name
    · subst same
      have isShared := isFile_iff.mp isFile
      rw [kind?_cons_self] at isShared
      cases node with
      | shared inner count => simp [handles, find?, fits.1]
      | reader r | scripted f | view v | slow inner clock => cases isShared
    · rw [isFile_cons_of_ne same] at isFile
      have older := ih tail isFile
      rw [List.count_append] at older
      rw [handles_cons_of_ne same]
      omega

/-- The program has one reference at most to a stream that is no file. -/
lemma Accounted.count_le_one (h : Accounted roots streams) {kind : Node.Kind}
    (inUse : streams.kind? name = some kind) (notFile : streams.isFile name = false) :
    roots.count name ≤ 1 := by
  induction streams generalizing roots with
  | nil => cases inUse
  | cons entry rest ih =>
    obtain ⟨key, node⟩ := entry
    obtain ⟨isNew, fits, tail⟩ := h
    by_cases same : key = name
    · subst same
      cases node with
      | reader r => exact fits
      | view v => exact fits.1
      | shared inner count =>
        have isShared : isFile ((key, .shared inner count) :: rest) key = true := by
          rw [isFile_iff, kind?_cons_self]
          rfl
        rw [notFile] at isShared
        cases isShared
      | scripted f | slow inner clock => exact fits.elim
    · rw [kind?_cons_of_ne same] at inUse
      rw [isFile_cons_of_ne same] at notFile
      have older := ih tail inUse notFile
      rw [List.count_append] at older
      omega

/-- The program may count one of its references by itself. -/
lemma Accounted.of_mem (h : Accounted roots streams) (member : name ∈ roots) :
    Accounted (name :: roots.erase name) streams :=
  h.of_count_eq fun other _ _ => (List.perm_cons_erase member).symm.count_eq other

/-- And with the others again. -/
lemma Accounted.to_mem (h : Accounted (name :: roots.erase name) streams) (member : name ∈ roots) :
    Accounted roots streams :=
  h.of_count_eq fun other _ _ => (List.perm_cons_erase member).count_eq other

/-! ### Giving up -/

/-- **Giving up.**  If the program gives up a handle, the counts stay true without it.  A view may
still be held then. -/
theorem Accounted.giveUp (leave : Reader → Reader) (h : Accounted (name :: roots) streams) :
    Accounted (if streams.isFile name then roots else name :: roots)
      (streams.giveUp leave name) := by
  induction streams generalizing roots name with
  | nil => trivial
  | cons entry rest ih =>
    obtain ⟨key, node⟩ := entry
    obtain ⟨isNew, fits, tail⟩ := h
    by_cases same : key = name
    · subst same
      cases node with
      | reader r =>
        have notFile : isFile ((key, .reader r) :: rest) key = false := by simp [isFile, Node.kind]
        simp only [notFile, Streams.giveUp, if_true]
        exact ⟨isNew, fits, tail⟩
      | view v =>
        have notFile : isFile ((key, .view v) :: rest) key = false := by simp [isFile, Node.kind]
        rw [notFile]
        cases held : v.file with
        | none =>
          simp only [Streams.giveUp, if_true, held]
          exact ⟨isNew, fits, tail⟩
        | some file =>
          have onFile := fits.2 file held
          simp only [Node.links, held, Option.toList_some] at tail
          have beneath := ih tail
          rw [onFile, if_pos rfl] at beneath
          simp only [Streams.giveUp, if_true, held]
          refine ⟨(kind?_giveUp ..).trans isNew, ⟨fits.1, fun _ none => by cases none⟩, beneath⟩
      | shared inner count =>
        have isFile : isFile ((key, .shared inner count) :: rest) key = true := by
          simp [isFile, Node.kind]
        obtain ⟨counted, notFile⟩ := fits
        rw [List.count_cons_self] at counted
        have some : count ≠ 0 := by omega
        simp only [Node.links, if_neg some] at tail
        rw [isFile, if_pos rfl]
        simp only [Streams.giveUp, if_true]
        -- The last handle goes with what the file stands for, which is no file and stays counted.
        by_cases last : count = 1
        · rw [if_pos last]
          have beneath := ih tail
          rw [notFile some, if_neg Bool.false_ne_true] at beneath
          have left := (beneath.release ((isFile_congr (kind?_giveUp ..)).trans (notFile some)))
          have fits : Node.Fits (Streams.giveUp leave rest inner) (roots.count key)
              (.shared inner (count - 1)) := ⟨by omega, fun more => absurd last (by omega)⟩
          refine ⟨(kind?_giveUp ..).trans isNew, fits, ?_⟩
          simp only [Node.links, last, Nat.sub_self, if_true]
          exact left.without ((kind?_giveUp ..).trans isNew)
        · rw [if_neg last]
          have more : count - 1 ≠ 0 := by omega
          refine ⟨isNew, ⟨by omega, fun _ => notFile some⟩, ?_⟩
          simp only [Node.links, if_neg more]
          exact tail.rotate.without isNew
      | scripted f | slow inner clock => exact fits.elim
    · rw [List.count_cons_of_ne (Ne.symm same)] at fits
      have beneath := ih tail.rotate
      have fits := fits.congr (kind?_giveUp leave rest name)
      rw [isFile_cons_of_ne same]
      simp only [Streams.giveUp, if_neg same]
      cases isFile : isFile rest name with
      | true =>
        rw [isFile] at beneath
        exact ⟨(kind?_giveUp ..).trans isNew, fits, beneath⟩
      | false =>
        rw [isFile] at beneath
        rw [← List.count_cons_of_ne (Ne.symm same)] at fits
        exact ⟨(kind?_giveUp ..).trans isNew, fits, beneath.rotate' _⟩

/-- Giving up makes no handles. -/
lemma handles_giveUp_le (leave : Reader → Reader) (streams : Streams) (name other : Nat) :
    (streams.giveUp leave name).handles other ≤ streams.handles other := by
  refine giveUp_induction (motive := fun before after => after.handles other ≤ before.handles other)
    (fun _ => Nat.le_refl _) (fun ⟨key, node⟩ rest later fewer => ?_)
    (fun key node rest later fewer => ?_) streams name
  · by_cases same : key = other
    · subst same
      exact Nat.le_of_eq (handles_cons_self key node later rest)
    · rwa [handles_cons_of_ne same, handles_cons_of_ne same]
  · by_cases same : key = other
    · cases node <;> simp [Node.givenUp, handles, find?, same]
    · rwa [handles_cons_of_ne same, handles_cons_of_ne same]

/-- Giving up leaves the readers as they are, or as they are to be left. -/
lemma find?_giveUp_reader (leave : Reader → Reader) {r : Reader} (name : Nat)
    (found : streams.find? other = some (.reader r)) :
    (streams.giveUp leave name).find? other = some (.reader r) ∨
      (streams.giveUp leave name).find? other = some (.reader (leave r)) := by
  refine giveUp_induction (motive := fun before after => before.find? other = some (.reader r) →
    after.find? other = some (.reader r) ∨ after.find? other = some (.reader (leave r)))
    (fun _ => .inl) (fun ⟨key, node⟩ rest later kept => ?_)
    (fun key node rest later kept => ?_) streams name found
  · by_cases same : key = other
    · simp only [find?, if_pos same]
      exact .inl
    · simpa only [find?, if_neg same] using kept
  · by_cases same : key = other
    · simp only [find?, if_pos same, Option.some.injEq]
      rintro rfl
      exact .inr rfl
    · simpa only [find?, if_neg same] using kept

/-! ### Copying -/

/-- A handle is copied from one that exists. -/
lemma Accounted.retain (h : Accounted roots streams) (some : 0 < streams.handles file) :
    Accounted (file :: roots) (streams.retain file) := by
  induction streams generalizing roots with
  | nil => simp [handles, find?] at some
  | cons entry rest ih =>
    obtain ⟨key, node⟩ := entry
    obtain ⟨isNew, fits, tail⟩ := h
    by_cases same : key = file
    · subst same
      cases node with
      | shared inner count =>
        obtain ⟨counted, notFile⟩ := fits
        simp only [handles, find?, if_true] at some
        simp only [Streams.retain, setHandles, if_true]
        -- One more reference and one more handle; the file refers to its stream as before.
        have more : (key :: roots).count key = count + 1 := by
          rw [List.count_cons_self, ← counted]
        have links : (Node.shared inner (count + 1)).links = (Node.shared inner count).links := by
          simp [Node.links, Nat.ne_of_gt some]
        refine ⟨isNew, ⟨more.symm, fun _ => notFile (Nat.ne_of_gt some)⟩, ?_⟩
        rw [links]
        refine tail.of_count_eq fun other kind inUse => ?_
        rw [List.count_append, List.count_append, List.count_cons_of_ne (ne_of_kind? isNew inUse)]
      | reader r | scripted f | view v | slow inner clock => simp [handles, find?] at some
    · rw [handles_cons_of_ne same] at some
      simp only [Streams.retain, setHandles, if_neg same]
      have kinds : ∀ other, (setHandles (· + 1) rest file).kind? other = kind? rest other :=
        kind?_setHandles (· + 1) rest file
      rw [← List.count_cons_of_ne (Ne.symm same)] at fits
      exact ⟨(kinds key).trans isNew, fits.congr kinds, (ih tail some).rotate' _⟩

/-- Copying takes no handles. -/
lemma handles_retain (streams : Streams) (file other : Nat) (some : 0 < streams.handles file) :
    0 < (streams.retain file).handles other ↔ 0 < streams.handles other := by
  induction streams with
  | nil => rfl
  | cons entry rest ih =>
    obtain ⟨key, node⟩ := entry
    by_cases same : key = file
    · subst same
      cases node with
      | shared inner count =>
        simp only [handles, find?, if_true] at some
        by_cases here : key = other
        · simp [Streams.retain, setHandles, handles, find?, here, some]
        · simp [Streams.retain, setHandles, handles, find?, here]
      | reader r | scripted f | view v | slow inner clock =>
        simp [Streams.retain, setHandles]
    · rw [handles_cons_of_ne same] at some
      have older := ih some
      simp only [Streams.retain, setHandles, if_neg same] at older ⊢
      by_cases here : key = other
      · simp [handles, find?, here]
      · rwa [handles_cons_of_ne here, handles_cons_of_ne here]

/-! ### Calls -/

variable {α : Type} {c : InputCall α}

/-- What is asked of a stream changes nothing. -/
theorem Accounted.query (h : Accounted roots streams) (query : c.isQuery = true) (name : Nat) :
    (streams.call name c).streams = streams := by
  induction streams generalizing roots name α with
  | nil => rfl
  | cons entry rest ih =>
    obtain ⟨key, node⟩ := entry
    obtain ⟨isNew, fits, tail⟩ := h
    by_cases same : key = name
    · subst same
      cases node with
      | reader r =>
        rw [call_reader, Reader.call_query query]
        rfl
      | shared inner count =>
        rw [call_shared]
        exact congrArg _ (ih tail query inner)
      | view v =>
        cases held : v.file with
        | none =>
          rw [call_view_closed rest key held]
          rfl
        | some file =>
          rcases call_view_query rest key held query with unread | ⟨β, d, addressed, read⟩
          · exact unread
          · rw [read, ih tail (InputCall.isQuery_of_isAddressed addressed) file]
      | scripted f | slow inner clock => exact fits.elim
    · rw [call_other rest same]
      exact congrArg _ (ih tail query name)

/-- A call on a view changes only the view, unless it closes it. -/
lemma Accounted.view_moved (h : Accounted roots rest) {v : View} (held : v.file = some file)
    (stays : c.isClose = false) :
    ∃ next, v.Moved next ∧
      (Streams.call ((key, .view v) :: rest) key c).streams = (key, .view next) :: rest := by
  obtain ⟨next, moved, left⟩ := call_view_moved rest key held stays
  refine ⟨next, moved, ?_⟩
  rcases left with unread | ⟨β, d, addressed, read⟩
  · exact unread
  · rw [read, h.query (InputCall.isQuery_of_isAddressed addressed) file]

/-- A call on a view that the program holds leaves the counts true, unless it closes the view. -/
theorem Accounted.call (h : Accounted roots streams) (notFile : streams.isFile name = false)
    (stays : c.isClose = false) : Accounted roots (streams.call name c).streams := by
  induction streams generalizing roots with
  | nil => trivial
  | cons entry rest ih =>
    obtain ⟨key, node⟩ := entry
    obtain ⟨isNew, fits, tail⟩ := h
    by_cases same : key = name
    · subst same
      cases node with
      | reader r =>
        rw [call_reader]
        exact ⟨isNew, fits, tail⟩
      | shared inner count => simp [isFile, Node.kind] at notFile
      | view v =>
        cases held : v.file with
        | none =>
          rw [call_view_closed rest key held]
          exact ⟨isNew, fits, tail⟩
        | some file =>
          obtain ⟨next, moved, left⟩ := tail.view_moved held stays
          have links : (Node.view next).links = (Node.view v).links := by
            simp only [Node.links, moved.file_eq]
          have onFile : ∀ file, next.file = some file → isFile rest file = true := by
            rw [moved.file_eq]
            exact fits.2
          rw [left]
          refine ⟨isNew, ⟨fits.1, onFile⟩, ?_⟩
          rwa [links]
      | scripted f | slow inner clock => exact fits.elim
    · rw [isFile_cons_of_ne same] at notFile
      rw [call_other rest same]
      have kinds := kind?_call rest name c
      exact ⟨(kinds key).trans isNew, fits.congr kinds, ih tail notFile⟩

/-- A call on a view leaves all other streams, unless it closes the view. -/
lemma Accounted.find?_call (h : Accounted roots streams) (notFile : streams.isFile name = false)
    (stays : c.isClose = false) (different : other ≠ name) :
    (streams.call name c).streams.find? other = streams.find? other := by
  induction streams generalizing roots with
  | nil => rfl
  | cons entry rest ih =>
    obtain ⟨key, node⟩ := entry
    obtain ⟨isNew, fits, tail⟩ := h
    by_cases same : key = name
    · subst same
      cases node with
      | reader r =>
        rw [call_reader]
        simp [Served.ofResult, find?, Ne.symm different]
      | shared inner count => simp [isFile, Node.kind] at notFile
      | view v =>
        cases held : v.file with
        | none =>
          rw [call_view_closed rest key held]
          rfl
        | some file =>
          obtain ⟨next, _, left⟩ := tail.view_moved held stays
          rw [left]
          simp [find?, Ne.symm different]
      | scripted f | slow inner clock => exact fits.elim
    · rw [isFile_cons_of_ne same] at notFile
      rw [call_other rest same]
      simp only [Served.under, find?, ih tail notFile]

/-- A call on a view makes and takes no handles, unless it closes the view. -/
lemma Accounted.handles_call (h : Accounted roots streams) (notFile : streams.isFile name = false)
    (stays : c.isClose = false) (other : Nat) :
    (streams.call name c).streams.handles other = streams.handles other := by
  by_cases same : other = name
  · subst same
    have stillNone : (streams.call other c).streams.isFile other = false :=
      (isFile_congr (kind?_call ..)).trans notFile
    rw [handles_eq_zero notFile, handles_eq_zero stillNone]
  · unfold handles
    rw [h.find?_call notFile stays same]

/-- Closing succeeds. -/
theorem Accounted.close_result (h : Accounted roots streams) (name : Nat) :
    (streams.call name .close).result = .ok () := by
  induction streams generalizing roots name with
  | nil => rfl
  | cons entry rest ih =>
    obtain ⟨key, node⟩ := entry
    obtain ⟨isNew, fits, tail⟩ := h
    by_cases same : key = name
    · subst same
      cases node with
      | reader r =>
        rw [call_reader]
        cases shut : r.closed <;> simp [Reader.call, shut] <;> rfl
      | shared inner count =>
        rw [call_shared]
        exact ih tail inner
      | view v =>
        cases held : v.file with
        | none =>
          rw [call_view_closed rest key held]
          rfl
        | some file =>
          by_cases alone : handles rest file = 1
          · rw [call_view_close rest key held alone]
            exact ih tail file
          · simp only [Streams.call, if_true, held, if_neg alone]
            rfl
      | scripted f | slow inner clock => exact fits.elim
    · rw [call_other rest same]
      exact ih tail name

/-- **Closing** a view gives up its handle, with a reader left closed that loses its last one. -/
theorem Accounted.close (h : Accounted roots streams) :
    (streams.isFile name = false →
      (streams.call name .close).streams = streams.giveUp Reader.shut name) ∧
    (streams.isFile name = true →
      (if streams.handles name = 1 then (streams.call name .close).streams else streams).release
        name = streams.giveUp Reader.shut name) := by
  -- The two parts need each other: a view gives up a file, and a file what it stands for.
  induction streams generalizing roots name with
  | nil => exact ⟨fun _ => rfl, fun isFile => by cases isFile⟩
  | cons entry rest ih =>
    obtain ⟨key, node⟩ := entry
    obtain ⟨isNew, fits, tail⟩ := h
    by_cases same : key = name
    · subst same
      cases node with
      | reader r =>
        refine ⟨fun _ => ?_, fun isFile => by simp [Streams.isFile, Node.kind] at isFile⟩
        have closed : (r.call .close).2 = r.shut := by
          obtain ⟨buffer, position, closed⟩ := r
          cases closed <;> rfl
        rw [call_reader, closed]
        simp only [Streams.giveUp, if_true]
        rfl
      | view v =>
        refine ⟨fun _ => ?_, fun isFile => by simp [Streams.isFile, Node.kind] at isFile⟩
        cases held : v.file with
        | none =>
          rw [call_view_closed rest key held]
          simp only [Streams.giveUp, if_true, held]
          rfl
        | some file =>
          have beneath := (ih tail).2 (fits.2 file held)
          simp only [Streams.call, Streams.giveUp, if_true, held, ← beneath]
          split <;> rfl
      | shared inner count =>
        refine ⟨fun notFile => by simp [Streams.isFile, Node.kind] at notFile, fun _ => ?_⟩
        have counted : handles ((key, .shared inner count) :: rest) key = count := by
          simp [handles, find?]
        rw [counted, call_shared]
        by_cases last : count = 1
        · have beneath := (ih tail).1 (fits.2 (by omega))
          subst last
          simp only [Streams.giveUp, if_true, ← beneath]
          simp [Served.under, Streams.release, setHandles]
        · simp [Streams.release, setHandles, Streams.giveUp, last]
      | scripted f | slow inner clock => exact fits.elim
    · rw [isFile_cons_of_ne same, handles_cons_of_ne same, call_other rest same]
      simp only [Streams.giveUp, if_neg same]
      refine ⟨fun notFile => congrArg _ ((ih tail).1 notFile), fun isFile => ?_⟩
      rw [← (ih tail).2 isFile]
      split <;> simp [Served.under, Streams.release, setHandles, same]

end Streams

end ByteStreams
