import Mathlib.Data.List.Range
import SqlComposer.Log.QueryLog

/-!
# Handlers and what they are told

Handlers are numbered as they are made, and closed by their numbers. Writing lines and making
folders neither makes a handler nor closes one (`Outlets.SameHandlers`). A record that has no line
leaves all texts as they are (`Outlets.SameTexts`).

A line is taken to one handler after the other. A plain file that cannot be opened passes its fault
on, and the handlers after it are then not reached (`Outlets.Delivered`).
-/

set_option autoImplicit false

namespace SqlComposer.Log

/-! ## Handlers handed out and closed -/

namespace Outlets

/-- The same handlers have been handed out and closed. -/
structure SameHandlers (o o' : Outlets) : Prop where
  issued : o'.issued = o.issued
  closed : o'.closed = o.closed

variable {o o' o'' : Outlets}

/-- The handlers are the same where nothing happens. -/
theorem SameHandlers.refl (o : Outlets) : o.SameHandlers o := ⟨rfl, rfl⟩

/-- They stay the same over two things that leave them the same. -/
theorem SameHandlers.trans (h : o.SameHandlers o') (h' : o'.SameHandlers o'') :
    o.SameHandlers o'' :=
  ⟨h'.issued.trans h.issued, h'.closed.trans h.closed⟩

/-- Making a file hands out no handler and closes none. -/
theorem sameHandlers_opened (name : String) : o.SameHandlers (o.opened name).2 := by
  unfold opened
  split <;> exact ⟨rfl, rfl⟩

/-- Neither does opening a file for a handler. -/
theorem sameHandlers_stream (handler : ℕ) (name : String) :
    o.SameHandlers (o.stream handler name).2 := by
  unfold stream
  split
  · exact .refl o
  · exact ⟨(sameHandlers_opened name).issued, (sameHandlers_opened name).closed⟩

/-- Neither does giving a file another name. -/
theorem sameHandlers_rename (name new : String) : o.SameHandlers (o.rename name new) := by
  unfold rename
  split <;> exact ⟨rfl, rfl⟩

/-- Neither does moving the backups on. -/
theorem sameHandlers_shiftBackups (name : String) (i : ℕ) :
    o.SameHandlers (o.shiftBackups name i) := by
  induction i generalizing o with
  | zero => exact .refl o
  | succ i ih => exact (sameHandlers_rename _ _).trans ih

/-- Neither does moving a full file away. -/
theorem sameHandlers_rotate (name : String) (backups : ℕ) :
    o.SameHandlers (o.rotate name backups) := by
  unfold rotate
  cases backups with
  | zero => exact .refl o
  | succ n =>
    have hmoved := sameHandlers_shiftBackups (o := o) name n
    dsimp only
    split
    · exact hmoved.trans (sameHandlers_rename _ _)
    · exact ⟨hmoved.issued, hmoved.closed⟩

/-- Neither does appending a line to a file. -/
theorem sameHandlers_writeFile (handler : ℕ) (name line : String) :
    o.SameHandlers (o.writeFile handler name line) :=
  ⟨(sameHandlers_stream handler name).issued, (sameHandlers_stream handler name).closed⟩

/-- Neither does a line for a file that is rotated. -/
theorem sameHandlers_writeRotating (handler : ℕ) (name : String) (limit backups : Value)
    (line : String) : o.SameHandlers (o.writeRotating handler name limit backups line) := by
  have hstream := sameHandlers_stream (o := o) handler name
  have hreleased : o.SameHandlers ((o.stream handler name).2.release handler) :=
    ⟨hstream.issued, hstream.closed⟩
  unfold writeRotating
  dsimp only
  split
  · split
    · split
      · exact hreleased
      · exact hreleased.trans ((sameHandlers_rotate _ _).trans (sameHandlers_writeFile _ _ _))
    · exact hreleased
  · exact ⟨hstream.issued, hstream.closed⟩

/-- Writing hands out no handler and closes none. -/
theorem sameHandlers_write (h : Handler) (line : String) : o.SameHandlers (o.write h line).2 := by
  unfold write
  split
  · exact ⟨rfl, rfl⟩
  · split
    · exact .refl o
    · exact sameHandlers_writeFile _ _ _
  · split
    · exact .refl o
    · exact sameHandlers_writeRotating _ _ _ _ _

/-- Neither does a record without a line. -/
theorem sameHandlers_openFor (h : Handler) : o.SameHandlers (o.openFor h).2 := by
  unfold openFor
  split
  · exact .refl o
  · split
    · exact .refl o
    · exact sameHandlers_stream _ _
  · split
    · exact .refl o
    · exact sameHandlers_stream _ _

/-- What one turn to a handler keeps, several turns do. -/
theorem inTurn_keeps {R : Outlets → Outlets → Prop} (hrefl : ∀ o, R o o)
    (htrans : ∀ {o o' o''}, R o o' → R o' o'' → R o o'')
    {turn : Outlets → Handler → Except Fault Unit × Outlets}
    (hturn : ∀ (o : Outlets) h, R o (turn o h).2) (hs : List Handler) (o : Outlets) :
    R o (o.inTurn turn hs).2 := by
  induction hs generalizing o with
  | nil => exact hrefl o
  | cons h hs ih =>
    have hfirst := hturn o h
    unfold inTurn
    split <;> rename_i hdone <;> rw [hdone] at hfirst
    · exact hfirst
    · exact htrans hfirst (ih _)

/-- Neither do several turns to handlers, if one does not. -/
theorem sameHandlers_inTurn {turn : Outlets → Handler → Except Fault Unit × Outlets}
    (hturn : ∀ (o : Outlets) h, o.SameHandlers (turn o h).2) (hs : List Handler) :
    o.SameHandlers (o.inTurn turn hs).2 :=
  inTurn_keeps SameHandlers.refl SameHandlers.trans hturn hs o

/-- Neither does making the folders of a path. -/
theorem sameHandlers_makeParts (lead : String) (done parts : List String) :
    o.SameHandlers (makeParts lead done parts o).2 := by
  induction parts generalizing done o with
  | nil => exact .refl o
  | cons part rest ih =>
    unfold makeParts
    dsimp only
    split
    · exact .refl o
    · split
      · exact .refl o
      · exact ⟨(ih _).issued, (ih _).closed⟩

/-- Making the folders that lead to a file hands out no handler and closes none. -/
theorem sameHandlers_makeFolders (path : String) : o.SameHandlers (o.makeFolders path).2 := by
  unfold makeFolders
  dsimp only
  split
  · exact .refl o
  · split
    · exact .refl o
    · exact sameHandlers_makeParts _ _ _

/-- Whether folders can be made depends on the names of the files only. -/
theorem makeParts_congr (lead : String) (done parts : List String) (h : o.names = o'.names) :
    (makeParts lead done parts o).1 = (makeParts lead done parts o').1 := by
  induction parts generalizing done o o' with
  | nil => rfl
  | cons part rest ih =>
    unfold makeParts
    dsimp only
    rw [h]
    split
    · rfl
    · split
      · rfl
      · exact ih _ rfl

/-- Whether the folders that lead to a file can be made depends on the names of the files only. -/
theorem makeFolders_congr (path : String) (h : o.names = o'.names) :
    (o.makeFolders path).1 = (o'.makeFolders path).1 := by
  unfold makeFolders
  dsimp only
  split
  · rfl
  · split
    · rfl
    · exact makeParts_congr _ _ _ h

/-- Handlers that are closed one after another have all been closed. -/
theorem closed_closeAll (hs : List Handler) (o : Outlets) :
    (hs.foldl close o).closed = (hs.map Handler.number).reverse ++ o.closed := by
  induction hs generalizing o with
  | nil => rfl
  | cons h hs ih =>
    rw [List.foldl_cons, ih, List.map_cons, List.reverse_cons, List.append_assoc]
    rfl

/-- Closing handlers hands out none. -/
theorem issued_closeAll (hs : List Handler) (o : Outlets) :
    (hs.foldl close o).issued = o.issued := by
  induction hs generalizing o with
  | nil => rfl
  | cons h hs ih => exact ih (o.close h)

/-- Closing handlers leaves the names of the files. -/
theorem names_closeAll (hs : List Handler) (o : Outlets) :
    (hs.foldl close o).names = o.names := by
  induction hs generalizing o with
  | nil => rfl
  | cons h hs ih => exact ih (o.close h)

/-! ## Texts that stay -/

/-- Nothing is written: the console and all files have the same texts. -/
structure SameTexts (o o' : Outlets) : Prop where
  console : o'.console = o.console
  content : ∀ file, o'.content file = o.content file

/-- The texts stay where nothing happens. -/
theorem SameTexts.refl (o : Outlets) : o.SameTexts o := ⟨rfl, fun _ => rfl⟩

/-- They stay over two things that leave them. -/
theorem SameTexts.trans (h : o.SameTexts o') (h' : o'.SameTexts o'') : o.SameTexts o'' :=
  ⟨h'.console.trans h.console, fun file => (h'.content file).trans (h.content file)⟩

end Outlets

/-! ## Handlers that are made -/

/-- Handlers are made for their targets, in order. -/
theorem targets_makeHandlers (ts : List Target) (o : Outlets) :
    (makeHandlers ts o).1.map Handler.target = ts := by
  induction ts generalizing o with
  | nil => rfl
  | cons t ts ih => exact congrArg (t :: ·) (ih _)

/-- Handlers are numbered in the order in which they are made. -/
theorem numbers_makeHandlers (ts : List Target) (o : Outlets) :
    (makeHandlers ts o).1.map Handler.number
      = List.range' o.issued (makeHandlers ts o).1.length := by
  induction ts generalizing o with
  | nil => rfl
  | cons t ts ih => exact congrArg (o.issued :: ·) (ih (o.newHandler t).2)

/-- As many handlers are handed out as are made. -/
theorem issued_makeHandlers (ts : List Target) (o : Outlets) :
    (makeHandlers ts o).2.issued = o.issued + (makeHandlers ts o).1.length := by
  induction ts generalizing o with
  | nil => rfl
  | cons t ts ih =>
    have hrest := ih (o.newHandler t).2
    have hnext : (o.newHandler t).2.issued = o.issued + 1 := rfl
    change (makeHandlers ts (o.newHandler t).2).2.issued
      = o.issued + ((makeHandlers ts (o.newHandler t).2).1.length + 1)
    omega

/-- Making handlers closes none. -/
theorem closed_makeHandlers (ts : List Target) (o : Outlets) :
    (makeHandlers ts o).2.closed = o.closed := by
  induction ts generalizing o with
  | nil => rfl
  | cons t ts ih => exact ih (o.newHandler t).2

end SqlComposer.Log
