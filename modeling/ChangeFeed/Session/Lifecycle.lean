/-
  ChangeFeed.Session.Lifecycle — opening and closing readers and sources.

  A reader installs its listener when it is opened.  When it is closed it
  takes that listener out again, unless another one has been installed above
  it; then it stays as a mere passage.  What is installed in its place is the
  first listener below it that does not belong to a closed reader.

  Main results:
    * `reader?_opened` — a new reader is found under the next serial.
    * `closedFlags_opened` — opening adds an open reader and closes none.
    * `closedFlags_closeReader` — closing closes one reader and no other.
-/

import ChangeFeed.Session.Step

namespace ChangeFeed.Session

variable {R : Roles}

/-! ## §1. Readers. -/

/-- How long a step waits for a message unless anybody says otherwise. -/
def defaultTimeout : Timeout := .real .one

/-- A reader as it is opened on a source with the listener `below`. -/
def newReader (name : String) (timeout : Option Timeout) (below : Listener) : Reader R :=
  ⟨name, timeout, .raw, .raw, .ignore, .ignore, .empty, false, below⟩

/-- The session with one more reader, whose listener is installed. -/
def opened (s : Session R) (name : String) (timeout : Option Timeout) : Session R :=
  { s with
    readers := s.readers ++ [newReader name timeout s.installed]
    installed := .reader s.readers.length s.installed }

theorem reader?_opened (s : Session R) (name : String) (timeout : Option Timeout) :
    (s.opened name timeout).reader? s.readers.length =
      some (newReader name timeout s.installed) := by
  simp [opened, reader?]

/-- Which readers are closed, by serial. -/
def closedFlags (s : Session R) : List Bool := s.readers.map Reader.closed

theorem isClosed_iff_closedFlags (s : Session R) (serial : Nat) :
    s.isClosed serial = true ↔ s.closedFlags[serial]? = some true := by
  simp [isClosed, reader?, closedFlags, Option.any_eq_true]

/-- **Opening** adds an open reader behind the others and closes none. -/
theorem closedFlags_opened (s : Session R) (name : String) (timeout : Option Timeout) :
    (s.opened name timeout).closedFlags = s.closedFlags ++ [false] := by
  simp [closedFlags, opened, newReader]

/-- Opens a reader and gives its serial. -/
def openReader (name : String) (timeout : Option Timeout) : Action R Nat := do
  let s ← get
  set (s.opened name timeout)
  pure s.readers.length

/-- The session with one reader closed. -/
def markClosed (s : Session R) (serial : Nat) : Session R :=
  s.modifyReader serial ({ · with closed := true })

theorem reader?_markClosed (s : Session R) (serial i : Nat) :
    (s.markClosed serial).reader? i =
      if serial = i then (s.reader? i).map ({ · with closed := true }) else s.reader? i :=
  reader?_modifyReader s serial i _

/-- The listener that takes the place of a reader's when it is closed. -/
def successor (s : Session R) (serial : Nat) : Listener :=
  (((s.reader? serial).map Reader.below).getD .nobody).live s.isClosed

/-- The session after a reader is closed.  A second time changes nothing. -/
def closeReader (s : Session R) (serial : Nat) : Session R :=
  if s.isClosed serial then s
  else
    let s := s.markClosed serial
    if s.installed.serial? = some serial then { s with installed := s.successor serial }
    else
      s.enterLog (.plain .debug readerLogger
        "Assignment listener was replaced, leaving pass-through in place" none)

theorem closeReader_of_isClosed {s : Session R} {serial : Nat} (h : s.isClosed serial = true) :
    s.closeReader serial = s := by
  simp [closeReader, h]

/-- A closed reader stays as it is when it is marked as closed. -/
theorem readers_markClosed_of_isClosed {s : Session R} {serial : Nat}
    (h : s.isClosed serial = true) : (s.markClosed serial).readers = s.readers := by
  refine List.ext_getElem? fun i => ?_
  show (s.markClosed serial).reader? i = s.reader? i
  rw [reader?_markClosed]
  split
  · next heq =>
    subst heq
    obtain ⟨r, hr, hclosed⟩ := (Option.any_eq_true _ _).1 h
    rw [hr, Option.map_some, ← hclosed]
  · rfl

/-- Whether its listener is installed or not makes no difference to the
    readers. -/
theorem readers_closeReader (s : Session R) (serial : Nat) :
    (s.closeReader serial).readers = (s.markClosed serial).readers := by
  unfold closeReader
  split
  · next h => exact (readers_markClosed_of_isClosed h).symm
  · simp only
    split
    · rfl
    · exact readers_enterLog _ _

/-- **Closing** closes that reader, if there is one, and no other. -/
theorem closedFlags_closeReader (s : Session R) (serial : Nat) :
    (s.closeReader serial).closedFlags = s.closedFlags.set serial true := by
  refine List.ext_getElem? fun i => ?_
  rw [closedFlags, closedFlags, readers_closeReader, List.getElem?_map, List.getElem?_set,
    List.length_map]
  show ((s.markClosed serial).reader? i).map Reader.closed = _
  rw [reader?_markClosed]
  by_cases heq : serial = i
  · subst heq
    by_cases hlt : serial < s.readers.length <;> simp [reader?, hlt]
  · simp [heq, reader?]

theorem length_closeReader (s : Session R) (serial : Nat) :
    (s.closeReader serial).readers.length = s.readers.length := by
  rw [readers_closeReader, markClosed, modifyReader, List.length_modify]

theorem isClosed_closeReader {s : Session R} {serial i : Nat} :
    (s.closeReader serial).isClosed i = true ↔
      s.isClosed i = true ∨ (serial = i ∧ i < s.readers.length) := by
  rw [isClosed_iff_closedFlags, isClosed_iff_closedFlags, closedFlags_closeReader,
    List.getElem?_set]
  by_cases heq : serial = i
  · subst heq
    by_cases hlt : serial < s.readers.length <;> simp [closedFlags, hlt]
  · simp [heq]

/-- Installs a listener on the source. -/
def install (s : Session R) (listener : Listener) : Session R :=
  { s with installed := listener }

/-! ## §2. Sources. -/

/-- Tells the consumer which topics to read. -/
def subscribe (E : Environment R) (topics : List String) : Action R Unit := do
  Action.log (.plain .info sourceLogger ("Subscribing to " ++ Text.join ", " topics) none)
  Action.record (.subscribe topics)
  E.onSubscribe topics
  modify fun s =>
    match s.feed with
    | .direct => s
    | .consumer c => { s with feed := .consumer { c with subscribed := true } }

/-- Closes the source, and with it the consumer if the source owns it. -/
def closeSource (E : Environment R) : Action R Unit := do
  match (← get).feed with
  | .direct => pure ()
  | .consumer c =>
    if c.owned then do
      Action.log (.plain .info sourceLogger "Closing the consumer" none)
      Action.record .closeConsumer
      E.onClose
    else pure ()

end ChangeFeed.Session
