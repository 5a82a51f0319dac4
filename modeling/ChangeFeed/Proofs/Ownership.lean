/-
  ChangeFeed.Proofs.Ownership — whose listener is installed.

  Readers are opened and closed in any order, by whoever uses them and by user
  code that is called in between.  As long as nobody else installs listeners,
  the one that is installed belongs to the reader that was opened last among
  those that are open; when all are closed, it is the one that was there
  before any of them.

  Main results:
    * `StackOn.owned` — who owns the source, however a stack came about.
    * `Usage.evolves` — whatever is done with readers comes to opening and
      closing some of them.
    * `StackOn.installed_closeAll` — when all are closed, the listener from
      before is installed again.
    * `owned_after_usage` — who owns the source after any use of it, and which
      readers are open.
-/

import ChangeFeed.Proofs.Dispatch
import ChangeFeed.Proofs.Framing

namespace ChangeFeed

variable {R : Roles}

namespace Session

/-! ## §1. The rightful listener. -/

/-- The serials of the open readers among the first `n`, in order. -/
def openSerials (s : Session R) (n : Nat) : List Nat := (List.range n).filter fun i => !s.isClosed i

/-- The listener of a reader. -/
def listenerOf (s : Session R) (serial : Nat) : Listener :=
  .reader serial (((s.reader? serial).map Reader.below).getD .nobody)

/-- The listener of the reader that was opened last among those that are open;
    `base` if none is. -/
def rightful (s : Session R) (base : Listener) : Listener :=
  ((s.openSerials s.readers.length).getLast?.map s.listenerOf).getD base

/-- Whose listener is installed on a source that had the listener `base`. -/
structure Owned (base : Listener) (s : Session R) : Prop where
  /-- It is that of the open reader that was opened last. -/
  installed : s.installed = s.rightful base
  /-- When no reader is open, it is the one that was there before. -/
  restored : s.openReaders = [] → s.installed = base
  /-- It does not belong to a closed reader. -/
  unclosed : ∀ i, s.installed.serial? = some i → s.isClosed i = false

theorem openSerials_of_closed {s : Session R} {m n : Nat} (hle : m ≤ n)
    (hclosed : ∀ j, m ≤ j → j < n → s.isClosed j = true) : s.openSerials n = s.openSerials m := by
  induction hle with
  | refl => rfl
  | @step n hle ih =>
    have hn : s.isClosed n = true := hclosed n hle (Nat.lt_succ_self n)
    unfold openSerials at ih ⊢
    rw [List.range_succ, List.filter_append,
      ih fun j hj hlt => hclosed j hj (Nat.lt_succ_of_lt hlt)]
    simp [hn]

/-- An open reader comes last if those opened after it are closed. -/
theorem getLast?_openSerials {s : Session R} {i n : Nat} (hi : i < n)
    (hopen : s.isClosed i = false) (hclosed : ∀ j, i < j → j < n → s.isClosed j = true) :
    (s.openSerials n).getLast? = some i := by
  rw [openSerials_of_closed hi hclosed]
  unfold openSerials
  rw [List.range_succ, List.filter_append]
  simp [hopen]

theorem openReaders_eq_nil {s : Session R} :
    s.openReaders = [] ↔ ∀ j, j < s.readers.length → s.isClosed j = true := by
  unfold openReaders
  rw [List.filter_eq_nil_iff]
  constructor
  · intro h j hj
    have hr : s.reader? j = some s.readers[j] := List.getElem?_eq_getElem hj
    rw [isClosed_of_reader? hr]
    simpa using h _ (List.getElem_mem hj)
  · intro h r hr
    obtain ⟨j, hj, rfl⟩ := List.getElem_of_mem hr
    have hr' : s.reader? j = some s.readers[j] := List.getElem?_eq_getElem hj
    have hclosed := h j hj
    rw [isClosed_of_reader? hr'] at hclosed
    simp [hclosed]

/-! ## §2. Stacks. -/

theorem isClosed_of_sameStack {s t : Session R} (h : SameStack s t) {i : Nat}
    (hi : s.isClosed i = false) : t.isClosed i = false := by
  cases hr : t.reader? i with
  | none => simp [isClosed, hr]
  | some r =>
    obtain ⟨r', hr', -, hclosed⟩ := h.symm.reader? hr
    rw [isClosed_of_reader? hr', hclosed] at hi
    rw [isClosed_of_reader? hr, hi]

/-- The installed listener never belongs to a closed reader. -/
theorem StackOn.unclosed {base : Listener} {s : Session R} (h : StackOn base s) {i : Nat}
    (hi : s.installed.serial? = some i) : s.isClosed i = false := by
  induction h with
  | start hbase _ hinstalled =>
    rw [hinstalled, hbase] at hi
    cases hi
  | @opened s name timeout _ _ =>
    obtain rfl : s.readers.length = i := Option.some.inj hi
    rw [isClosed_of_reader? (reader?_opened s name timeout)]
    rfl
  | @closed s serial _ ih =>
    unfold Session.closeReader at hi ⊢
    split at hi
    · next hclosed =>
      rw [if_pos hclosed]
      exact ih hi
    · next hopen =>
      rw [if_neg hopen]
      simp only at hi ⊢
      split at hi
      -- what takes its place was looked for among those that are not closed
      · next htop =>
        rw [if_pos htop]
        exact Listener.closed_live _ _ i hi
      · next htop =>
        rw [if_neg htop]
        rw [installed_enterLog] at hi
        have hne : serial ≠ i := fun h => htop (h ▸ hi)
        have hsame : ((s.markClosed serial).enterLog (.plain .debug readerLogger
            "Assignment listener was replaced, leaving pass-through in place" none)).isClosed i =
            s.isClosed i := by
          simp only [isClosed, reader?_enterLog, reader?_markClosed, if_neg hne]
        rw [hsame]
        exact ih hi
  | between _ hsame ih =>
    rw [hsame.1] at hi
    exact isClosed_of_sameStack hsame (ih hi)

/-- **Who owns the source**, however the stack of readers came about. -/
theorem StackOn.owned {base : Listener} {s : Session R} (h : StackOn base s) : Owned base s := by
  have hunclosed : ∀ i, s.installed.serial? = some i → s.isClosed i = false :=
    fun _ hi => h.unclosed hi
  have hspine := h.upright.installed
  generalize hl : s.installed = listener at hspine
  rw [hl] at hunclosed
  cases hspine with
  | base hclosed =>
    refine ⟨?_, fun _ => hl, fun i hi => hunclosed i (hl ▸ hi)⟩
    have hnone : s.openSerials s.readers.length = [] :=
      openSerials_of_closed (Nat.zero_le _) fun j _ => hclosed j
    rw [hl, rightful, hnone]
    rfl
  | @reader i _ r hi hr hclosed hbelow =>
    -- the spine goes through an open reader first, so that one was opened last
    have hopen : s.isClosed i = false := hunclosed i rfl
    refine ⟨?_, fun hnone => ?_, fun j hj => hunclosed j (hl ▸ hj)⟩
    · rw [hl, rightful, getLast?_openSerials hi hopen hclosed]
      simp [listenerOf, hr]
    · rw [openReaders_eq_nil.1 hnone i hi] at hopen
      cases hopen

/-! ## §3. What becomes of readers. -/

/-- What may happen to the readers of a source. -/
inductive Change where
  | opened
  | closed (serial : Nat)
deriving DecidableEq, Repr

/-- Which readers are closed after a change. -/
def Change.mark (flags : List Bool) : Change → List Bool
  | .opened => flags ++ [false]
  | .closed serial => flags.set serial true

/-- What becomes of a session by opening readers and closing them, and by
    whatever touches neither readers' places nor the listener. -/
inductive Evolves (s : Session R) : List Change → Session R → Prop where
  | start : Evolves s [] s
  | opened {t : Session R} {changes : List Change} (name : String) (timeout : Option Timeout)
    (h : Evolves s changes t) : Evolves s (changes ++ [.opened]) (t.opened name timeout)
  | closed {t : Session R} {changes : List Change} (serial : Nat) (h : Evolves s changes t) :
    Evolves s (changes ++ [.closed serial]) (t.closeReader serial)
  | between {t u : Session R} {changes : List Change} (h : Evolves s changes t)
    (hsame : SameStack t u) : Evolves s changes u

theorem closedFlags_of_sameStack {s t : Session R} (h : SameStack s t) :
    t.closedFlags = s.closedFlags := by
  simpa [closedFlags, Function.comp_def] using congrArg (List.map Prod.snd) h.2

namespace Evolves

variable {s t u : Session R} {changes more : List Change}

theorem stackOn {base : Listener} (h : Evolves s changes t) (hs : StackOn base s) :
    StackOn base t := by
  induction h with
  | start => exact hs
  | opened name timeout _ ih => exact .opened name timeout ih
  | closed serial _ ih => exact .closed serial ih
  | between _ hsame ih => exact .between ih hsame

theorem trans (h : Evolves s changes t) (hmore : Evolves t more u) :
    Evolves s (changes ++ more) u := by
  induction hmore with
  | start => rwa [List.append_nil]
  | opened name timeout _ ih =>
    rw [← List.append_assoc]
    exact .opened name timeout ih
  | closed serial _ ih =>
    rw [← List.append_assoc]
    exact .closed serial ih
  | between _ hsame ih => exact .between ih hsame

/-- **Which readers are closed** is told by what was opened and closed. -/
theorem closedFlags (h : Evolves s changes t) :
    t.closedFlags = changes.foldl Change.mark s.closedFlags := by
  induction h with
  | start => rfl
  | opened name timeout _ ih =>
    rw [closedFlags_opened, List.foldl_append, ih]
    rfl
  | closed serial _ ih =>
    rw [closedFlags_closeReader, List.foldl_append, ih]
    rfl
  | between _ hsame ih => rw [closedFlags_of_sameStack hsame, ih]

end Evolves

/-- A reader that is there stays, and a closed one stays closed. -/
theorem Change.closed_of_mark {flags : List Bool} (changes : List Change) {i : Nat} {b : Bool}
    (h : flags[i]? = some b) :
    ∃ b', (changes.foldl mark flags)[i]? = some b' ∧ (b = true → b' = true) := by
  induction changes generalizing flags b with
  | nil => exact ⟨b, h, id⟩
  | cons change rest ih =>
    have hstep : ∃ b', (mark flags change)[i]? = some b' ∧ (b = true → b' = true) := by
      obtain ⟨hlt, hb⟩ := List.getElem?_eq_some_iff.1 h
      cases change with
      | opened => exact ⟨b, (List.getElem?_append_left hlt).trans h, id⟩
      | closed serial =>
        rw [mark, List.getElem?_set]
        split
        · next heq => exact ⟨true, by rw [heq, if_pos hlt], fun _ => rfl⟩
        · exact ⟨b, h, id⟩
    obtain ⟨b₁, h₁, hkept⟩ := hstep
    obtain ⟨b₂, h₂, hkept'⟩ := ih h₁
    exact ⟨b₂, h₂, hkept' ∘ hkept⟩

end Session

/-! ## §4. Uses of a source. -/

/-- All user code keeps to a relation between sessions. -/
structure Environment.Keeps (E : Environment R) (Rel : Session R → Session R → Prop) : Prop where
  decodeKey : ∀ d data, Kept Rel (E.decodeKey d data).run
  decodeValue : ∀ d key data, Kept Rel (E.decodeValue d key data).run
  onEvent : ∀ h e, Kept Rel (E.onEvent h e).run
  onError : ∀ h m code, Kept Rel (E.onError h m code).run
  onAssignment : ∀ name a, Kept Rel (E.onAssignment name a)
  onSubscribe : ∀ topics, Kept Rel (E.onSubscribe topics).run
  onAssign : ∀ a, Kept Rel (E.onAssign a).run

/-- No user code installs a listener: it may open readers and close them, and
    do whatever touches neither.  That is only asked of it where the readers
    stand as they should, which is wherever it is called. -/
def Environment.Abstains (base : Listener) (E : Environment R) : Prop :=
  E.Keeps fun s t => Session.StackOn base s → ∃ changes, Session.Evolves s changes t

namespace Session

/-- The source delivers an assignment to whoever listens. -/
def deliver (E : Environment R) (a : Assignment) : Action R Notified := do
  notify E (← get).installed a

/-- A reader is opened for a block and closed at its end, however that is
    reached. -/
def within {α : Type} (name : String) (timeout : Option Timeout) (body : Nat → Action R α) :
    Action R α := do
  let serial ← openReader name timeout
  Action.andFinally (body serial) (modify (·.closeReader serial))

/-- What may be done with a source besides opening and closing readers: they
    take steps, the source is polled and delivers assignments. -/
inductive Passive (E : Environment R) : {α : Type} → Action R α → Prop where
  | stepping (serial : Nat) (timeout : Option Timeout) (turn : Turn) :
    Passive E (step E serial timeout turn)
  | polling (timeout : Option Timeout) (turn : Turn) : Passive E (poll E timeout turn)
  | delivering (a : Assignment) : Passive E (deliver E a)
  | subscribing (topics : List String) : Passive E (subscribe E topics)
  /-- Anything that touches neither readers' places nor the listener. -/
  | other {α : Type} {act : Action R α} (h : ∀ s, SameStack s (act.run s).2) : Passive E act

/-- What may be done with a source by whoever installs no listener.  Of such
    actions others are made in whatever way. -/
inductive Usage (E : Environment R) : {α : Type} → Action R α → Prop where
  | opening (name : String) (timeout : Option Timeout) : Usage E (openReader name timeout)
  | closing (serial : Nat) : Usage E (modify (·.closeReader serial))
  | passive {α : Type} {act : Action R α} (h : Passive E act) : Usage E act
  | bind {α β : Type} {act : Action R α} {next : α → Action R β} (h : Usage E act)
    (hnext : ∀ a, Usage E (next a)) : Usage E (act >>= next)
  | attempt {α : Type} {act : Action R α} (h : Usage E act) : Usage E (Action.attempt act)
  | andFinally {α : Type} {act : Action R α} {cleanUp : Action R Unit} (h : Usage E act)
    (hcleanUp : Usage E cleanUp) : Usage E (Action.andFinally act cleanUp)

theorem Usage.within {E : Environment R} {α : Type} {body : Nat → Action R α} (name : String)
    (timeout : Option Timeout) (h : ∀ serial, Usage E (body serial)) :
    Usage E (within name timeout body) :=
  .bind (.opening name timeout) fun serial => .andFinally (h serial) (.closing serial)

theorem sameStack_modifyReader (s : Session R) (serial : Nat) (change : Reader R → Reader R)
    (h : ∀ r, (change r).place = r.place) : SameStack s (s.modifyReader serial change) := by
  have hplaces := congrArg (List.map fun place => (place.1, place.2.1))
    (s.places_modifyReader serial h)
  rw [List.map_map, List.map_map] at hplaces
  exact ⟨rfl, hplaces⟩

/-- A relation that user code keeps to, and that does not tell sessions with the
    same stack apart, is kept to by all that readers do. -/
theorem framing_of_keeps {E : Environment R} {Rel : Session R → Session R → Prop}
    (hE : E.Keeps Rel) (htrans : ∀ {s t u}, Rel s t → Rel t u → Rel s u)
    (hsame : ∀ {s t}, SameStack s t → Rel s t) : Framing E Rel where
  refl _ := hsame ⟨rfl, rfl⟩
  trans := htrans
  enter _ _ _ := hsame ⟨rfl, rfl⟩
  change s serial f h := hsame (sameStack_modifyReader s serial f h)
  subscribed _ _ _ := hsame ⟨rfl, rfl⟩
  decodeKey := hE.decodeKey
  decodeValue := hE.decodeValue
  onEvent := hE.onEvent
  onError := hE.onError
  onAssignment := hE.onAssignment
  onSubscribe := hE.onSubscribe
  onAssign := hE.onAssign

theorem Passive.kept {E : Environment R} {Rel : Session R → Session R → Prop}
    (hE : E.Keeps Rel) (htrans : ∀ {s t u}, Rel s t → Rel t u → Rel s u)
    (hsame : ∀ {s t}, SameStack s t → Rel s t) {α : Type} {act : Action R α}
    (h : Passive E act) : Kept Rel act.run := by
  have hF := framing_of_keeps hE htrans hsame
  -- asking the source for a message is but an entry in the journal
  have hask : ∀ s o, Rel s (s.enter o) := fun _ _ => hsame ⟨rfl, rfl⟩
  cases h with
  | stepping serial timeout turn =>
    exact fun s => htrans (hask s _) (hF.step serial timeout turn s)
  | polling timeout turn => exact fun s => htrans (hask s _) (hF.poll timeout turn s)
  | delivering a => exact fun s => hF.notify s.installed a s
  | subscribing topics => exact hF.subscribe topics
  | other h => exact fun s => hsame (h s)

/-- **Whatever is done with readers comes to opening and closing some of them.**
    The induction is on how the action is made. -/
theorem Usage.evolves {base : Listener} {E : Environment R} (hE : E.Abstains base) {α : Type}
    {act : Action R α} (h : Usage E act) :
    Kept (fun s t => StackOn base s → ∃ changes, Evolves s changes t) act.run := by
  have htrans : ∀ {s t u : Session R}, (StackOn base s → ∃ changes, Evolves s changes t) →
      (StackOn base t → ∃ changes, Evolves t changes u) →
      StackOn base s → ∃ changes, Evolves s changes u := by
    intro s t u hst htu hs
    obtain ⟨changes, ht⟩ := hst hs
    obtain ⟨more, hu⟩ := htu (ht.stackOn hs)
    exact ⟨changes ++ more, ht.trans hu⟩
  have hsame : ∀ {s t : Session R}, SameStack s t →
      StackOn base s → ∃ changes, Evolves s changes t :=
    fun h _ => ⟨[], .between .start h⟩
  have hF := framing_of_keeps hE htrans hsame
  induction h with
  | opening name timeout => exact fun s _ => ⟨_, .opened name timeout .start⟩
  | closing serial => exact fun s _ => ⟨_, .closed serial .start⟩
  | passive h => exact h.kept hE htrans hsame
  | bind _ _ ih ihnext => exact hF.bind ih ihnext
  | attempt _ ih => exact fun s => ih s
  | andFinally _ _ ih ihcleanUp => exact hF.andFinally ih ihcleanUp

/-- What opening and closing does on a session that has come of `s`, and that
    nothing else opens or closes a reader. -/
structure Tallied (E : Environment R) (s t : Session R) : Prop where
  /-- Which readers are closed is told by what was opened and closed so far. -/
  changes : ∃ changes, Evolves s changes t ∧ t.closedFlags = changes.foldl Change.mark s.closedFlags
  /-- Opening adds an open reader, of which the listener is installed. -/
  opening : ∀ name timeout, ∃ u, (openReader name timeout).run t = (.ok t.readers.length, u) ∧
    u.closedFlags = t.closedFlags ++ [false] ∧ u.installed = .reader t.readers.length t.installed
  /-- Closing closes that reader and no other. -/
  closing : ∀ serial, ∃ u, (modify (·.closeReader serial) : Action R Unit).run t = (.ok (), u) ∧
    u.closedFlags = t.closedFlags.set serial true
  /-- Closing a reader again changes nothing. -/
  closingAgain : ∀ serial, t.isClosed serial = true → t.closeReader serial = t
  /-- A block ends as its body does, and however that is, its reader is closed
      by then. -/
  leaving : ∀ {α : Type} (name : String) (timeout : Option Timeout) (body : Nat → Action R α),
    (∀ serial, Usage E (body serial)) →
    ((within name timeout body).run t).1 = ((body t.readers.length).run (t.opened name timeout)).1 ∧
      ((within name timeout body).run t).2.isClosed t.readers.length = true
  /-- A closed reader stays closed. -/
  lasting : ∀ {α : Type} {later : Action R α}, Usage E later → ∀ i, t.isClosed i = true →
    (later.run t).2.isClosed i = true
  /-- Whatever else is done opens and closes no readers but those that user
      code does: what it keeps to is kept to. -/
  elsewhere : ∀ Rel : List Bool → List Bool → Prop, (∀ flags, Rel flags flags) →
    (∀ {f g h}, Rel f g → Rel g h → Rel f h) →
    E.Keeps (fun u v => Rel u.closedFlags v.closedFlags) →
    ∀ {α : Type} {later : Action R α}, Passive E later →
      Rel t.closedFlags (later.run t).2.closedFlags

/-- A reader that is there stays, and a closed one stays closed. -/
theorem Evolves.reader_kept {s t : Session R} {changes : List Change} (h : Evolves s changes t)
    {i : Nat} {b : Bool} (hi : s.closedFlags[i]? = some b) :
    ∃ b', t.closedFlags[i]? = some b' ∧ (b = true → b' = true) := by
  rw [h.closedFlags]
  exact Change.closed_of_mark changes hi

theorem Usage.isClosed {base : Listener} {E : Environment R} (hE : E.Abstains base) {α : Type}
    {act : Action R α} (h : Usage E act) {s : Session R} (hs : StackOn base s) {i : Nat}
    (hi : s.isClosed i = true) : (act.run s).2.isClosed i = true := by
  obtain ⟨changes, hevolves⟩ : ∃ changes, Evolves s changes (act.run s).2 := h.evolves hE s hs
  obtain ⟨b, hb, hkept⟩ := hevolves.reader_kept ((isClosed_iff_closedFlags s i).1 hi)
  rw [isClosed_iff_closedFlags, hb, hkept rfl]

/-- What a block comes to. -/
theorem run_within {α : Type} (name : String) (timeout : Option Timeout)
    (body : Nat → Action R α) (s : Session R) :
    (within name timeout body).run s =
      (((body s.readers.length).run (s.opened name timeout)).1,
        ((body s.readers.length).run (s.opened name timeout)).2.closeReader s.readers.length) := by
  show (Action.andFinally (body s.readers.length)
    (modify (·.closeReader s.readers.length))).run (s.opened name timeout) = _
  rw [Action.run_andFinally, Action.run_modify]

theorem isClosed_within {base : Listener} {E : Environment R} (hE : E.Abstains base) {α : Type}
    {body : Nat → Action R α} (h : ∀ serial, Usage E (body serial)) {s : Session R}
    (hs : StackOn base s) (name : String) (timeout : Option Timeout) :
    ((within name timeout body).run s).2.isClosed s.readers.length = true := by
  rw [run_within]
  -- the reader of the block is still there when the body has ended
  obtain ⟨changes, hevolves⟩ : ∃ changes, Evolves (s.opened name timeout) changes
      ((body s.readers.length).run (s.opened name timeout)).2 :=
    (h s.readers.length).evolves hE (s.opened name timeout) (.opened name timeout hs)
  have hnew : (s.opened name timeout).closedFlags[s.readers.length]? = some false := by
    rw [closedFlags_opened]
    simp [Session.closedFlags]
  obtain ⟨b, hb, -⟩ := hevolves.reader_kept hnew
  have hlt : s.readers.length <
      ((body s.readers.length).run (s.opened name timeout)).2.readers.length := by
    simpa [Session.closedFlags] using (List.getElem?_eq_some_iff.1 hb).1
  exact isClosed_closeReader.2 (.inr ⟨rfl, hlt⟩)

theorem tallied {base : Listener} {E : Environment R} (hE : E.Abstains base) {s t : Session R}
    (hs : StackOn base s) (h : ∃ changes, Evolves s changes t) : Tallied E s t := by
  obtain ⟨changes, hevolves⟩ := h
  have ht := hevolves.stackOn hs
  exact {
    changes := ⟨changes, hevolves, hevolves.closedFlags⟩
    opening := fun name timeout =>
      ⟨t.opened name timeout, rfl, closedFlags_opened t name timeout, rfl⟩
    closing := fun serial => ⟨t.closeReader serial, rfl, closedFlags_closeReader t serial⟩
    closingAgain := fun _ hclosed => closeReader_of_isClosed hclosed
    leaving := fun name timeout body hbody =>
      ⟨by rw [run_within], isClosed_within hE hbody ht name timeout⟩
    lasting := fun hlater _ hi => hlater.isClosed hE ht hi
    elsewhere := fun Rel hrefl htrans hkeeps _ later hlater => by
      have hsame : ∀ {u v : Session R}, SameStack u v → Rel u.closedFlags v.closedFlags :=
        fun h => by rw [closedFlags_of_sameStack h]; exact hrefl _
      have hkept : Kept (fun u v : Session R => Rel u.closedFlags v.closedFlags) later.run :=
        hlater.kept hkeeps htrans hsame
      exact hkept t }

/-- Closes readers one after the other. -/
def closeAll (s : Session R) (order : List Nat) : Session R := order.foldl closeReader s

/-- **When all readers are closed, in whatever order**, the source has the
    listener back that it had before any of them. -/
theorem StackOn.installed_closeAll {base : Listener} {s : Session R} (hs : StackOn base s)
    {order : List Nat}
    (h : ∀ i, i < s.readers.length → s.isClosed i = false → i ∈ order) :
    (s.closeAll order).installed = base := by
  induction order generalizing s with
  | nil =>
    have hclosed : s.openReaders = [] := openReaders_eq_nil.2 fun j hj => by
      cases hopen : s.isClosed j with
      | true => rfl
      | false => exact absurd (h j hj hopen) List.not_mem_nil
    exact hs.owned.restored hclosed
  | cons serial rest ih =>
    -- whoever is open after the first one is closed is still to come
    refine ih (.closed serial hs) fun i hi hopen => ?_
    rw [length_closeReader] at hi
    have hnot : ¬ (s.isClosed i = true ∨ serial = i ∧ i < s.readers.length) := by
      rw [← isClosed_closeReader, hopen]
      exact Bool.false_ne_true
    have hopen' : s.isClosed i = false := Bool.eq_false_iff.2 fun hc => hnot (.inl hc)
    rcases List.mem_cons.1 (h i hi hopen') with rfl | hmem
    · exact absurd (.inr ⟨rfl, hi⟩) hnot
    · exact hmem

/-- **Who owns a source after any use of it.**  The source has no readers at
    first and a listener that is no reader's, or none.  After readers have
    been opened and closed in any order and have taken any steps, the installed
    listener is that of the reader opened last among those that are open, and
    the one of the beginning if none is.  Which ones are open is told by what
    was opened and closed, blocks that were left included; when those that are
    left are closed too, in whatever order, the listener of the beginning is
    installed again. -/
theorem owned_after_usage {base : Listener} {E : Environment R} (hE : E.Abstains base)
    {s : Session R} (hbase : base.serial? = none) (hreaders : s.readers = [])
    (hinstalled : s.installed = base) {α : Type} {act : Action R α} (hact : Usage E act) :
    Owned base (act.run s).2 ∧ Tallied E s (act.run s).2 ∧
      ∀ order : List Nat,
        (∀ i, i < (act.run s).2.readers.length → (act.run s).2.isClosed i = false → i ∈ order) →
        ((act.run s).2.closeAll order).installed = base := by
  have hs : StackOn base s := .start hbase hreaders hinstalled
  have hevolves := hact.evolves hE s hs
  obtain ⟨changes, ht⟩ := hevolves
  exact ⟨(ht.stackOn hs).owned, tallied hE hs ⟨changes, ht⟩,
    fun order h => (ht.stackOn hs).installed_closeAll h⟩

end Session

/-! ## §5. Two nested blocks. -/

namespace Sample

/-- Handlers close the first reader. -/
def closer : Environment roles :=
  { conduct.environment with onEvent := fun _ _ => modify (·.closeReader 0) }

theorem closer_abstains (base : Listener) : closer.Abstains base := by
  have hown : ∀ {α : Type} (f : Own roles → α × Own roles), Kept (fun s t =>
      Session.StackOn base s → ∃ changes, Session.Evolves s changes t) (Conduct.onOwn f) :=
    fun _ _ _ => ⟨[], .between .start ⟨rfl, rfl⟩⟩
  exact ⟨fun _ _ => hown _, fun _ _ _ => hown _, fun _ _ _ _ => ⟨_, .closed 0 .start⟩,
    fun _ _ _ => hown _, fun _ _ => hown _, fun _ => hown _, fun _ => hown _⟩

/-- In a block within a block, a message is handled by the reader of the inner
    one; its handler closes the reader of the outer one.  The blocks are left
    with a failure. -/
def nestedBlocks : Action roles Unit :=
  Session.within "p" none fun _ => Session.within "q" none fun q => do
    Action.change q ({ · with onEvent := .custom false })
    let _ ← Session.step closer q none
      { Turn.idle with message := some ⟨partition 0, some 3, some [107], none, none⟩ }
    throw (.of (.runtime "left"))

theorem nestedBlocks_usage : Session.Usage closer nestedBlocks := by
  refine .within "p" none fun _ => .within "q" none fun q =>
    .bind (.passive (.other fun s => ?_)) fun _ =>
      .bind (.passive (.stepping q none _)) fun _ => .passive (.other fun _ => ⟨rfl, rfl⟩)
  exact Session.sameStack_modifyReader s q ({ · with onEvent := .custom false }) fun _ => rfl

end Sample

/-- The source is given back after the blocks. -/
theorem owned_after_nestedBlocks :
    Session.Owned (.foreign "audit") (Sample.nestedBlocks.run Sample.audited).2 ∧
      Session.Tallied Sample.closer Sample.audited (Sample.nestedBlocks.run Sample.audited).2 := by
  obtain ⟨howned, htallied, -⟩ := Session.owned_after_usage (s := Sample.audited)
    (Sample.closer_abstains (.foreign "audit")) rfl rfl rfl Sample.nestedBlocks_usage
  exact ⟨howned, htallied⟩

example : (Sample.nestedBlocks.run Sample.audited).2.closedFlags = [true, true] := by rfl

example : (Sample.nestedBlocks.run Sample.audited).2.installed = .foreign "audit" := by rfl

end ChangeFeed
