/-
  ChangeFeed.Proofs.Rounds — the loop of a client, step by step.

  A client takes steps until one of them ends its loop: by the end of that
  step somebody has stopped the client, or the step failed with anything but
  clear notifications that were not delivered.  Every other step is followed
  by the next one.  When the transport has nothing more to deliver it
  interrupts, which ends the loop too.  Nothing is assumed of user code.

  Main results:
    * `round_goesOn`, `round_ends` — what a step does to the loop.
    * `loop_run` — the loop takes steps up to and with the first one that ends
      it.
-/

import ChangeFeed.Client.Basic
import ChangeFeed.Proofs.Polling

namespace ChangeFeed.Client

variable {R : Roles}

/-! ## §1. Steps that end the loop. -/

/-- Does a step end the loop? -/
def Ends (E : Environment R) (serial : Nat) (s : Session R) (turn : Turn) : Prop :=
  ((Session.step E serial none turn).run s).2.running = false ∨
    ∃ e, ((Session.step E serial none turn).run s).1 = .error e ∧
      ∀ ps, e.failure ≠ .clearsUndelivered ps

/-- Does the failure of a step get through to whoever runs the client? -/
def Escapes (e : Raised) : Prop := e.isOrdinary = false ∧ ∀ text, e.failure ≠ .interrupted text

/-- The session after several steps. -/
def rounds (E : Environment R) (serial : Nat) (s : Session R) (turns : List Turn) : Session R :=
  turns.foldl (fun s turn => ((round E serial turn).run s).2) s

/-- What the loop comes to: it takes the steps `taken`, none of which ends it,
    and then the step `last`, which does. -/
structure Looped (E : Environment R) (serial : Nat) (turns : List Turn) (s : Session R)
    (taken : List Turn) (last : Turn) (outcome : Except Raised Unit × Session R) : Prop where
  /-- These are the first things that the transport does. -/
  script : ∃ rest, turns ++ [Turn.interrupt] = taken ++ last :: rest
  goesOn : ∀ before turn after, taken = before ++ turn :: after →
    ¬ Ends E serial (rounds E serial s before) turn
  ends : Ends E serial (rounds E serial s taken) last
  /-- No step is taken after that. -/
  state : outcome.2 = rounds E serial s (taken ++ [last])
  /-- The loop fails if the last step does, and with a failure that is neither
      ordinary nor an interrupt. -/
  fails : ∀ e, outcome.1 = .error e ↔
    ((Session.step E serial none last).run (rounds E serial s taken)).1 = .error e ∧ Escapes e

/-! ## §2. Coping with failures. -/

/-- The three ways of coping with the failure of a step. -/
inductive Coped (e : Raised) (s : Session R) : Except Raised Unit × Session R → Prop where
  /-- It is only logged. -/
  | logged {ps : List Partition} (entry : Log.Entry) (hclears : e.failure = .clearsUndelivered ps)
      (hescapes : ¬ Escapes e) : Coped e s (.ok (), s.enterLog entry)
  /-- It is logged, and the client is stopped. -/
  | stopped (entry : Log.Entry) (hclears : ∀ ps, e.failure ≠ .clearsUndelivered ps)
      (hescapes : ¬ Escapes e) : Coped e s (.ok (), { s.enterLog entry with running := false })
  /-- It gets through. -/
  | escaped (hclears : ∀ ps, e.failure ≠ .clearsUndelivered ps) (hescapes : Escapes e) :
    Coped e s (.error e, s)

theorem cope_run (e : Raised) (s : Session R) : Coped e s ((cope e).run s) := by
  unfold cope
  split
  · next text htext =>
    refine .stopped _ (fun ps hps => ?_) fun h => h.2 text htext
    rw [htext] at hps
    cases hps
  · next ps hps =>
    -- a failure to deliver clear events is an ordinary one
    refine .logged _ hps fun h => ?_
    have hord := h.1
    rw [Raised.isOrdinary, hps] at hord
    cases hord
  · next hinterrupt hclears =>
    cases hord : e.isOrdinary with
    | false => exact .escaped hclears ⟨hord, hinterrupt⟩
    | true =>
      refine .stopped _ hclears fun h => ?_
      rw [h.1] at hord
      cases hord

/-! ## §3. One step of the loop. -/

section

variable {E : Environment R} {serial : Nat} {s s' : Session R} {turn : Turn} {e : Raised}

theorem round_run_ok {event : Option Event}
    (h : (Session.step E serial none turn).run s = (.ok event, s')) :
    (round E serial turn).run s = (.ok (), s') := by
  unfold round
  rw [Action.run_attempt_bind, h]
  rfl

theorem round_run_error (h : (Session.step E serial none turn).run s = (.error e, s')) :
    (round E serial turn).run s = (cope e).run s' := by
  unfold round
  rw [Action.run_attempt_bind, h]

/-- A step fails in the loop if its failure gets through. -/
theorem round_error_iff (E : Environment R) (serial : Nat) (turn : Turn) (s : Session R)
    (e : Raised) : ((round E serial turn).run s).1 = .error e ↔
      ((Session.step E serial none turn).run s).1 = .error e ∧ Escapes e := by
  rcases hstep : (Session.step E serial none turn).run s with ⟨result, s'⟩
  cases result with
  | ok event =>
    rw [round_run_ok hstep]
    simp
  | error f =>
    rw [round_run_error hstep]
    have hcoped := cope_run f s'
    generalize (cope f).run s' = ran at hcoped ⊢
    cases hcoped with
    | logged entry _ hescapes =>
      refine ⟨fun h => (by cases h), ?_⟩
      rintro ⟨⟨⟩, he⟩
      exact absurd he hescapes
    | stopped entry _ hescapes =>
      refine ⟨fun h => (by cases h), ?_⟩
      rintro ⟨⟨⟩, he⟩
      exact absurd he hescapes
    | escaped _ hf =>
      constructor
      · rintro ⟨⟩
        exact ⟨rfl, hf⟩
      · rintro ⟨⟨⟩, -⟩
        rfl

/-- **After a step that does not end the loop the client goes on.** -/
theorem round_goesOn (h : ¬ Ends E serial s turn) :
    ((round E serial turn).run s).1 = .ok () ∧
      ((round E serial turn).run s).2.running = true := by
  unfold Ends at h
  rcases hstep : (Session.step E serial none turn).run s with ⟨result, s'⟩
  rw [hstep] at h
  obtain ⟨hgoing, hnone⟩ := not_or.1 h
  have hrunning : s'.running = true := by simpa using hgoing
  cases result with
  | ok event =>
    rw [round_run_ok hstep]
    exact ⟨rfl, hrunning⟩
  | error e =>
    rw [round_run_error hstep]
    have hcoped := cope_run e s'
    generalize (cope e).run s' = ran at hcoped ⊢
    cases hcoped with
    | logged entry hclears hescapes =>
      refine ⟨rfl, ?_⟩
      rw [← hrunning]
      exact congrArg Own.running (Session.own_enterLog s' entry)
    | stopped entry hclears hescapes => exact absurd ⟨e, rfl, hclears⟩ hnone
    | escaped hclears he => exact absurd ⟨e, rfl, hclears⟩ hnone

/-- **After a step that ends the loop the client does not**, unless the step's
    failure gets through. -/
theorem round_ends (h : Ends E serial s turn) (hok : ((round E serial turn).run s).1 = .ok ()) :
    ((round E serial turn).run s).2.running = false := by
  unfold Ends at h
  rcases hstep : (Session.step E serial none turn).run s with ⟨result, s'⟩
  rw [hstep] at h
  cases result with
  | ok event =>
    rw [round_run_ok hstep]
    rcases h with hstopped | ⟨e, he, -⟩
    · exact hstopped
    · cases he
  | error e =>
    rw [round_run_error hstep] at hok ⊢
    have hcoped := cope_run e s'
    generalize (cope e).run s' = ran at hcoped hok ⊢
    cases hcoped with
    | @logged ps entry hclears hescapes =>
      -- that alone would not end the loop, so somebody has stopped the client
      have hstopped : s'.running = false := by
        rcases h with hstopped | ⟨f, hf, hnone⟩
        · exact hstopped
        · cases hf
          exact absurd hclears (hnone ps)
      rw [← hstopped]
      exact congrArg Own.running (Session.own_enterLog s' entry)
    | stopped entry hclears hescapes => rfl
    | escaped hclears he => cases hok

/-- The transport has nothing more to deliver. -/
theorem ends_interrupt (E : Environment R) (serial : Nat) (s : Session R) :
    Ends E serial s .interrupt := by
  have hidle : Turn.interrupt.delivered s.feed = none := by
    unfold Turn.delivered
    cases s.feed with
    | direct => rfl
    | consumer c => simp [Turn.interrupt, Turn.idle]
  have hresult := (Session.poll_run_idle E (s.effectiveTimeout serial none) hidle).1
  rcases hpoll : (Session.poll E (s.effectiveTimeout serial none) .interrupt).run s with
    ⟨result, s'⟩
  rw [hpoll] at hresult
  obtain rfl : result = .error (.of (.interrupted "")) := hresult
  refine .inr ⟨.of (.interrupted ""), ?_, fun ps hps => by cases hps⟩
  simp only [Session.step, Action.run_get_bind]
  rw [Action.run_bind_error hpoll]

/-! ## §4. The loop. -/

theorem loop_nil_run (E : Environment R) (serial : Nat) (hs : s.running = true) :
    (loop E serial []).run s = (round E serial .interrupt).run s := by
  simp only [loop, Action.run_get_bind, hs]
  rfl

theorem loop_cons_run (E : Environment R) (serial : Nat) (hs : s.running = true) (turn : Turn)
    (rest : List Turn) :
    (loop E serial (turn :: rest)).run s =
      (do round E serial turn; loop E serial rest : Action R Unit).run s := by
  simp only [loop, Action.run_get_bind, hs]
  rfl

/-- **The loop takes steps up to and with the first one that ends it.**  The
    induction is on what the transport does. -/
theorem loop_run (E : Environment R) (serial : Nat) (turns : List Turn)
    (hs : s.running = true) :
    ∃ taken last, Looped E serial turns s taken last ((loop E serial turns).run s) := by
  induction turns generalizing s with
  | nil =>
    refine ⟨[], .interrupt, ⟨[], rfl⟩, ?_, ends_interrupt E serial s, ?_, ?_⟩
    · intro before turn after h
      simp at h
    · rw [loop_nil_run E serial hs]
      rfl
    · rw [loop_nil_run E serial hs]
      exact round_error_iff E serial .interrupt s
  | cons turn rest ih =>
    rw [loop_cons_run E serial hs]
    rcases hround : (round E serial turn).run s with ⟨result, s'⟩
    by_cases hends : Ends E serial s turn
    · -- this is the last step, however it ended
      have hrun : (do round E serial turn; loop E serial rest : Action R Unit).run s =
          (round E serial turn).run s := by
        cases result with
        | error e => rw [Action.run_bind_error hround, hround]
        | ok u =>
          have hstopped := round_ends hends (by rw [hround])
          rw [hround] at hstopped
          rw [Action.run_bind_ok hround, loop_of_not_running E serial rest s' hstopped, hround]
      rw [hrun]
      refine ⟨[], turn, ⟨rest ++ [.interrupt], rfl⟩, ?_, hends, rfl, ?_⟩
      · intro before u after h
        simp at h
      · exact round_error_iff E serial turn s
    · obtain ⟨hok, hrunning⟩ := round_goesOn hends
      rw [hround] at hok hrunning
      obtain rfl : result = .ok () := hok
      rw [Action.run_bind_ok hround]
      obtain ⟨taken, last, hlooped⟩ := ih hrunning
      -- the steps of the rest are counted from the session after this one
      have hrounds : ∀ more, rounds E serial s (turn :: more) = rounds E serial s' more := by
        intro more
        unfold rounds
        rw [List.foldl_cons, hround]
      refine ⟨turn :: taken, last, ?_, ?_, ?_, ?_, ?_⟩
      · obtain ⟨more, hscript⟩ := hlooped.script
        exact ⟨more, by rw [List.cons_append, hscript, List.cons_append]⟩
      · intro before u after h
        cases before with
        | nil =>
          obtain ⟨rfl, -⟩ := List.cons.inj h
          exact hends
        | cons t before =>
          obtain ⟨rfl, htaken⟩ := List.cons.inj h
          rw [hrounds]
          exact hlooped.goesOn before u after htaken
      · rw [hrounds]
        exact hlooped.ends
      · rw [List.cons_append, hrounds]
        exact hlooped.state
      · rw [hrounds]
        exact hlooped.fails

end

end ChangeFeed.Client
