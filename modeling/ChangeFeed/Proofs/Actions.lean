/-
  ChangeFeed.Proofs.Actions — what actions do to a session.

  The small actions are opened here once: what a bind, a change and an entry
  come to when they are run.  Log entries are told apart from everything
  else in the journal: `withoutLog` strikes them, and sessions are compared
  by what is left.

  Main results:
    * `Action.run_bind` — one action after the other.
    * `Session.withoutLog_enterLog` — a log entry changes nothing else.
    * `Session.withoutLog_logAll` — nor do any number of them.
-/

import ChangeFeed.Session.Lifecycle

namespace ChangeFeed

variable {R : Roles}

/-! ## §1. Running actions. -/

namespace Action

theorem run_pure {α : Type} (a : α) (s : Session R) :
    (pure a : Action R α).run s = (.ok a, s) := rfl

theorem run_throw {α : Type} (e : Raised) (s : Session R) :
    (throw e : Action R α).run s = (.error e, s) := rfl

theorem run_modify (f : Session R → Session R) (s : Session R) :
    (modify f : Action R Unit).run s = (.ok (), f s) := rfl

theorem run_log (entry : Log.Entry) (s : Session R) :
    (log entry : Action R Unit).run s = (.ok (), s.enterLog entry) := rfl

theorem run_record (o : Occurrence) (s : Session R) :
    (record o : Action R Unit).run s = (.ok (), s.enter o) := rfl

/-- One action after the other; a failure of the first one cuts it short. -/
theorem run_bind {α β : Type} (act : Action R α) (next : α → Action R β) (s : Session R) :
    (act >>= next).run s =
      match act.run s with
      | (.ok a, s') => (next a).run s'
      | (.error e, s') => (.error e, s') := by
  show (ExceptT.bind act next).run s = _
  -- the transformers are opened here, and nowhere else
  rcases h : act.run s with ⟨result, s'⟩
  simp only [ExceptT.bind, ExceptT.run, ExceptT.mk, ExceptT.bindCont, bind, StateT.bind] at h ⊢
  rw [h]
  cases result <;> rfl

theorem run_bind_ok {α β : Type} {act : Action R α} {s s' : Session R} {a : α}
    (h : act.run s = (.ok a, s')) (next : α → Action R β) :
    (act >>= next).run s = (next a).run s' := by
  rw [run_bind, h]

theorem run_bind_error {α β : Type} {act : Action R α} {s s' : Session R} {e : Raised}
    (h : act.run s = (.error e, s')) (next : α → Action R β) :
    (act >>= next).run s = (.error e, s') := by
  rw [run_bind, h]

/-- If all went well, it did so at each stage. -/
theorem ok_of_run_bind {α β : Type} {act : Action R α} {next : α → Action R β}
    {s t : Session R} {b : β} (h : (act >>= next).run s = (.ok b, t)) :
    ∃ a s', act.run s = (.ok a, s') ∧ (next a).run s' = (.ok b, t) := by
  rw [run_bind] at h
  rcases hrun : act.run s with ⟨result, s'⟩
  rw [hrun] at h
  cases result with
  | error e => cases h
  | ok a => exact ⟨a, s', rfl, h⟩

/-- An action as a whole, its outcome a value, never fails. -/
theorem run_attempt_bind {α β : Type} (act : Action R α)
    (next : Except Raised α → Action R β) (s : Session R) :
    (attempt act >>= next).run s = (next (act.run s).1).run (act.run s).2 := rfl

/-- The outcome of the clean-up counts if that fails, and the action's
    otherwise. -/
theorem run_andFinally {α : Type} (act : Action R α) (cleanUp : Action R Unit) (s : Session R) :
    (andFinally act cleanUp).run s =
      match cleanUp.run (act.run s).2 with
      | (.ok _, s') => ((act.run s).1, s')
      | (.error e, s') => (.error e, s') := by
  unfold andFinally
  rw [run_attempt_bind, run_bind]
  rcases cleanUp.run (act.run s).2 with ⟨result, s'⟩
  cases result with
  | error e => rfl
  | ok u => cases (act.run s).1 <;> rfl

end Action

/-! Computations that cannot fail. -/

theorem run_bind_state {α β : Type} (act : StateM (Session R) α)
    (next : α → StateM (Session R) β) (s : Session R) :
    (act >>= next).run s = (next (act.run s).1).run (act.run s).2 := rfl

theorem run_get_state (s : Session R) :
    (get : StateM (Session R) (Session R)).run s = (s, s) := rfl

theorem run_log_state (entry : Log.Entry) (s : Session R) :
    (Action.log entry : StateM (Session R) Unit).run s = ((), s.enterLog entry) := rfl

theorem run_ite_state {α : Type} (b : Bool) (act other : StateM (Session R) α) (s : Session R) :
    (if b then act else other).run s = if b then act.run s else other.run s := by
  cases b <;> rfl

/-! ## §2. Log entries and the rest of the journal. -/

/-- Is it a log entry? -/
def Occurrence.isLog : Occurrence → Bool
  | .logged _ => true
  | _ => false

namespace Session

/-- What was done, log entries aside. -/
def deeds (s : Session R) : List Occurrence := s.journal.filter fun o => !o.isLog

/-- The session with the log entries struck from its journal. -/
def withoutLog (s : Session R) : Session R := { s with journal := s.deeds }

@[simp] theorem readers_withoutLog (s : Session R) : s.withoutLog.readers = s.readers := rfl

@[simp] theorem feed_withoutLog (s : Session R) : s.withoutLog.feed = s.feed := rfl

@[simp] theorem installed_withoutLog (s : Session R) :
    s.withoutLog.installed = s.installed := rfl

@[simp] theorem journal_withoutLog (s : Session R) : s.withoutLog.journal = s.deeds := rfl

@[simp] theorem withoutLog_modifyReader (s : Session R) (serial : Nat)
    (change : Reader R → Reader R) :
    (s.modifyReader serial change).withoutLog = s.withoutLog.modifyReader serial change := rfl

@[simp] theorem withoutLog_enterLog (s : Session R) (entry : Log.Entry) :
    (s.enterLog entry).withoutLog = s.withoutLog := by
  simp only [enterLog]
  -- entries below the level of the log are not made at all
  split
  · simp [withoutLog, deeds, enter, Occurrence.isLog]
  · rfl

theorem withoutLog_enter (s : Session R) {o : Occurrence} (h : o.isLog = false) :
    (s.enter o).withoutLog = s.withoutLog.enter o := by
  simp [withoutLog, deeds, enter, h]

/-- Making several log entries, one after the other. -/
def logAll (s : Session R) (entries : List Log.Entry) : Session R := entries.foldl enterLog s

@[simp] theorem withoutLog_logAll (s : Session R) (entries : List Log.Entry) :
    (s.logAll entries).withoutLog = s.withoutLog := by
  induction entries generalizing s with
  | nil => rfl
  | cons entry rest ih =>
    show ((s.enterLog entry).logAll rest).withoutLog = _
    rw [ih, withoutLog_enterLog]

/-- The session in which the consumer, if there is one, knows its topics. -/
def knowsTopics (s : Session R) : Session R :=
  match s.feed with
  | .direct => s
  | .consumer c => { s with feed := .consumer { c with subscribed := true } }

theorem feed_knowsTopics {s : Session R} {c : Consumer} (h : s.feed = .consumer c) :
    s.knowsTopics.feed = .consumer { c with subscribed := true } := by
  simp only [knowsTopics, h]

/-- A loop that makes log entries. -/
theorem run_forIn_log (entries : List Log.Entry) (s : Session R) :
    (forIn entries PUnit.unit fun entry _ => do
      Action.log entry
      pure (ForInStep.yield PUnit.unit) : StateM (Session R) PUnit).run s =
      (PUnit.unit, s.logAll entries) := by
  induction entries generalizing s with
  | nil => rfl
  | cons entry rest ih =>
    rw [List.forIn_cons]
    exact ih (s.enterLog entry)

end Session

end ChangeFeed
