/-
  ChangeFeed.Proofs.Stopping — stopping a client.

  A client that is stopped in the course of a step takes no other one: nobody
  but the client itself tells it to go on, and it does so only on its way into
  the loop.  There it does not ask whether it was stopped before, so whoever
  stops it while its consumer is made, while it waits or while it subscribes is
  not heard.

  User code is taken to count its stops, so that one can be told from a client
  that was never started.

  Main results:
    * `Conduct.Counts.step` — a step either stops the client or leaves it alone.
    * `Client.heedsStops_in_loop` — no step is started after a stop, if nobody
      stops the client before its loop.
    * `stop_lost_while_waiting` — a client that is stopped while it waits.
-/

import ChangeFeed.Proofs.CleanUp
import Mathlib.Data.List.Induction

namespace ChangeFeed

variable {R : Roles}

/-! ## §1. Counting stops. -/

/-- From one moment to another the client was left alone, or it was stopped and
    that was counted. -/
def Own.Heeds (stops : R.Memory → Nat) (o p : Own R) : Prop :=
  stops p.memory = stops o.memory ∧ p.running = o.running ∨
    stops o.memory < stops p.memory ∧ p.running = false

namespace Own.Heeds

variable {stops : R.Memory → Nat} {o p q : Own R}

theorem refl (o : Own R) : Own.Heeds stops o o := .inl ⟨rfl, rfl⟩

theorem trans (h : Own.Heeds stops o p) (h' : Own.Heeds stops p q) : Own.Heeds stops o q := by
  unfold Own.Heeds at *
  rcases h with ⟨hstops, hrunning⟩ | ⟨hstops, hrunning⟩
  · rwa [hstops, hrunning] at h'
  · refine .inr ?_
    rcases h' with ⟨hsame, hstill⟩ | ⟨hmore, hstopped⟩
    · exact ⟨by rw [hsame]; exact hstops, hstill.trans hrunning⟩
    · exact ⟨Nat.lt_trans hstops hmore, hstopped⟩

/-- One that still goes on was not stopped. -/
theorem eq_of_running (h : Own.Heeds stops o p) (hrunning : p.running = true) :
    stops p.memory = stops o.memory := by
  rcases h with ⟨hsame, -⟩ | ⟨-, hstopped⟩
  · exact hsame
  · rw [hrunning] at hstopped
    cases hstopped

end Own.Heeds

/-- User code that stops the client or leaves it alone, and counts its stops. -/
structure Conduct.Counts (C : Conduct R) (stops : R.Memory → Nat) : Prop where
  decodeKey : ∀ d data (o : Own R), o.Heeds stops (C.decodeKey d data o).2
  decodeValue : ∀ d key data (o : Own R), o.Heeds stops (C.decodeValue d key data o).2
  onEvent : ∀ h e (o : Own R), o.Heeds stops (C.onEvent h e o).2
  onError : ∀ h m code (o : Own R), o.Heeds stops (C.onError h m code o).2
  onAssignment : ∀ name a (o : Own R), o.Heeds stops (C.onAssignment name a o).2
  onCreate : ∀ (o : Own R), o.Heeds stops (C.onCreate o).2
  onSubscribe : ∀ topics (o : Own R), o.Heeds stops (C.onSubscribe topics o).2
  onAssign : ∀ a (o : Own R), o.Heeds stops (C.onAssign a o).2
  onClose : ∀ (o : Own R), o.Heeds stops (C.onClose o).2
  onSleep : ∀ seconds (o : Own R), o.Heeds stops (C.onSleep seconds o).2

namespace Conduct.Counts

variable {C : Conduct R} {stops : R.Memory → Nat}

/-- What a reader does itself neither stops the client nor counts. -/
theorem framing (hC : C.Counts stops) :
    Framing C.environment fun s t => s.own.Heeds stops t.own where
  refl s := .refl s.own
  trans hst htu := hst.trans htu
  enter s _ _ := .refl s.own
  change s _ _ _ := .refl s.own
  subscribed s _ _ := .refl s.own
  decodeKey d data s := hC.decodeKey d data s.own
  decodeValue d key data s := hC.decodeValue d key data s.own
  onEvent h e s := hC.onEvent h e s.own
  onError h m code s := hC.onError h m code s.own
  onAssignment name a s := hC.onAssignment name a s.own
  onSubscribe topics s := hC.onSubscribe topics s.own
  onAssign a s := hC.onAssign a s.own

/-- **A step stops the client or leaves it alone**, however it ends. -/
theorem step (hC : C.Counts stops) (serial : Nat) (timeout : Option Timeout) (turn : Turn)
    (s : Session R) :
    s.own.Heeds stops ((Session.step C.environment serial timeout turn).run s).2.own := by
  have hstep := hC.framing.step serial timeout turn s
  rwa [Session.own_enter] at hstep

end Conduct.Counts

/-! ## §2. The loop. -/

namespace Client

variable {C : Conduct R} {c : Client R} {stops : R.Memory → Nat} {serial : Nat}
  {turns taken : List Turn} {last : Turn} {s : Session R}
  {outcome : Except Raised Unit × Session R}

/-- The client was not stopped in a step that it goes on after. -/
theorem stops_round (hC : C.Counts stops) {turn : Turn} (h : ¬ Ends C.environment serial s turn) :
    stops ((round C.environment serial turn).run s).2.memory = stops s.memory := by
  have hstep := hC.step serial none turn s
  have hrunning : ((Session.step C.environment serial none turn).run s).2.running = true := by
    by_contra hstopped
    exact h (.inl (by simpa using hstopped))
  rw [memory_round]
  exact hstep.eq_of_running hrunning

/-- **No step of the loop is started after a stop in the loop.**  Steps start in
    the sessions that the steps before them leave; the induction is on these. -/
theorem stops_rounds (hC : C.Counts stops)
    (hlooped : Looped C.environment serial turns s taken last outcome) {before : List Turn}
    (h : before <+: taken) :
    stops (rounds C.environment serial s before).memory = stops s.memory := by
  induction before using List.reverseRecOn with
  | nil => rfl
  | append_singleton before turn ih =>
    obtain ⟨after, htaken⟩ := h
    have hgoesOn := hlooped.goesOn before turn after (by rw [← htaken, List.append_assoc]; rfl)
    have hrounds : rounds C.environment serial s (before ++ [turn]) =
        ((round C.environment serial turn).run (rounds C.environment serial s before)).2 := by
      unfold rounds
      rw [List.foldl_append]
      rfl
    rw [hrounds, stops_round hC hgoesOn]
    exact ih ⟨turn :: after, by rw [← htaken, List.append_assoc]; rfl⟩

/-! ## §3. A whole run. -/

/-- How a run heeds stops: no step is started once the client was stopped, and
    the run comes to its clean-up. -/
inductive HeedsStops (C : Conduct R) (c : Client R) (settings : Table) (stops : R.Memory → Nat)
    (turns : List Turn) (s : Session R) : Prop where
  /-- No step is started at all. -/
  | unprepared {e : Raised} {left : Session R}
      (hprepare : (prepare C.environment c s.readers.length).run (begun C c settings s) =
        (.error e, left))
      (hcleanedUp : CleanedUp C s.readers.length s [] (.error e) left
        ((run C.environment c turns).run s))
  /-- Steps are started in the sessions that the steps before them leave. -/
  | looped {entry left : Session R} {taken : List Turn} {last : Turn} {result : Except Raised Unit}
      (hprepare : (prepare C.environment c s.readers.length).run (begun C c settings s) =
        (.ok (), entry))
      (hlooped : Looped C.environment s.readers.length turns { entry with running := true } taken
        last (result, left))
      (hunstopped : ∀ before, before <+: taken →
        stops (rounds C.environment s.readers.length { entry with running := true } before).memory =
          stops s.memory)
      (hcleanedUp : CleanedUp C s.readers.length s (List.replicate (taken.length + 1) c.polling)
        result left ((run C.environment c turns).run s))

/-- **No stop is lost of a client that nobody stops before its loop.**  Its
    consumer could be made. -/
theorem heedsStops_in_loop (hC : C.Counts stops) (turns : List Turn) {settings : Table}
    (hsettings : c.settings = .ok settings) (hcreate : (C.onCreate s.own).1 = .ok ())
    (hbefore : ∀ entry, (prepare C.environment c s.readers.length).run (begun C c settings s) =
      (.ok (), entry) → stops entry.memory = stops s.memory) :
    HeedsStops C c settings stops turns s := by
  rcases hprepare : (prepare C.environment c s.readers.length).run (begun C c settings s) with
    ⟨prepared, entry⟩
  cases prepared with
  | error e => exact .unprepared hprepare (unprepared_run hsettings hcreate turns hprepare)
  | ok u =>
    obtain ⟨taken, last, result, left, hlooped, hcleanedUp⟩ :=
      looped_run hsettings hcreate turns hprepare
    refine .looped hprepare hlooped (fun before hprefix => ?_) hcleanedUp
    rw [stops_rounds hC hlooped hprefix]
    exact hbefore entry hprepare

end Client

/-! ## §4. A client that is stopped, and one that is stopped too early. -/

namespace Sample

/-- A handler that stops the client, as long as it is asked to; so does whoever
    waits, if `asleep`.  They remember how often they did. -/
def stopping (asleep : Bool) : Conduct roles :=
  { conduct with
    onEvent := fun (stops : Bool) _ o => (.ok (), if stops then ⟨Nat.succ o.memory, false⟩ else o)
    onSleep := fun _ o => (.ok (), if asleep then ⟨Nat.succ o.memory, false⟩ else o) }

/-- How often the client was stopped. -/
def stopped : roles.Memory → Nat := id

theorem stopping_counts (asleep : Bool) : (stopping asleep).Counts stopped := by
  have hstop : ∀ o : Own roles, o.Heeds stopped ⟨Nat.succ o.memory, false⟩ := fun o =>
    .inr ⟨Nat.lt_succ_self o.memory, rfl⟩
  refine ⟨fun _ _ o => .refl o, fun _ _ _ o => .refl o, fun h _ o => ?_, fun _ _ _ o => .refl o,
    fun _ _ o => .refl o, fun o => .refl o, fun _ o => .refl o, fun _ o => .refl o,
    fun o => .refl o, fun _ o => ?_⟩
  · cases h with
    | true => exact hstop o
    | false => exact .refl o
  · cases asleep with
    | true => exact hstop o
    | false => exact .refl o

end Sample

/-- Stopped by its handler, at the first of two messages. -/
theorem heedsStops_of_sample :
    Client.HeedsStops (Sample.stopping false) Sample.client Sample.settings Sample.stopped
      [Sample.delivery 0 3, Sample.delivery 0 4] Sample.blank := by
  refine Client.heedsStops_in_loop (Sample.stopping_counts false) _ rfl rfl fun entry h => ?_
  obtain rfl := (Prod.mk.inj h).2
  rfl

/-- **A stop that is lost.**  The client is stopped while it waits, and polls all
    the same, until the transport has nothing more to deliver. -/
theorem stop_lost_while_waiting :
    (Sample.stopping true).Counts Sample.stopped ∧
      ¬ Client.HeedsStops (Sample.stopping true) Sample.client Sample.settings Sample.stopped []
        Sample.blank ∧
      ((Client.run (Sample.stopping true).environment Sample.client []).run Sample.blank).2.marks =
        [Sample.client.polling, .closeConsumer] := by
  refine ⟨Sample.stopping_counts true, ?_, by rfl⟩
  intro hheeds
  cases hheeds with
  | unprepared hprepare _ => cases hprepare
  | looped hprepare _ hunstopped _ =>
    -- the first step starts in the session that the loop is entered in
    have hfirst := hunstopped [] List.nil_prefix
    obtain rfl := (Prod.mk.inj hprepare).2
    cases hfirst

end ChangeFeed
