/-
  ChangeFeed.Proofs.Running — whether a client counts as running when it is not run.

  A client counts as running from the moment at which it enters its loop.  Every way
  out of the loop but one takes that back: somebody has stopped the client, or the
  failure of the last step is logged and stops it.  A request to exit is passed on as
  it is, and nothing that is done to clean up looks at the client.  So after a run
  that a request to exit has ended a client still counts as running, until somebody
  stops it or runs it to another end.

  Main results:
    * `Looped.unique` — it is determined which step ends the loop.
    * `run_running_iff` — after which runs a client counts as running.
    * `running_only_after_exit` — after any runs and stops.
    * `running_outlives_exit` — a run that a request to exit ends.
-/

import ChangeFeed.Proofs.Stopping

namespace ChangeFeed

variable {R : Roles}

/-! ## §1. Nobody else starts the client. -/

/-- From one moment to another nobody started the client. -/
def Own.Unstarted (o p : Own R) : Prop := p.running = true → o.running = true

/-- User code that starts no client; it may stop it. -/
structure Conduct.NeverStarts (C : Conduct R) : Prop where
  decodeKey : ∀ d data (o : Own R), o.Unstarted (C.decodeKey d data o).2
  decodeValue : ∀ d key data (o : Own R), o.Unstarted (C.decodeValue d key data o).2
  onEvent : ∀ h e (o : Own R), o.Unstarted (C.onEvent h e o).2
  onError : ∀ h m code (o : Own R), o.Unstarted (C.onError h m code o).2
  onAssignment : ∀ name a (o : Own R), o.Unstarted (C.onAssignment name a o).2
  onCreate : ∀ (o : Own R), o.Unstarted (C.onCreate o).2
  onSubscribe : ∀ topics (o : Own R), o.Unstarted (C.onSubscribe topics o).2
  onAssign : ∀ a (o : Own R), o.Unstarted (C.onAssign a o).2
  onClose : ∀ (o : Own R), o.Unstarted (C.onClose o).2
  onSleep : ∀ seconds (o : Own R), o.Unstarted (C.onSleep seconds o).2

namespace Conduct.NeverStarts

variable {C : Conduct R}

/-- Neither does what a reader does itself. -/
theorem framing (hC : C.NeverStarts) :
    Framing C.environment fun s t => s.own.Unstarted t.own where
  refl _ := id
  trans hst htu h := hst (htu h)
  enter _ _ _ := id
  change _ _ _ _ := id
  subscribed _ _ _ := id
  decodeKey d data s := hC.decodeKey d data s.own
  decodeValue d key data s := hC.decodeValue d key data s.own
  onEvent h e s := hC.onEvent h e s.own
  onError h m code s := hC.onError h m code s.own
  onAssignment name a s := hC.onAssignment name a s.own
  onSubscribe topics s := hC.onSubscribe topics s.own
  onAssign a s := hC.onAssign a s.own

end Conduct.NeverStarts

namespace Client

variable {C : Conduct R} {c : Client R} {turns : List Turn} {s : Session R}

/-! ## §2. The end of a loop. -/

/-- Only a request to exit gets through. -/
theorem escapes_iff {e : Raised} : Escapes e ↔ ∃ status, e.failure = .exit status := by
  unfold Escapes Raised.isOrdinary
  constructor
  · rintro ⟨hordinary, hinterrupt⟩
    cases hf : e.failure with
    | exit status => exact ⟨status, rfl⟩
    | interrupted text => exact absurd hf (hinterrupt text)
    | _ =>
      rw [hf] at hordinary
      cases hordinary
  · rintro ⟨status, hf⟩
    rw [hf]
    exact ⟨rfl, fun text h => by cases h⟩

section

variable {E : Environment R} {serial : Nat} {taken taken' : List Turn} {last last' : Turn}
  {outcome outcome' : Except Raised Unit × Session R}

/-- A loop that takes more steps does not end where one ends that takes fewer. -/
theorem Looped.length_le (h : Looped E serial turns s taken last outcome)
    (h' : Looped E serial turns s taken' last' outcome') : taken'.length ≤ taken.length := by
  obtain ⟨rest, hscript⟩ := h.script
  obtain ⟨rest', hscript'⟩ := h'.script
  by_contra hlt
  -- the step that ends the one is among those that the other goes on after
  have hprefix : taken ++ [last] <+: taken' := by
    have hfirst : taken ++ [last] <+: turns ++ [Turn.interrupt] :=
      ⟨rest, by rw [hscript, List.append_assoc]; rfl⟩
    refine List.prefix_of_prefix_length_le hfirst ⟨last' :: rest', hscript'.symm⟩ ?_
    rw [List.length_append, List.length_singleton]
    omega
  obtain ⟨after, hafter⟩ := hprefix
  refine h'.goesOn taken last after ?_ h.ends
  rw [← hafter, List.append_assoc]
  rfl

/-- **It is determined which step ends a loop**, and with it what the loop comes to. -/
theorem Looped.unique (h : Looped E serial turns s taken last outcome)
    (h' : Looped E serial turns s taken' last' outcome') : outcome' = outcome := by
  obtain ⟨rest, hscript⟩ := h.script
  obtain ⟨rest', hscript'⟩ := h'.script
  have hlength : taken'.length = taken.length :=
    Nat.le_antisymm (h.length_le h') (h'.length_le h)
  obtain ⟨rfl, hlast⟩ := List.append_inj (hscript'.symm.trans hscript) hlength
  obtain ⟨rfl, -⟩ := List.cons.inj hlast
  refine Prod.ext ?_ (h'.state.trans h.state.symm)
  have hsame : ∀ e, outcome'.1 = .error e ↔ outcome.1 = .error e := fun e =>
    (h'.fails e).trans (h.fails e).symm
  cases hresult : outcome.1 with
  | error e => exact (hsame e).2 hresult
  | ok u =>
    cases hresult' : outcome'.1 with
    | ok u' => rfl
    | error e =>
      rw [(hsame e).1 hresult'] at hresult
      cases hresult

/-- **A loop that comes to its end without a failure leaves the client stopped.** -/
theorem Looped.stopped {left : Session R}
    (h : Looped E serial turns s taken last (.ok (), left)) : left.running = false := by
  have hleft : left = ((round E serial last).run (rounds E serial s taken)).2 := by
    refine h.state.trans ?_
    unfold rounds
    rw [List.foldl_append]
    rfl
  rw [hleft]
  refine round_ends h.ends ?_
  cases hresult : ((round E serial last).run (rounds E serial s taken)).1 with
  | ok u => rfl
  | error e =>
    have hfails := (h.fails e).2 ((round_error_iff E serial last _ e).1 hresult)
    cases hfails

end

/-! ## §3. A whole run. -/

theorem own_closeReader (s : Session R) (serial : Nat) : (s.closeReader serial).own = s.own :=
  @Session.kept_closeReader R (fun s t => t.own = s.own) (fun _ => rfl)
    (fun hst htu => htu.trans hst) Session.own_enterLog serial (fun _ => rfl) (fun _ _ => rfl) s

theorem own_closeSource (C : Conduct R) (h : s.feed.closes? = some true) :
    ((Session.closeSource C.environment).run s).2.own = (C.onClose s.own).2 := by
  unfold Session.closeSource
  rw [Action.run_get_bind]
  cases hfeed : s.feed with
  | direct =>
    rw [hfeed] at h
    cases h
  | consumer consumer =>
    rw [hfeed] at h
    have howned : consumer.owned = true := Option.some.inj h
    simp only [howned, if_true]
    rw [Action.run_bind_ok (Action.run_log _ s), Action.run_bind_ok (Action.run_record _ _)]
    show (C.onClose (Session.own _)).2 = _
    rw [Session.own_enter, Session.own_enterLog]

theorem closeSource_run_of_not_closes (E : Environment R) (h : s.feed.closes? ≠ some true) :
    (Session.closeSource E).run s = (.ok (), s) := by
  unfold Session.closeSource
  rw [Action.run_get_bind]
  cases hfeed : s.feed with
  | direct => rfl
  | consumer consumer =>
    rw [hfeed] at h
    have hforeign : consumer.owned = false := by
      cases howned : consumer.owned with
      | true => exact absurd (congrArg some howned) h
      | false => rfl
    simp only [hforeign, Bool.false_eq_true, if_false]
    rfl

section

variable {serial : Nat} {asked : List Occurrence} {result : Except Raised Unit} {left : Session R}
  {final : Except Raised Unit × Session R}

/-- After a clean-up the users are left with what they make of it when the consumer is
    closed. -/
theorem CleanedUp.own (h : CleanedUp C serial s asked result left final) :
    final.2.own = (C.onClose left.own).2 := by
  by_cases hcloses : (left.closeReader serial).feed.closes? = some true
  · rw [h.source, own_closeSource C hcloses, own_closeReader]
  · -- a consumer was closed, so it goes with its source
    have hconsumer := h.consumer
    rw [h.source, closeSource_run_of_not_closes C.environment hcloses] at hconsumer
    have hlength := congrArg List.length hconsumer
    simp at hlength

end

/-- **A run is left by a request to exit**: that is the failure of the step that ends its
    loop, and nobody stops the client in that step or while the consumer is closed. -/
inductive Exits (C : Conduct R) (c : Client R) (turns : List Turn) (s : Session R) : Prop where
  | intro {settings : Table} {entry left : Session R} {taken : List Turn} {last : Turn}
      {e : Raised} {status : String} (hsettings : c.settings = .ok settings)
      (hcreate : (C.onCreate s.own).1 = .ok ())
      (hprepare : (prepare C.environment c s.readers.length).run (begun C c settings s) =
        (.ok (), entry))
      (hlooped : Looped C.environment s.readers.length turns { entry with running := true } taken
        last (.error e, left))
      (hexit : e.failure = .exit status)
      (hunstopped : (C.onClose left.own).2.running = true)

/-- A client of which the settings are no good is left as it is. -/
theorem run_of_unset (C : Conduct R) (turns : List Turn) {f : Failure}
    (hsettings : c.settings = .error f) :
    (run C.environment c turns).run s = (.error (.of f), s) := by
  unfold run
  rw [hsettings]
  rfl

/-- The users are left with what they make of it when the consumer cannot be made. -/
theorem own_run_of_uncreated {settings : Table} {e : Raised} (hsettings : c.settings = .ok settings)
    (hcreate : (C.onCreate s.own).1 = .error e) (turns : List Turn) :
    ((run C.environment c turns).run s).2.own = (C.onCreate s.own).2 := by
  have hsettings' : (ofExcept c.settings : Action R Table).run s = (.ok settings, s) := by
    rw [hsettings]
    rfl
  set s₁ := (s.enterLog (.plain .info Session.clientLogger "Initializing consumer" none)).enter
    (.createConsumer settings) with hs₁
  have hown : s₁.own = s.own := by rw [hs₁, Session.own_enter, Session.own_enterLog]
  have hcreated : C.environment.onCreate.run s₁ = (.error e, s₁.advance [] (C.onCreate s.own).2) := by
    show ((C.onCreate s₁.own).1, s₁.advance [] (C.onCreate s₁.own).2) = _
    rw [hown, hcreate]
  unfold run
  rw [Action.run_bind_ok hsettings', Action.run_bind_ok (Action.run_log _ s),
    Action.run_bind_ok (Action.run_record _ _), ← hs₁, Action.run_bind_error hcreated]
  rfl

/-- Nobody starts a client while it is prepared. -/
theorem unstarted_prepare (hC : C.NeverStarts) (c : Client R) (settings : Table) (s : Session R) :
    s.own.Unstarted
      ((prepare C.environment c s.readers.length).run (begun C c settings s)).2.own := by
  have hF := hC.framing
  have hbegun : s.own.Unstarted (begun C c settings s).own := by
    show s.own.Unstarted (Session.enterLog _ _).own
    rw [Session.own_enterLog]
    show s.own.Unstarted (C.onCreate (Session.enter _ _).own).2
    rw [Session.own_enter, Session.own_enterLog]
    exact hC.onCreate s.own
  have hprepare : Kept (fun s t => s.own.Unstarted t.own)
      (prepare C.environment c s.readers.length).run := by
    refine hF.bind (fun s => hF.change s _ _ fun _ => rfl) fun _ => hF.bind (fun _ => id) fun _ =>
      hF.bind (fun s => ?_) fun _ => hF.subscribe c.topics
    exact hC.onSleep c.options.initWait s.own
  exact fun h => hbegun (hprepare _ h)

/-- A client that counts as running after a run was left by a request to exit. -/
theorem exits_of_running (hC : C.NeverStarts) (hs : s.running = false) {turns : List Turn}
    (h : ((run C.environment c turns).run s).2.own.running = true) : Exits C c turns s := by
  -- in all other cases nobody has started it
  have hnever : ∀ {o : Own R}, s.own.Unstarted o → o.running = false := by
    intro o ho
    cases hrunning : o.running with
    | false => rfl
    | true => exact (ho hrunning).symm.trans hs
  cases hsettings : c.settings with
  | error f =>
    rw [run_of_unset C turns hsettings] at h
    exact absurd h (by rw [hnever fun h => h]; decide)
  | ok settings =>
    cases hcreate : (C.onCreate s.own).1 with
    | error e =>
      rw [own_run_of_uncreated hsettings hcreate turns, hnever (hC.onCreate s.own)] at h
      cases h
    | ok u =>
      rcases hprepare : (prepare C.environment c s.readers.length).run (begun C c settings s) with
        ⟨prepared, entry⟩
      cases prepared with
      | error e =>
        have hunstarted := unstarted_prepare hC c settings s
        rw [hprepare] at hunstarted
        rw [(unprepared_run hsettings hcreate turns hprepare).own,
          hnever fun h => hunstarted (hC.onClose entry.own h)] at h
        cases h
      | ok u =>
        obtain ⟨taken, last, result, left, hlooped, hcleanedUp⟩ :=
          looped_run hsettings hcreate turns hprepare
        rw [hcleanedUp.own] at h
        cases result with
        | ok u =>
          have hrunning : left.running = true := hC.onClose left.own h
          rw [hlooped.stopped] at hrunning
          cases hrunning
        | error e =>
          obtain ⟨status, hexit⟩ := escapes_iff.1 ((hlooped.fails e).1 rfl).2
          exact .intro hsettings hcreate hprepare hlooped hexit h

/-- **After which runs a client counts as running** that did not before: after those that
    a request to exit has ended. -/
theorem run_running_iff (hC : C.NeverStarts) (hs : s.running = false) (turns : List Turn) :
    ((run C.environment c turns).run s).2.running = true ↔ Exits C c turns s := by
  refine ⟨exits_of_running hC hs, ?_⟩
  rintro ⟨hsettings, hcreate, hprepare, hlooped, hexit, hunstopped⟩
  obtain ⟨taken, last, result, left, hlooped', hcleanedUp⟩ :=
    looped_run hsettings hcreate turns hprepare
  obtain ⟨-, rfl⟩ := Prod.mk.inj (hlooped.unique hlooped')
  show ((run C.environment c turns).run s).2.own.running = true
  rw [hcleanedUp.own]
  exact hunstopped

/-! ## §4. Runs and stops. -/

/-- What whoever has a client does with it. -/
inductive Call where
  | run (turns : List Turn)
  | stop

/-- The session after a call.  A run that fails is over like any other. -/
def afterCall (E : Environment R) (c : Client R) (s : Session R) : Call → Session R
  | .run turns => ((run E c turns).run s).2
  | .stop => ((stop : Action R Unit).run s).2

/-- The session after several calls. -/
def afterCalls (E : Environment R) (c : Client R) (s : Session R) (calls : List Call) :
    Session R := calls.foldl (afterCall E c) s

theorem afterCalls_concat (E : Environment R) (c : Client R) (s : Session R) (calls : List Call)
    (call : Call) :
    afterCalls E c s (calls ++ [call]) = afterCall E c (afterCalls E c s calls) call := by
  unfold afterCalls
  rw [List.foldl_append]
  rfl

/-- **A client counts as running only after a request to exit.**  It does not count as
    running at first and is then run and stopped in any order, whatever fails.  As long as
    no run is left by a request to exit, it does not count as running after any of these
    calls; and after a run that starts when it does not, it counts as running exactly if
    the run was left by one. -/
theorem running_only_after_exit (hC : C.NeverStarts) (hs : s.running = false)
    (calls : List Call) :
    ((∀ before turns after, calls = before ++ .run turns :: after →
        ¬ Exits C c turns (afterCalls C.environment c s before)) →
      (afterCalls C.environment c s calls).running = false) ∧
      ∀ turns, (afterCalls C.environment c s calls).running = false →
        ((afterCalls C.environment c s (calls ++ [.run turns])).running = true ↔
          Exits C c turns (afterCalls C.environment c s calls)) := by
  refine ⟨fun hnone => ?_, fun turns hstopped => ?_⟩
  · -- the induction is on the calls, the last one first
    induction calls using List.reverseRecOn with
    | nil => exact hs
    | append_singleton calls call ih =>
      have hbefore := ih fun before turns after hcalls => hnone before turns (after ++ [call]) (by
        rw [hcalls, List.append_assoc]
        rfl)
      rw [afterCalls_concat]
      cases call with
      | stop => rfl
      | run turns =>
        have hleft := hnone calls turns [] rfl
        rw [← run_running_iff hC hbefore turns] at hleft
        exact Bool.eq_false_iff.2 hleft
  · rw [afterCalls_concat]
    exact run_running_iff hC hstopped turns

end Client

/-! ## §5. A run that a request to exit ends. -/

namespace Sample

theorem conduct_neverStarts : conduct.NeverStarts :=
  ⟨fun _ _ _ h => h, fun _ _ _ _ h => h, fun _ _ _ h => h, fun _ _ _ _ h => h, fun _ _ _ h => h,
    fun _ h => h, fun _ _ h => h, fun _ _ h => h, fun _ h => h, fun _ _ h => h⟩

/-- Somebody asks the program to exit while the consumer is polled. -/
def leaving : Turn := { Turn.idle with failure := some (.of (.exit "1")) }

end Sample

/-- After a run and a stop there is another run, which a request to exit ends. -/
theorem running_only_after_exit_of_sample :
    Client.Exits Sample.conduct Sample.client [Sample.leaving]
      (Client.afterCalls Sample.conduct.environment Sample.client Sample.blank
        [.run [Sample.delivery 0 3], .stop]) := by
  have hsample := Client.running_only_after_exit (c := Sample.client) Sample.conduct_neverStarts
    (s := Sample.blank) rfl [.run [Sample.delivery 0 3], .stop]
  exact (hsample.2 [Sample.leaving] rfl).1 (by decide +kernel)

/-- **A client that counts as running when its run is over.** -/
theorem running_outlives_exit :
    Sample.conduct.NeverStarts ∧ Sample.blank.running = false ∧
      (Client.afterCalls Sample.conduct.environment Sample.client Sample.blank
        [.run [Sample.leaving]]).running = true :=
  ⟨Sample.conduct_neverStarts, rfl, by rfl⟩

end ChangeFeed
