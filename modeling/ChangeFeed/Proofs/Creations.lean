/-
  ChangeFeed.Proofs.Creations — the consumers that a program makes.

  A consumer is made in one place, and neither what comes before nor anything
  that a client does afterwards makes another one.  So what the journal shows a
  consumer to have been made with are the settings of the client, and these
  are known from the configuration.

  Main results:
    * `Client.makes_run` — a run makes one consumer at most.
    * `Program.distinct_configure` — no key of its configuration occurs twice.
    * `Program.serve_run` — how far a program gets.
    * `Program.serve_settings` — from the configuration to the consumer.
-/

import ChangeFeed.Program
import ChangeFeed.Proofs.CleanUp
import ChangeFeed.Proofs.DistinctKeys

namespace ChangeFeed

variable {R : Roles}

/-! ## §1. Making consumers. -/

/-- The settings of the consumer that was made, if one was. -/
def Occurrence.created? : Occurrence → Option Table
  | .createConsumer settings => some settings
  | _ => none

theorem Occurrence.created?_of_isInner {o : Occurrence} (h : o.isInner = true) :
    o.created? = none := by
  cases o <;> first | rfl | cases h

namespace Session

/-- The settings of the consumers that were made, in order. -/
def creations (s : Session R) : List Table := s.journal.filterMap Occurrence.created?

/-- These consumers were made on the way from one session to another. -/
def Makes (made : List Table) (s t : Session R) : Prop := t.creations = s.creations ++ made

namespace Makes

theorem of_journal {s t : Session R} (h : t.journal = s.journal) : Makes [] s t := by
  show t.journal.filterMap _ = s.creations ++ []
  rw [h, List.append_nil]
  rfl

theorem refl (s : Session R) : Makes [] s s := of_journal rfl

theorem trans {made more : List Table} {s t u : Session R} (h : Makes made s t)
    (h' : Makes more t u) : Makes (made ++ more) s u := by
  show u.creations = _
  rw [h', h, List.append_assoc]

theorem enter (s : Session R) (o : Occurrence) : Makes o.created?.toList s (s.enter o) := by
  show (s.journal ++ [o]).filterMap _ = s.creations ++ _
  rw [List.filterMap_append]
  cases h : o.created? <;> simp [h, creations]

theorem enter_none (s : Session R) {o : Occurrence} (h : o.created? = none) :
    Makes [] s (s.enter o) := by
  have hentered := enter s o
  rwa [h] at hentered

/-- User code that keeps to itself. -/
theorem onOwn {α : Type} (f : Own R → α × Own R) : Kept (Makes []) (Conduct.onOwn f) := by
  intro s
  refine of_journal ?_
  show s.journal ++ [] = _
  rw [List.append_nil]

/-- Nothing that a reader does makes a consumer. -/
theorem framing (C : Conduct R) : Framing C.environment (Makes []) := by
  refine Framing.of_conduct refl (fun hst htu => hst.trans htu) ?_ ?_ ?_ onOwn
  · intro s o h
    exact enter_none s (Occurrence.created?_of_isInner h)
  · intro s serial f h
    exact of_journal rfl
  · intro s c h
    exact of_journal rfl

end Makes

theorem makes_step (C : Conduct R) (serial : Nat) (turn : Turn) :
    Kept (Makes []) (step C.environment serial none turn).run := by
  intro s
  have hpolled : (s.feed.polled (s.effectiveTimeout serial none)).created? = none := by
    cases s.feed <;> rfl
  have hasked := Makes.enter_none s hpolled
  exact hasked.trans ((Makes.framing C).step serial none turn s)

theorem makes_closeReader (C : Conduct R) (serial : Nat) (s : Session R) :
    Makes [] s (s.closeReader serial) := by
  have hF := Makes.framing C
  exact kept_closeReader hF.refl hF.trans hF.enterLog (fun _ => .of_journal rfl)
    (fun _ _ => .of_journal rfl) s

theorem makes_closeSource (C : Conduct R) : Kept (Makes []) (closeSource C.environment).run := by
  have hF := Makes.framing C
  exact kept_closeSource hF.refl hF.trans hF.enterLog (fun s => .enter_none s rfl)
    (Makes.onOwn C.onClose)

end Session

/-! ## §2. One client. -/

namespace Client

open Session

/-- Nothing that a client does with its reader makes a consumer. -/
theorem makes_consume (C : Conduct R) (c : Client R) (serial : Nat) (turns : List Turn) :
    Kept (Makes []) (consume C.environment c serial turns).run :=
  kept_consume (Makes.framing C) (fun _ _ => Makes.of_journal rfl)
    (fun s => Makes.enter_none s rfl) (Makes.onOwn _) (makes_step C serial) turns

/-- The settings that a client's consumer is made with, if it comes to that. -/
def made (c : Client R) : List Table :=
  match c.settings with
  | .ok t => [t]
  | .error _ => []

/-- **A run makes one consumer**, unless there are no settings to make it
    with. -/
theorem makes_run (C : Conduct R) (c : Client R) (turns : List Turn) (s : Session R) :
    Makes c.made s ((c.run C.environment turns).run s).2 := by
  have hF := Makes.framing C
  have hopened : ∀ name timeout,
      Kept (Makes []) (openReader name timeout : Action R Nat).run := fun _ _ _ =>
    Makes.of_journal rfl
  -- what is done once the consumer is made
  have hrest : Kept (Makes []) (do
      C.environment.onCreate
      Action.log (.plain .info clientLogger "Consumer initialized" none)
      modify ({ · with feed := .consumer ownConsumer, installed := .nobody })
      Action.andFinally
        (do
          let serial ← openReader "" (some (.real c.options.pollTimeout))
          Action.andFinally (consume C.environment c serial turns)
            (modify (·.closeReader serial)))
        (closeSource C.environment) : Action R Unit).run :=
    hF.bind (Makes.onOwn C.onCreate) fun _ => hF.bind (hF.log _) fun _ =>
      hF.bind (fun s => Makes.of_journal rfl) fun _ =>
        hF.andFinally
          (hF.bind (hopened _ _) fun serial =>
            hF.andFinally (makes_consume C c serial turns) (makes_closeReader C serial))
          (makes_closeSource C)
  unfold made run
  cases hsettings : c.settings with
  | error f => exact Makes.refl s
  | ok t =>
    have hlogged := hF.enterLog s (.plain .info clientLogger "Initializing consumer" none)
    have hmade := Makes.enter
      (s.enterLog (.plain .info clientLogger "Initializing consumer" none)) (.createConsumer t)
    exact hlogged.trans (hmade.trans (hrest _))

end Client

/-! ## §3. The whole program. -/

namespace Program

open Session

/-- The configuration of a run, as it is before its client may be given another
    name. -/
def configuration (store : Config.Store) : Origin → Except Failure Value
  | .given config => .ok config
  | .file path => (store.readFile path).map .table
  | .nowhere => .error .noPath
  | .default => store.readDefault.1.map .table

theorem configure_eq (store : Config.Store) (origin : Origin) (instead : Option String) :
    (configure store origin instead).1 =
      (configuration store origin).bind fun config => Config.Store.renamed config instead := by
  cases origin with
  | given config => rfl
  | nowhere => rfl
  | file path =>
    show (store.readFile path).bind _ = ((store.readFile path).map _).bind _
    cases store.readFile path <;> rfl
  | default =>
    simp only [configure, configuration]
    rcases store.readDefault with ⟨result, store'⟩
    cases result with
    | error f => rfl
    | ok t =>
      show _ = Config.Store.renamed (.table t) instead
      simp only
      cases Config.Store.renamed (.table t) instead <;> rfl

/-- A configuration that a program has in its hands before it reads anything. -/
inductive Held (store : Config.Store) : Origin → Value → Prop where
  | given (config : Value) : Held store (.given config) config
  | cached {t : Table} (h : store.cached = some t) : Held store .default (.table t)

/-- Its keys are distinct if those are that were brought along or remembered. -/
theorem Held.distinct {store : Config.Store} {origin : Origin} {config : Value}
    (hstore : store.Distinct) (hgiven : ∀ config, origin = .given config → config.Distinct)
    (h : Held store origin config) : config.Distinct := by
  cases h with
  | given => exact hgiven config rfl
  | cached hcached => exact hstore _ hcached

/-- Any other is read, and has distinct keys then. -/
theorem held_or_distinct {store : Config.Store} {origin : Origin} {config : Value}
    (h : configuration store origin = .ok config) :
    Held store origin config ∨ config.Distinct := by
  cases origin with
  | given given_ =>
    obtain rfl := Except.ok.inj h
    exact .inl (.given given_)
  | nowhere => cases h
  | file path =>
    cases hread : store.readFile path with
    | error f =>
      rw [configuration, hread] at h
      cases h
    | ok t =>
      rw [configuration, hread] at h
      obtain rfl := Except.ok.inj h
      exact .inr (Config.Store.distinct_readFile hread)
  | default =>
    cases hread : store.readDefault.1 with
    | error f =>
      rw [configuration, hread] at h
      cases h
    | ok t =>
      rw [configuration, hread] at h
      obtain rfl := Except.ok.inj h
      exact (Config.Store.cached_or_distinct hread).imp_left .cached

/-- **Distinct keys stay distinct** from run to run: those of what is remembered,
    and those of the configuration that is used. -/
theorem distinct_configure {store : Config.Store} (hstore : store.Distinct) {origin : Origin}
    (hgiven : ∀ config, origin = .given config → config.Distinct) (instead : Option String) :
    (configure store origin instead).2.Distinct ∧
      ∀ config, (configure store origin instead).1 = .ok config → config.Distinct := by
  have hused : ∀ config, (configure store origin instead).1 = .ok config → config.Distinct := by
    intro config h
    rw [configure_eq] at h
    obtain ⟨plain, hplain, hrenamed⟩ := Config.ok_of_bind h
    have hdistinct : plain.Distinct := (held_or_distinct hplain).elim (·.distinct hstore hgiven) id
    exact Config.Store.distinct_renamed hdistinct hrenamed
  refine ⟨?_, hused⟩
  cases origin with
  | given config => exact hstore
  | nowhere => exact hstore
  | file path => exact hstore
  | default =>
    have hkept := hstore.readDefault
    simp only [configure] at hused ⊢
    rcases hread : store.readDefault with ⟨result, store'⟩
    rw [hread] at hkept hused
    cases result with
    | error f => exact hkept
    | ok t =>
      simp only at hused ⊢
      cases hrenamed : Config.Store.renamed (.table t) instead with
      | error f => exact hkept
      | ok config =>
        rw [hrenamed] at hused
        exact hkept.remember (hused config rfl)

/-- **A configuration that is remembered is found again as it was used.** -/
theorem configuration_again {store : Config.Store} {instead : Option String} {config : Value}
    (h : (configure store .default instead).1 = .ok config) :
    configuration (configure store .default instead).2 .default = .ok config := by
  simp only [configure] at h ⊢
  rcases hread : store.readDefault with ⟨result, store'⟩
  rw [hread] at h
  cases result with
  | error f => cases h
  | ok t =>
    simp only at h ⊢
    cases hrenamed : Config.Store.renamed (.table t) instead with
    | error f =>
      rw [hrenamed] at h
      cases h
    | ok config' =>
      rw [hrenamed] at h
      obtain rfl := Except.ok.inj h
      show (Config.Store.readDefault (store'.remember config')).1.map Value.table = .ok config'
      rcases Config.renamed_cases hrenamed with ⟨rfl, -⟩ | ⟨name, u, client, -, -, -, rfl⟩
      · -- it was remembered as it is when it was read
        have hcached : store'.cached = some t := by
          have hcached := Config.Store.cached_readDefault (s := store) (t := t) (by rw [hread])
          rwa [hread] at hcached
        have hsame : store'.remember (.table t) = store' := by
          show { store' with cached := some t } = store'
          rw [← hcached]
        have hagain := store.readDefault_again
        rw [hread] at hagain
        rw [hsame, hagain]
        rfl
      · have hne : Table.put u "client" (.table (Table.put client "app_id" (.text name))) ≠ [] := by
          intro hnil
          have hclient := Table.get?_put_self u "client"
            (.table (Table.put client "app_id" (.text name)))
          rw [hnil] at hclient
          cases hclient
        rw [Config.Store.readDefault_of_cached rfl hne]
        rfl

/-- How far a program gets. -/
inductive Served (E : Environment R) (config : Except Failure Value) (topics : List String)
    (manners : Client.Manners R) (turns : List Turn) (s : Session R) : Session R → Prop where
  /-- No client is made: not even logging can be set up, -/
  | unlogged : Served E config topics manners turns s s
  /-- or there is something wrong with the client. -/
  | unmade (settings : Value) :
      Served E config topics manners turns s (s.enter (.configureLogging settings))
  /-- The client fails. -/
  | failed {given settings : Value} {c : Client R} (hconfig : config = .ok given)
      (hmake : Client.make given topics manners = .ok c) :
      Served E config topics manners turns s
        ((c.run E turns).run (s.enter (.configureLogging settings))).2
  | ended {given settings : Value} {c : Client R} (hconfig : config = .ok given)
      (hmake : Client.make given topics manners = .ok c) :
      Served E config topics manners turns s
        (((c.run E turns).run (s.enter (.configureLogging settings))).2.enter .shutDownLogging)

theorem serve_run (E : Environment R) (config : Except Failure Value) (topics : List String)
    (manners : Client.Manners R) (turns : List Turn) (s : Session R) :
    Served E config topics manners turns s ((serve E config topics manners turns).run s).2 := by
  cases config with
  | error f => exact .unlogged
  | ok given =>
    show Served E (.ok given) topics manners turns s (((do
        configureLogging given
        let client ← Client.ofExcept (Client.make given topics manners)
        client.run E turns
        Action.record .shutDownLogging) : Action R Unit).run s).2
    cases hlook : Config.lookFor given "logging" defaultLogging with
    | error f =>
      have hlogging : (configureLogging given : Action R Unit).run s = (.error (.of f), s) := by
        unfold configureLogging
        rw [hlook]
        rfl
      rw [Action.run_bind_error hlogging]
      exact .unlogged
    | ok settings =>
      have hlogging : (configureLogging given : Action R Unit).run s =
          (.ok (), s.enter (.configureLogging settings)) := by
        unfold configureLogging
        rw [hlook]
        rfl
      rw [Action.run_bind_ok hlogging]
      cases hmake : Client.make given topics manners with
      | error f => exact .unmade settings
      | ok c =>
        have hmade : ∀ s' : Session R,
            (Client.ofExcept (.ok c) : Action R (Client R)).run s' = (.ok c, s') := fun _ => rfl
        rw [Action.run_bind_ok (hmade _)]
        rcases hrun : (c.run E turns).run (s.enter (.configureLogging settings)) with ⟨result, s'⟩
        have hstate : s' = ((c.run E turns).run (s.enter (.configureLogging settings))).2 := by
          rw [hrun]
        cases result with
        | error e =>
          rw [Action.run_bind_error hrun, hstate]
          exact .failed rfl hmake
        | ok u =>
          rw [Action.run_bind_ok hrun, hstate]
          exact .ended rfl hmake

theorem config_of_make {config : Value} {topics : List String} {manners : Client.Manners R}
    {c : Client R} (h : Client.make config topics manners = .ok c) :
    c.config = config ∧ c.topics = topics ∧
      manners = ⟨c.keyDecoding, c.valueDecoding, c.onEvent, c.onError⟩ := by
  unfold Client.make at h
  split at h
  · cases h
  · obtain ⟨options, -, h⟩ := Config.ok_of_bind h
    obtain rfl := Except.ok.inj h
    exact ⟨rfl, rfl, rfl⟩

/-- The options of a client are those that its configuration gives it. -/
theorem options_of_make {config : Value} {topics : List String} {manners : Client.Manners R}
    {c : Client R} (h : Client.make config topics manners = .ok c) :
    Config.Options.ofConfig config = .ok c.options := by
  unfold Client.make at h
  split at h
  · cases h
  · obtain ⟨options, hoptions, h⟩ := Config.ok_of_bind h
    obtain rfl := Except.ok.inj h
    exact hoptions

/-- A program makes one consumer at most, with the settings of its client. -/
theorem makes_serve (C : Conduct R) (config : Except Failure Value) (topics : List String)
    (manners : Client.Manners R) (turns : List Turn) (s : Session R) :
    ∃ made, Makes made s ((serve C.environment config topics manners turns).run s).2 ∧
      (made = [] ∨ ∃ (c : Client R) (t : Table), config = .ok c.config ∧ c.settings = .ok t ∧
        made = [t]) := by
  have hset : ∀ settings, Makes [] s (s.enter (.configureLogging settings)) := fun _ =>
    Makes.enter_none s rfl
  have hserved := serve_run C.environment config topics manners turns s
  generalize ((serve C.environment config topics manners turns).run s).2 = final at hserved ⊢
  -- what a client makes is known from its settings
  have hmade : ∀ c : Client R, config = .ok c.config → Makes c.made s final →
      ∃ made, Makes made s final ∧ (made = [] ∨ ∃ (c : Client R) (t : Table),
        config = .ok c.config ∧ c.settings = .ok t ∧ made = [t]) := by
    intro c hconfig hmakes
    refine ⟨c.made, hmakes, ?_⟩
    unfold Client.made
    cases hsettings : c.settings with
    | error f => exact .inl rfl
    | ok t => exact .inr ⟨c, t, hconfig, hsettings, rfl⟩
  cases hserved with
  | unlogged => exact ⟨[], .refl s, .inl rfl⟩
  | unmade settings => exact ⟨[], hset settings, .inl rfl⟩
  | @failed given settings c hconfig hmake =>
    obtain ⟨rfl, -, -⟩ := config_of_make hmake
    exact hmade c hconfig ((hset settings).trans (Client.makes_run C c turns _))
  | @ended given settings c hconfig hmake =>
    obtain ⟨rfl, -, -⟩ := config_of_make hmake
    have hended := (Client.makes_run C c turns (s.enter (.configureLogging settings))).trans
      (Makes.enter_none _ (o := .shutDownLogging) rfl)
    rw [List.append_nil] at hended
    exact hmade c hconfig ((hset settings).trans hended)

/-- What can be said of the settings of consumers, from the configuration that a
    program starts with to the consumers that its runs make. -/
structure Settled (C : Conduct R) (store : Config.Store) (origin : Origin)
    (instead : Option String) (topics : List String) (manners : Client.Manners R) : Prop where
  /-- A run makes one consumer at most, with the settings that the configuration
      asks for. -/
  handed : ∀ turns s, ∃ made, Makes made s
      ((serve C.environment (configure store origin instead).1 topics manners turns).run s).2 ∧
    made.length ≤ 1 ∧ ∀ t ∈ made, ∃ config, configuration store origin = .ok config ∧
      ∃ x : Config.Sections, x.Give config instead t
  /-- If no settings can be made, then for the first thing that is not as it
      should be. -/
  failure : ∀ config, Config.failure? (Config.Settings.ofConfig config) =
    [Config.failure? (Config.Settings.brokers config),
      Config.failure? (Config.Settings.secured config),
      Config.failure? (Config.Options.ofConfig config),
      Config.failure? (Config.Settings.further config)].findSome? id
  /-- The configuration stays as it is: a client that runs again makes its
      consumer with the same settings, -/
  again : ∀ (c : Client R) turns turns' s made,
    Makes made s ((c.run C.environment turns).run s).2 →
      Makes made ((c.run C.environment turns).run s).2
        ((c.run C.environment turns').run ((c.run C.environment turns).run s).2).2
  /-- and a configuration that is remembered is found as it was used. -/
  remembered : ∀ config, (configure store .default instead).1 = .ok config →
    configuration (configure store .default instead).2 .default = .ok config

/-- **Consumer settings, from end to end.**  Whatever the configuration and the
    name given instead of the client's, a consumer that is made is handed the
    forced settings, then those of its section, then those that follow from the
    other sections, and no others.  That the section has no key twice is asked
    only of a configuration that was not read just now. -/
theorem serve_settings (C : Conduct R) {store : Config.Store} {origin : Origin}
    (hheld : ∀ config consumer, Held store origin config →
      Config.lookFor config "consumer" (.table []) = .ok (.table consumer) →
        (Table.keys consumer).Nodup)
    (instead : Option String) (topics : List String) (manners : Client.Manners R) :
    Settled C store origin instead topics manners := by
  refine ⟨?_, Config.Settings.failure?_ofConfig, ?_, fun config => configuration_again⟩
  · intro turns s
    obtain ⟨made, hmade, hcases⟩ := makes_serve C (configure store origin instead).1 topics
      manners turns s
    refine ⟨made, hmade, ?_⟩
    rcases hcases with rfl | ⟨c, t, hc, ht, rfl⟩
    · exact ⟨Nat.zero_le 1, fun t ht => by cases ht⟩
    · refine ⟨Nat.le_refl 1, fun u hu => ?_⟩
      obtain rfl := List.mem_singleton.1 hu
      rw [configure_eq] at hc
      obtain ⟨config, hconfig, hrenamed⟩ := Config.ok_of_bind hc
      refine ⟨config, hconfig, Client.settings_of_renamed (fun consumer hconsumer => ?_) hrenamed ht⟩
      rcases held_or_distinct hconfig with hfirst | hdistinct
      · exact hheld config consumer hfirst hconsumer
      · exact Config.nodup_section hdistinct hconsumer
  · intro c turns turns' s made hmade
    have hfirst := Client.makes_run C c turns s
    -- both runs are known to make what the client's settings are
    have hsame : made = c.made := List.append_cancel_left (hmade.symm.trans hfirst)
    rw [hsame]
    exact Client.makes_run C c turns' _

end Program

namespace Sample

/-- A section for the consumer that takes the place of a default and would
    switch the committing of offsets on. -/
def consumerSection : Table :=
  [("auto.offset.reset", .text "latest"), ("enable.auto.commit", .bool true),
    ("fetch.min.bytes", .int 1)]

/-- A configuration with two brokers, under encryption. -/
def encrypted : Value :=
  .table
    [("connection", .table
        [("brokers", .list [.text "a", .text "b"]), ("use_ssl", .bool true),
          ("ssl", .table
            [("ca_file", .text "ca"), ("client_cert_file", .text "cert"),
              ("client_key_file", .text "key"), ("client_key_password", .text "secret")])]),
      ("client", .table [("app_id", .text "app")]), ("consumer", .table consumerSection)]

/-- Nothing is decoded, and nobody is told. -/
def indifferent : Client.Manners roles := ⟨.raw, .raw, .ignore, .ignore⟩

end Sample

/-- A configuration that is brought along, with another name for the client. -/
theorem serve_settings_of_sample :
    Program.Settled Sample.conduct (.start Config.Files.bare none) (.given Sample.encrypted)
      (some "other") ["t"] Sample.indifferent := by
  refine Program.serve_settings Sample.conduct (fun config consumer hheld hconsumer => ?_)
    (some "other") ["t"] Sample.indifferent
  cases hheld
  obtain rfl : Sample.consumerSection = consumer := by
    cases hconsumer
    rfl
  decide

example :
    ((Program.serve Sample.conduct.environment
        (Config.Store.renamed Sample.encrypted (some "other")) ["t"] Sample.indifferent []).run
      Sample.blank).2.creations =
      [[("bootstrap.servers", .text "a,b"), ("security.protocol", .text "SSL"),
        ("ssl.ca.location", .text "ca"), ("ssl.certificate.location", .text "cert"),
        ("ssl.key.location", .text "key"), ("ssl.key.password", .text "secret"),
        ("ssl.endpoint.identification.algorithm", .text "https"), ("group.id", .text "other"),
        ("auto.offset.reset", .text "latest"), ("enable.partition.eof", .bool true),
        ("enable.auto.commit", .bool false), ("fetch.min.bytes", .int 1),
        ("enable.auto.offset.store", .bool false),
        ("error_cb", .builtin .errorCallback)]] := by rfl

end ChangeFeed
