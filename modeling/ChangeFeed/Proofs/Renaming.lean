/-
  ChangeFeed.Proofs.Renaming — clients that are made one after the other.

  Every client is made with the configuration that is remembered, and may be
  given another name.  That name is written into the configuration before the
  client is made, and the configuration is remembered with it.  So a name counts
  until another one is given: a client that is given none has the name of the
  client before it, and only if no client was ever given a name, the one in the
  file.  How a client's run ends does not matter for that, since runs do not
  touch what is remembered.

  Main results:
    * `Config.Named.of_heeded` — of several names the last one counts.
    * `Program.configuration_afterCalls` — what is remembered after several calls.
    * `Program.last_name_counts` — the name of a client.
    * `name_outlives_its_client` — a name that reaches the next client.
-/

import ChangeFeed.Proofs.Creations
import ChangeFeed.Proofs.Remembering

namespace ChangeFeed

/-! ## §1. Several names. -/

namespace Config

/-- Of the names that were given, the last one that is not empty. -/
def lastGiven : List (Option String) → Option String
  | [] => none
  | name :: rest => (lastGiven rest).or (name.filter fun name => !name.isEmpty)

theorem isEmpty_of_lastGiven {names : List (Option String)} {name : String}
    (h : lastGiven names = some name) : name.isEmpty = false := by
  induction names with
  | nil => cases h
  | cons first rest ih =>
    rcases Option.or_eq_some_iff.1 h with hrest | ⟨-, hfirst⟩
    · exact ih hrest
    · simpa using (Option.filter_eq_some_iff.1 hfirst).2

/-- The configuration with another name for the client, as it was if it cannot have
    one. -/
def heed (config : Value) (name : Option String) : Value :=
  match Store.renamed config name with
  | .ok renamed => renamed
  | .error _ => config

section

variable {config : Value} {instead : Option String} {name : String}

/-- Giving an empty name is giving none. -/
theorem Named.given (h : Named config instead name) :
    Named config (lastGiven [instead]) name := by
  cases h with
  | instead hname =>
    have hgiven : lastGiven [some name] = some name := by
      simp [lastGiven, hname]
    rw [hgiven]
    exact .instead hname
  | configured hinstead hclient happId hname =>
    have hgiven : lastGiven [instead] = none := by
      cases instead with
      | none => rfl
      | some other =>
        obtain rfl : other = "" := by simpa using hinstead other rfl
        rfl
    rw [hgiven]
    exact .configured (fun other hother => by cases hother) hclient happId hname

/-- A client that keeps its name has the one that was given last before. -/
theorem Named.of_heed (h : Named (heed config instead) none name) :
    Named config (lastGiven [instead]) name := by
  unfold heed at h
  cases hrenamed : Store.renamed config instead with
  | ok renamed =>
    rw [hrenamed] at h
    rcases renamed_cases hrenamed with ⟨rfl, hinstead⟩ | ⟨other, t, client, rfl, hother, -, rfl⟩
    · cases h with
      | configured _ hclient happId hname =>
        exact (Named.configured hinstead hclient happId hname).given
    · -- the name is found where it was written
      cases h with
      | configured _ hclient happId hname =>
        simp only [lookFor, Table.getD, Table.get?_put_self, Option.getD_some] at hclient
        cases hclient
        rw [Table.get?_put_self] at happId
        obtain rfl := Option.some.inj happId
        rcases hname with hname | ⟨b, hb, -⟩
        · obtain rfl := Value.text.inj hname
          exact (Named.instead hother).given
        · cases hb
  | error f =>
    -- no client has a name in a section that none can be written into
    rw [hrenamed] at h
    cases h with
    | configured _ hclient _ _ =>
      obtain ⟨t, rfl, hsection⟩ := lookFor_ok_iff.1 hclient
      cases instead with
      | none => cases hrenamed
      | some other =>
        simp only [Store.renamed, Store.withAppId] at hrenamed
        split at hrenamed
        · cases hrenamed
        · split at hrenamed
          · cases hrenamed
          · cases hrenamed
          · next v hno hget =>
            simp only [Table.getD, hget, Option.getD_some] at hsection
            exact absurd hsection (hno _)

/-- **Of several names the last one counts.**  The induction is on the names, which
    are given one after the other. -/
theorem Named.of_heeded (names : List (Option String))
    (h : Named (names.foldl heed config) instead name) :
    Named config (lastGiven (names ++ [instead])) name := by
  induction names generalizing config with
  | nil => exact h.given
  | cons first rest ih =>
    have hrest := ih h
    show Named config ((lastGiven (rest ++ [instead])).or _) name
    cases hlast : lastGiven (rest ++ [instead]) with
    | some other =>
      rw [hlast] at hrest
      cases hrest with
      | instead hname => exact .instead hname
      | configured hempty hclient happId hname =>
        have hnonempty := isEmpty_of_lastGiven hlast
        rw [hempty other rfl] at hnonempty
        cases hnonempty
    | none =>
      rw [hlast] at hrest
      exact hrest.of_heed

end

end Config

/-! ## §2. Several calls. -/

/-- A client is asked for, with the configuration that is remembered. -/
structure Call (R : Roles) where
  /-- Another name for the client. -/
  name : Option String
  topics : List String
  manners : Client.Manners R
  environment : Environment R
  turns : List Turn

namespace Program

variable {R : Roles}

/-- The run of a client that was asked for, and the store that it leaves. -/
def serveCall (store : Config.Store) (call : Call R) : Action R Unit × Config.Store :=
  let (config, store) := configure store .default call.name
  (serve call.environment config call.topics call.manners call.turns, store)

/-- The store after several calls, however the clients' runs end. -/
def afterCalls (store : Config.Store) (calls : List (Call R)) : Config.Store :=
  calls.foldl (fun store call => (serveCall store call).2) store

/-- The client that a call makes, if it gets that far. -/
def clientOf (store : Config.Store) (call : Call R) : Except Failure (Client R) :=
  (configure store .default call.name).1.bind fun config =>
    Client.make config call.topics call.manners

/-- A configuration that cannot be read is missed again. -/
theorem configuration_of_error {store : Config.Store} {f : Failure}
    (h : configuration store .default = .error f) (name : Option String) :
    configuration (configure store .default name).2 .default = .error f := by
  have hagain := store.readDefault_again
  simp only [configuration, configure] at h ⊢
  rcases hread : store.readDefault with ⟨result, store'⟩
  rw [hread] at h hagain
  cases result with
  | error g =>
    simp only at hagain ⊢
    rw [hagain]
    exact h
  | ok t => cases h

/-- **What is remembered after a call**: the configuration as it was used, or as it was
    found if it could not be used. -/
theorem configuration_of_ok {store : Config.Store} {config : Value}
    (h : configuration store .default = .ok config) (name : Option String) :
    configuration (configure store .default name).2 .default = .ok (Config.heed config name) := by
  have hagain := store.readDefault_again
  have hconfigured := configure_eq store .default name
  rw [h] at hconfigured
  unfold Config.heed
  cases hrenamed : Config.Store.renamed config name with
  | ok renamed => exact configuration_again (hconfigured.trans hrenamed)
  | error f =>
    -- nothing was written, so what is remembered is what was read
    simp only [configuration, configure] at h ⊢
    rcases hread : store.readDefault with ⟨result, store'⟩
    rw [hread] at h hagain
    cases result with
    | error g => cases h
    | ok t =>
      obtain rfl := Except.ok.inj h
      simp only at hagain ⊢
      rw [hrenamed]
      simp only
      rw [hagain]
      rfl

/-- **What is remembered after several calls.**  The induction is on the calls. -/
theorem configuration_afterCalls {store : Config.Store} {config : Value}
    (h : configuration store .default = .ok config) (calls : List (Call R)) :
    configuration (afterCalls store calls) .default =
      .ok ((calls.map Call.name).foldl Config.heed config) := by
  induction calls generalizing store config with
  | nil => exact h
  | cons call rest ih => exact ih (configuration_of_ok h call.name)

/-- Nor is a configuration found later that could not be read. -/
theorem error_afterCalls {store : Config.Store} {f : Failure}
    (h : configuration store .default = .error f) (calls : List (Call R)) :
    configuration (afterCalls store calls) .default = .error f := by
  induction calls generalizing store with
  | nil => exact h
  | cons call rest ih => exact ih (configuration_of_error h call.name)

/-- An accepted client is called what its configuration says. -/
theorem named_of_clientOf {store : Config.Store} {call : Call R} {c : Client R}
    (h : clientOf store call = .ok c) :
    ∃ config, configuration store .default = .ok config ∧
      Config.Named config call.name c.options.appId := by
  obtain ⟨renamed, hconfigured, hmake⟩ := Config.ok_of_bind h
  rw [configure_eq] at hconfigured
  obtain ⟨config, hconfig, hrenamed⟩ := Config.ok_of_bind hconfigured
  exact ⟨config, hconfig, Config.named_of_renamed hrenamed (options_of_make hmake)⟩

/-- The client that a call makes is the one that it runs. -/
theorem serveCall_of_clientOf {store : Config.Store} {call : Call R} {c : Client R}
    (h : clientOf store call = .ok c) :
    (serveCall store call).1 = (do
      configureLogging c.config
      c.run call.environment call.turns
      Action.record .shutDownLogging) := by
  obtain ⟨config, hconfigured, hmake⟩ := Config.ok_of_bind h
  obtain ⟨rfl, -, -⟩ := config_of_make hmake
  show serve call.environment (configure store .default call.name).1 call.topics call.manners
    call.turns = _
  unfold serve
  rw [hconfigured]
  show (do
    configureLogging c.config
    let client ← Client.ofExcept (Client.make c.config call.topics call.manners)
    client.run call.environment call.turns
    Action.record .shutDownLogging : Action R Unit) = _
  rw [hmake]
  rfl

/-- **The name that was given last counts.**  Of a client that is made and run after
    several calls, with files that stay as they are, the name is the one that it is
    given, or else the last one that was given before, or else the one in the
    configuration as it was read before these calls. -/
theorem last_name_counts {store : Config.Store} (before : List (Call R)) {call : Call R}
    {c : Client R} (hclient : clientOf (afterCalls store before) call = .ok c) :
    (serveCall (afterCalls store before) call).1 = (do
        configureLogging c.config
        c.run call.environment call.turns
        Action.record .shutDownLogging) ∧
      ∃ t, store.readDefault.1 = .ok t ∧
        (store.cached = none → store.readAfresh.1 = .ok t) ∧
        Config.Named (.table t) (Config.lastGiven (before.map Call.name ++ [call.name]))
          c.options.appId := by
  refine ⟨serveCall_of_clientOf hclient, ?_⟩
  obtain ⟨config, hconfig, hnamed⟩ := named_of_clientOf hclient
  cases hread : store.readDefault.1 with
  | error f =>
    -- then no configuration was found for this call either
    have hmissed : configuration store .default = .error f := by
      show store.readDefault.1.map Value.table = _
      rw [hread]
      rfl
    rw [error_afterCalls hmissed before] at hconfig
    cases hconfig
  | ok t =>
    have hfound : configuration store .default = .ok (.table t) := by
      show store.readDefault.1.map Value.table = _
      rw [hread]
      rfl
    rw [configuration_afterCalls hfound before] at hconfig
    obtain rfl := Except.ok.inj hconfig
    refine ⟨t, rfl, fun hfresh => ?_, hnamed.of_heeded⟩
    have hafresh : store.readDefault = store.readAfresh := by
      unfold Config.Store.readDefault
      rw [hfresh]
    rw [← hafresh, hread]

end Program

/-! ## §3. Two clients, one after the other. -/

namespace Sample

/-- A client that reads one topic. -/
def call (name : Option String) : Call roles :=
  ⟨name, ["t"], indifferent, conduct.environment, []⟩

/-- The configuration when a client was given another name. -/
def renamedTable : Table := [("client", .table [("app_id", .text "other")])]

/-- The client that is made with it. -/
def renamedClient : Client roles :=
  ⟨.table renamedTable, ["t"], ⟨"other", .one, .zero⟩, .raw, .raw, .ignore, .ignore⟩

/-- It is made of the remembered configuration, without a name of its own. -/
theorem clientOf_afterCall :
    Program.clientOf (Program.afterCalls (storeWith fileContent) [call (some "other")])
      (call none) = .ok renamedClient := by
  have hfound : Program.configuration (storeWith fileContent) .default = .ok (.table fileTable) := by
    show ((storeWith fileContent).read none).1.map Value.table = _
    rw [read_storeWith]
    rfl
  unfold Program.clientOf
  rw [Program.configure_eq, Program.configuration_afterCalls hfound]
  rfl

end Sample

/-- The second client has the name that the first one was given. -/
theorem last_name_counts_of_sample :
    ∃ t, (Sample.storeWith Sample.fileContent).readAfresh.1 = .ok t ∧
      Config.Named (.table t) (some "other") "other" := by
  obtain ⟨-, t, -, hafresh, hnamed⟩ :=
    Program.last_name_counts [Sample.call (some "other")] Sample.clientOf_afterCall
  exact ⟨t, hafresh rfl, hnamed⟩

/-- **A name outlives the client that it was given to.**  The second client was given
    none, and yet it does not have the name in the file. -/
theorem name_outlives_its_client :
    ¬ ∀ (store : Config.Store) (before : List (Call Sample.roles)) (call : Call Sample.roles)
      (c : Client Sample.roles) (t : Table), store.cached = none →
        Program.clientOf (Program.afterCalls store before) call = .ok c →
          store.readAfresh.1 = .ok t → Config.Named (.table t) call.name c.options.appId := by
  intro h
  have hnamed := h (Sample.storeWith Sample.fileContent) [Sample.call (some "other")]
    (Sample.call none) Sample.renamedClient Sample.fileTable rfl Sample.clientOf_afterCall
    Sample.read_storeWith
  cases hnamed with
  | configured _ hclient happId hname =>
    cases hclient
    obtain rfl := Option.some.inj happId
    rcases hname with hname | ⟨b, hb, -⟩
    · exact absurd (Value.text.inj hname) (by decide)
    · cases hb

end ChangeFeed
