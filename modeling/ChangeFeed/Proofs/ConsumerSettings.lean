/-
  ChangeFeed.Proofs.ConsumerSettings — the settings of a consumer, told from the
  sections of a configuration.

  Three layers give a consumer its settings.  Those that keep the committing of
  offsets off and the callback for errors are forced.  Below them lies whatever
  the section `consumer` says, and at the bottom what follows from the other
  sections.  A key that several layers have is decided by the uppermost one.

  Main results:
    * `Settings.failure?_ofConfig` — which failure it is, if it is one.
    * `Sections.get?_settings` — what each key is mapped to.
    * `Client.settings_of_renamed` — the same with another name for the client.
-/

import ChangeFeed.Client.Basic
import ChangeFeed.Config.Store

namespace ChangeFeed

/-! ## §1. Tables. -/

namespace Table

/-- The keys of a table. -/
def keys (t : Table) : List String := t.map Prod.fst

theorem get?_put (t : Table) (k l : String) (v : Value) :
    get? (put t k v) l = if l = k then some v else get? t l := by
  by_cases h : l = k
  · subst h
    rw [get?_put_self, if_pos rfl]
  · rw [get?_put_of_ne t v h, if_neg h]

theorem get?_cons (k l : String) (v : Value) (t : Table) :
    get? ((k, v) :: t) l = if l = k then some v else get? t l := by
  by_cases h : l = k
  · subst h
    simp [get?]
  · have hne : (l == k) = false := by simp [h]
    simp [get?, List.lookup_cons, hne, h]

theorem get?_append (t u : Table) (k : String) :
    get? (t ++ u) k = (get? t k).or (get? u k) := by
  induction t with
  | nil => rfl
  | cons e rest ih =>
    obtain ⟨l, v⟩ := e
    rw [List.cons_append, get?_cons, get?_cons, ih]
    by_cases h : k = l
    · rw [if_pos h, if_pos h]
      rfl
    · rw [if_neg h, if_neg h]

theorem get?_eq_none {t : Table} {k : String} (h : k ∉ t.keys) : get? t k = none := by
  induction t with
  | nil => rfl
  | cons e rest ih =>
    obtain ⟨l, v⟩ := e
    obtain ⟨hl, hrest⟩ := List.ne_and_not_mem_of_not_mem_cons h
    rw [get?_cons, if_neg hl]
    exact ih hrest

/-- **Of two tables that are merged the second one decides.** -/
theorem get?_merge {other : Table} (h : other.keys.Nodup) (t : Table) (k : String) :
    get? (merge t other) k = get? (other ++ t) k := by
  induction other generalizing t with
  | nil => rfl
  | cons e rest ih =>
    obtain ⟨l, v⟩ := e
    obtain ⟨hl, hrest⟩ := List.nodup_cons.1 h
    show get? (merge (put t l v) rest) k = get? ((l, v) :: (rest ++ t)) k
    rw [ih hrest, get?_append, get?_put, get?_cons, get?_append]
    by_cases hk : k = l
    · subst hk
      rw [get?_eq_none hl, if_pos rfl, if_pos rfl]
      rfl
    · rw [if_neg hk, if_neg hk]

theorem keys_put (t : Table) (k : String) (v : Value) :
    (put t k v).keys = if k ∈ t.keys then t.keys else t.keys ++ [k] := by
  induction t with
  | nil => rfl
  | cons e rest ih =>
    obtain ⟨l, w⟩ := e
    unfold put
    by_cases h : l = k
    · subst h
      simp [keys]
    · rw [if_neg h]
      show l :: keys (put rest k v) = _
      rw [ih]
      have hmem : k ∈ keys ((l, w) :: rest) ↔ k ∈ keys rest := by
        simp [keys, Ne.symm h]
      by_cases hk : k ∈ keys rest
      · rw [if_pos hk, if_pos (hmem.2 hk)]
        rfl
      · rw [if_neg hk, if_neg (mt hmem.1 hk)]
        rfl

/-- Writing never makes a key occur twice. -/
theorem nodup_put {t : Table} (h : t.keys.Nodup) (k : String) (v : Value) :
    (put t k v).keys.Nodup := by
  rw [keys_put]
  by_cases hk : k ∈ t.keys
  · rw [if_pos hk]
    exact h
  · rw [if_neg hk]
    refine List.nodup_append.2 ⟨h, by simp, fun a ha b hb hab => ?_⟩
    rw [List.mem_singleton] at hb
    exact hk (by rw [← hb, ← hab]; exact ha)

theorem nodup_merge {t : Table} (h : t.keys.Nodup) (other : Table) :
    (merge t other).keys.Nodup := by
  induction other generalizing t with
  | nil => exact h
  | cons e rest ih => exact ih (nodup_put h e.1 e.2)

end Table

namespace Config

/-- The failure that a computation ends with, if it fails. -/
def failure? {α : Type} : Except Failure α → Option Failure
  | .ok _ => none
  | .error f => some f

namespace Settings

/-! ## §2. Stages. -/

/-- The brokers, as one text. -/
def brokers (config : Value) : Except Failure String := do
  let connection ← demand config "connection"
  commaJoined (← demand connection "brokers")

/-- The settings for encryption, if there is to be any. -/
def secured (config : Value) : Except Failure Table := do
  let connection ← demand config "connection"
  let encrypted ← lookFor connection "use_ssl" (.bool false)
  if encrypted.isTruthy then encryption connection else pure []

/-- What the section for the consumer adds. -/
def further (config : Value) : Except Failure Table := do
  added (← lookFor config "consumer" (.table []))

theorem connection_eq (config : Value) :
    connection config = (brokers config).bind fun b =>
      (secured config).bind fun rest => .ok (("bootstrap.servers", .text b) :: rest) := by
  unfold connection brokers secured
  cases demand config "connection" with
  | error f => rfl
  | ok section_ =>
    show ((demand section_ "brokers").bind fun v => (commaJoined v).bind _) =
      ((demand section_ "brokers").bind commaJoined).bind _
    cases demand section_ "brokers" with
    | error f => rfl
    | ok v =>
      show (commaJoined v).bind _ = (commaJoined v).bind _
      cases commaJoined v with
      | error f => rfl
      | ok b =>
        show (lookFor section_ "use_ssl" (.bool false)).bind _ =
          ((lookFor section_ "use_ssl" (.bool false)).bind _).bind _
        cases lookFor section_ "use_ssl" (.bool false) with
        | error f => rfl
        | ok encrypted =>
          cases hencrypted : encrypted.isTruthy with
          | false => simp [hencrypted, Except.bind, bind, pure, Except.pure]
          | true => simp [hencrypted, Except.bind, bind, pure, Except.pure]

/-- The settings of a consumer, stage by stage. -/
theorem ofConfig_eq (config : Value) :
    ofConfig config = (brokers config).bind fun b => (secured config).bind fun rest =>
      (Options.ofConfig config).bind fun options => (further config).bind fun consumer =>
        .ok (withoutCommits (Table.merge (Table.merge
          (Table.put (("bootstrap.servers", .text b) :: rest) "group.id" (.text options.appId))
          defaults) consumer)) := by
  show (connection config).bind _ = _
  rw [connection_eq]
  cases brokers config with
  | error f => rfl
  | ok b =>
    cases secured config with
    | error f => rfl
    | ok rest =>
      show (Options.ofConfig config).bind _ = (Options.ofConfig config).bind _
      cases Options.ofConfig config with
      | error f => rfl
      | ok options =>
        show (lookFor config "consumer" (.table [])).bind _ = (further config).bind _
        unfold further
        cases lookFor config "consumer" (.table []) <;> rfl

/-- **The failure is that of the first stage that fails**: brokers, encryption,
    options, and what the section for the consumer adds. -/
theorem failure?_ofConfig (config : Value) :
    failure? (ofConfig config) =
      [failure? (brokers config), failure? (secured config), failure? (Options.ofConfig config),
        failure? (further config)].findSome? id := by
  rw [ofConfig_eq]
  cases brokers config with
  | error f => rfl
  | ok b =>
    cases secured config with
    | error f => rfl
    | ok rest =>
      cases Options.ofConfig config with
      | error f => rfl
      | ok options => cases further config <;> rfl

end Settings

/-! ## §3. Sections. -/

/-- What encryption needs. -/
structure Certificates where
  authority : Value
  certificate : Value
  key : Value
  password : Value
  checksHost : Bool

/-- The six settings for encryption. -/
def Certificates.settings (e : Certificates) : Table :=
  [("security.protocol", .text "SSL"), ("ssl.ca.location", e.authority),
    ("ssl.certificate.location", e.certificate), ("ssl.key.location", e.key),
    ("ssl.key.password", e.password),
    ("ssl.endpoint.identification.algorithm", .text (if e.checksHost then "https" else "none"))]

/-- They are the ones that a section names. -/
structure Certificates.StandIn (e : Certificates) (ssl : Table) : Prop where
  authority : Table.get? ssl "ca_file" = some e.authority
  certificate : Table.get? ssl "client_cert_file" = some e.certificate
  key : Table.get? ssl "client_key_file" = some e.key
  password : Table.get? ssl "client_key_password" = some e.password
  checksHost : (Table.getD ssl "check_hostname" (.bool true)).isTruthy = e.checksHost

/-- What matters of a configuration to the settings of a consumer. -/
structure Sections where
  connection : Table
  brokers : List String
  certificates : Option Certificates
  group : String
  consumer : Table

/-- A text, or octets that encode it. -/
def IsText (v : Value) (s : String) : Prop :=
  v = .text s ∨ ∃ b, v = .octets b ∧ Octets.decode? b = some s

/-- The name of a client's group: the one given instead, unless that is empty,
    or else the one that the configuration gives the client. -/
inductive Named (config : Value) : Option String → String → Prop where
  | instead {name : String} (hname : name.isEmpty = false) : Named config (some name) name
  | configured {instead : Option String} {client : Table} {v : Value} {name : String}
      (hinstead : ∀ other, instead = some other → other.isEmpty = true)
      (hclient : lookFor config "client" (.table []) = .ok (.table client))
      (happId : Table.get? client "app_id" = some v) (hname : IsText v name) :
      Named config instead name

namespace Sections

/-- Settings that nothing takes the place of. -/
def forced : Table :=
  [("enable.auto.commit", .bool false), ("enable.auto.offset.store", .bool false),
    ("error_cb", .builtin .errorCallback)]

/-- Settings that the section for the consumer may replace. -/
def derived (x : Sections) : Table :=
  [("group.id", .text x.group), ("bootstrap.servers", .text (Text.join "," x.brokers)),
    ("auto.offset.reset", .text "earliest"), ("enable.partition.eof", .bool true)] ++
    (x.certificates.map Certificates.settings).getD []

/-- All settings; of several entries for a key the first one counts. -/
def settings (x : Sections) : Table := forced ++ x.consumer ++ x.derived

/-- They are the sections of a configuration, but for the name of the client. -/
structure Of (x : Sections) (config : Value) : Prop where
  connection : demand config "connection" = .ok (.table x.connection)
  brokers : ∃ v, Table.get? x.connection "brokers" = some v ∧
    Settings.elements? v = some (x.brokers.map .text)
  /-- There is encryption exactly if it is asked for. -/
  encrypted : x.certificates.isSome = (Table.getD x.connection "use_ssl" (.bool false)).isTruthy
  certificates : ∀ e, x.certificates = some e →
    ∃ ssl, Table.get? x.connection "ssl" = some (.table ssl) ∧ e.StandIn ssl
  consumer : lookFor config "consumer" (.table []) = .ok (.table x.consumer)

end Sections

/-! ## §4. Sections that are as they should be. -/

/-- What comes of two things that may fail, if neither does. -/
theorem ok_of_bind {α β : Type} {x : Except Failure α} {next : α → Except Failure β} {b : β}
    (h : x.bind next = .ok b) : ∃ a, x = .ok a ∧ next a = .ok b := by
  cases x with
  | error f => cases h
  | ok a => exact ⟨a, rfl, h⟩

theorem textsOf_ok {position : Nat} {vs : List Value} {texts : List String}
    (h : Settings.textsOf position vs = .ok texts) : vs = texts.map .text := by
  induction vs generalizing position texts with
  | nil =>
    obtain rfl := Except.ok.inj h
    rfl
  | cons v rest ih =>
    cases v with
    | text s =>
      simp only [Settings.textsOf] at h
      cases hrest : Settings.textsOf (position + 1) rest with
      | error f =>
        rw [hrest] at h
        cases h
      | ok more =>
        rw [hrest] at h
        obtain rfl := Except.ok.inj h
        rw [ih hrest]
        rfl
    | _ => cases h

theorem commaJoined_ok {v : Value} {s : String} (h : Settings.commaJoined v = .ok s) :
    ∃ texts : List String, Settings.elements? v = some (texts.map .text) ∧
      s = Text.join "," texts := by
  unfold Settings.commaJoined at h
  cases helements : Settings.elements? v with
  | none =>
    rw [helements] at h
    cases h
  | some vs =>
    rw [helements] at h
    simp only at h
    cases htexts : Settings.textsOf 0 vs with
    | error f =>
      rw [htexts] at h
      cases h
    | ok texts =>
      rw [htexts] at h
      obtain rfl := Except.ok.inj h
      exact ⟨texts, by rw [textsOf_ok htexts], rfl⟩

theorem brokers_ok {config : Value} {s : String} (h : Settings.brokers config = .ok s) :
    ∃ (connection : Table) (v : Value) (texts : List String),
      demand config "connection" = .ok (.table connection) ∧
        Table.get? connection "brokers" = some v ∧
        Settings.elements? v = some (texts.map .text) ∧ s = Text.join "," texts := by
  obtain ⟨section_, hsection, h⟩ := ok_of_bind h
  obtain ⟨v, hv, hjoined⟩ := ok_of_bind h
  obtain ⟨texts, helements, hs⟩ := commaJoined_ok hjoined
  obtain ⟨connection, rfl, hget⟩ := demand_ok_iff.1 hv
  exact ⟨connection, v, texts, hsection, hget, helements, hs⟩

theorem encryption_ok {connection rest : Table}
    (h : Settings.encryption (.table connection) = .ok rest) :
    ∃ (ssl : Table) (e : Certificates), Table.get? connection "ssl" = some (.table ssl) ∧
      e.StandIn ssl ∧ rest = e.settings := by
  obtain ⟨section_, hsection, h⟩ := ok_of_bind h
  obtain ⟨authority, hauthority, h⟩ := ok_of_bind h
  obtain ⟨certificate, hcertificate, h⟩ := ok_of_bind h
  obtain ⟨key, hkey, h⟩ := ok_of_bind h
  obtain ⟨password, hpassword, h⟩ := ok_of_bind h
  obtain ⟨checks, hchecks, h⟩ := ok_of_bind h
  obtain ⟨ssl, rfl, -⟩ := demand_ok_iff.1 hauthority
  -- whoever has keys is a table, so all of them are looked up in the same one
  have hget : ∀ {name : String} {v : Value}, demand (.table ssl) name = .ok v →
      Table.get? ssl name = some v := by
    intro name v hv
    obtain ⟨t, ht, hv⟩ := demand_ok_iff.1 hv
    cases ht
    exact hv
  obtain ⟨t, ht, hssl⟩ := demand_ok_iff.1 hsection
  cases ht
  obtain rfl : Table.getD ssl "check_hostname" (.bool true) = checks := Except.ok.inj hchecks
  exact ⟨ssl, ⟨authority, certificate, key, password, _⟩, hssl,
    ⟨hget hauthority, hget hcertificate, hget hkey, hget hpassword, rfl⟩, (Except.ok.inj h).symm⟩

theorem secured_ok {config : Value} {connection rest : Table}
    (hconnection : demand config "connection" = .ok (.table connection))
    (h : Settings.secured config = .ok rest) :
    ∃ e : Option Certificates,
      e.isSome = (Table.getD connection "use_ssl" (.bool false)).isTruthy ∧
        (∀ c, e = some c →
          ∃ ssl, Table.get? connection "ssl" = some (.table ssl) ∧ c.StandIn ssl) ∧
        rest = (e.map Certificates.settings).getD [] := by
  unfold Settings.secured at h
  rw [hconnection] at h
  change (if (Table.getD connection "use_ssl" (.bool false)).isTruthy then
    Settings.encryption (.table connection) else pure []) = .ok rest at h
  cases hencrypted : (Table.getD connection "use_ssl" (.bool false)).isTruthy with
  | false =>
    rw [hencrypted] at h
    exact ⟨none, rfl, fun c hc => (by cases hc), (Except.ok.inj h).symm⟩
  | true =>
    rw [hencrypted] at h
    obtain ⟨ssl, e, hssl, hstand, hrest⟩ := encryption_ok h
    refine ⟨some e, rfl, fun c hc => ?_, hrest⟩
    obtain rfl := Option.some.inj hc
    exact ⟨ssl, hssl, hstand⟩

theorem further_ok {config : Value} {consumer : Table}
    (h : Settings.further config = .ok consumer) :
    lookFor config "consumer" (.table []) = .ok (.table consumer) := by
  obtain ⟨v, hv, h⟩ := ok_of_bind h
  cases v with
  | table t =>
    obtain rfl := Except.ok.inj h
    exact hv
  | _ => cases h

theorem appIdOfText_ok_iff {s name : String} :
    Options.appIdOfText s = .ok name ↔ s = name ∧ name.isEmpty = false := by
  unfold Options.appIdOfText
  by_cases hs : s.isEmpty = true
  · rw [if_pos hs]
    constructor
    · intro h
      cases h
    · rintro ⟨rfl, hname⟩
      rw [hs] at hname
      cases hname
  · rw [if_neg hs]
    constructor
    · intro h
      obtain rfl := Except.ok.inj h
      exact ⟨rfl, by simpa using hs⟩
    · rintro ⟨rfl, -⟩
      rfl

/-- A name is accepted exactly if it is a text that is not empty. -/
theorem readAppId_ok_iff {v : Option Value} {name : String} : Options.readAppId v = .ok name ↔
    (∃ w, v = some w ∧ IsText w name) ∧ name.isEmpty = false := by
  constructor
  · intro h
    cases v with
    | none => cases h
    | some w =>
      cases w with
      | text s =>
        obtain ⟨rfl, hname⟩ := appIdOfText_ok_iff.1 h
        exact ⟨⟨_, rfl, .inl rfl⟩, hname⟩
      | octets b =>
        cases hdecoded : Octets.decode? b with
        | none =>
          simp only [Options.readAppId, hdecoded] at h
          cases h
        | some s =>
          simp only [Options.readAppId, hdecoded] at h
          obtain ⟨rfl, hname⟩ := appIdOfText_ok_iff.1 h
          exact ⟨⟨_, rfl, .inr ⟨b, rfl, hdecoded⟩⟩, hname⟩
      | _ => cases h
  · rintro ⟨⟨w, rfl, hw⟩, hname⟩
    rcases hw with rfl | ⟨b, rfl, hb⟩
    · exact appIdOfText_ok_iff.2 ⟨rfl, hname⟩
    · simp only [Options.readAppId, hb]
      exact appIdOfText_ok_iff.2 ⟨rfl, hname⟩

/-- **The sections of a configuration from which settings could be made.** -/
theorem exists_sections {config : Value} {t : Table} (h : Settings.ofConfig config = .ok t) :
    ∃ (x : Sections) (options : Options), x.Of config ∧ Options.ofConfig config = .ok options ∧
      x.group = options.appId ∧
      t = Settings.withoutCommits (Table.merge (Table.merge
        (Table.put (("bootstrap.servers", .text (Text.join "," x.brokers)) ::
          (x.certificates.map Certificates.settings).getD []) "group.id" (.text x.group))
        Settings.defaults) x.consumer) := by
  rw [Settings.ofConfig_eq] at h
  obtain ⟨joined, hbrokers, h⟩ := ok_of_bind h
  obtain ⟨rest, hsecured, h⟩ := ok_of_bind h
  obtain ⟨options, hoptions, h⟩ := ok_of_bind h
  obtain ⟨consumer, hconsumer, h⟩ := ok_of_bind h
  obtain ⟨connection, v, texts, hconnection, hv, helements, rfl⟩ := brokers_ok hbrokers
  obtain ⟨e, hencrypted, hcertificates, rfl⟩ := secured_ok hconnection hsecured
  exact ⟨⟨connection, texts, e, options.appId, consumer⟩, options,
    ⟨hconnection, ⟨v, hv, helements⟩, hencrypted, hcertificates, further_ok hconsumer⟩, hoptions,
    rfl, (Except.ok.inj h).symm⟩

/-! ## §5. What the keys are mapped to. -/

/-- Below the section for the consumer, the defaults decide first. -/
theorem Sections.get?_derived (x : Sections) (key : String) :
    Table.get? (Table.merge
      (Table.put (("bootstrap.servers", .text (Text.join "," x.brokers)) ::
        (x.certificates.map Certificates.settings).getD []) "group.id" (.text x.group))
      Settings.defaults) key = Table.get? x.derived key := by
  rw [Table.get?_merge (by decide)]
  unfold Settings.defaults derived
  simp only [List.cons_append, List.nil_append, Table.get?_cons, Table.get?_put]
  by_cases hgroup : key = "group.id"
  · simp [hgroup]
  by_cases hbrokers : key = "bootstrap.servers"
  · simp [hbrokers]
  simp only [hgroup, hbrokers, if_false]

/-- **What a consumer is made with**: forced settings, then the section for the
    consumer, then what follows from the rest of the configuration. -/
theorem Sections.get?_settings {x : Sections} (h : (Table.keys x.consumer).Nodup) (key : String) :
    Table.get? (Table.put (Settings.withoutCommits (Table.merge (Table.merge
      (Table.put (("bootstrap.servers", .text (Text.join "," x.brokers)) ::
        (x.certificates.map Certificates.settings).getD []) "group.id" (.text x.group))
      Settings.defaults) x.consumer)) "error_cb" (.builtin .errorCallback)) key =
      Table.get? x.settings key := by
  unfold Settings.withoutCommits settings forced
  simp only [List.cons_append, List.nil_append, Table.get?_cons, Table.get?_put]
  rw [Table.get?_merge h, Table.get?_append, Table.get?_append, Sections.get?_derived]
  by_cases hcallback : key = "error_cb"
  · simp [hcallback]
  by_cases hstore : key = "enable.auto.offset.store"
  · simp [hstore]
  simp only [hcallback, hstore, if_false]

theorem Sections.nodup_settings (x : Sections) :
    (Table.keys (Table.put (Settings.withoutCommits (Table.merge (Table.merge
      (Table.put (("bootstrap.servers", .text (Text.join "," x.brokers)) ::
        (x.certificates.map Certificates.settings).getD []) "group.id" (.text x.group))
      Settings.defaults) x.consumer)) "error_cb" (.builtin .errorCallback))).Nodup := by
  have hconnection : (Table.keys (("bootstrap.servers", .text (Text.join "," x.brokers)) ::
      (x.certificates.map Certificates.settings).getD [])).Nodup := by
    cases x.certificates with
    | none => exact List.nodup_cons.2 ⟨List.not_mem_nil, List.nodup_nil⟩
    | some e =>
      show ["bootstrap.servers", "security.protocol", "ssl.ca.location",
        "ssl.certificate.location", "ssl.key.location", "ssl.key.password",
        "ssl.endpoint.identification.algorithm"].Nodup
      decide
  exact Table.nodup_put (Table.nodup_put (Table.nodup_put (Table.nodup_merge (Table.nodup_merge
    (Table.nodup_put hconnection _ _) _) _) _ _) _ _) _ _

/-! ## §6. With another name for the client. -/

/-- A configuration is renamed in its section for the client only, if at all. -/
theorem renamed_cases {config config' : Value} {instead : Option String}
    (h : Store.renamed config instead = .ok config') :
    (config' = config ∧ ∀ other, instead = some other → other.isEmpty = true) ∨
      ∃ (name : String) (t client : Table), instead = some name ∧ name.isEmpty = false ∧
        config = .table t ∧
        config' = .table (Table.put t "client"
          (.table (Table.put client "app_id" (.text name)))) := by
  cases instead with
  | none => exact .inl ⟨(Except.ok.inj h).symm, fun other hother => by cases hother⟩
  | some name =>
    cases hname : name.isEmpty with
    | true =>
      simp only [Store.renamed, hname, if_true] at h
      refine .inl ⟨(Except.ok.inj h).symm, fun other hother => ?_⟩
      obtain rfl := Option.some.inj hother
      exact hname
    | false =>
      simp only [Store.renamed, hname, Bool.false_eq_true, if_false] at h
      right
      cases config with
      | table t =>
        simp only [Store.withAppId] at h
        split at h
        · exact ⟨name, t, [], rfl, hname, rfl, (Except.ok.inj h).symm⟩
        · next client _ => exact ⟨name, t, client, rfl, hname, rfl, (Except.ok.inj h).symm⟩
        · cases h
      | _ => cases h

section

variable {config config' : Value} {instead : Option String}

/-- The other sections stay as they are. -/
theorem demand_renamed (h : Store.renamed config instead = .ok config') {key : String}
    (hkey : key ≠ "client") : demand config' key = demand config key := by
  rcases renamed_cases h with ⟨rfl, -⟩ | ⟨name, t, client, -, -, rfl, rfl⟩
  · rfl
  · simp only [demand]
    rw [Table.get?_put_of_ne t _ hkey]

theorem lookFor_renamed (h : Store.renamed config instead = .ok config') {key : String}
    (hkey : key ≠ "client") (other : Value) :
    lookFor config' key other = lookFor config key other := by
  rcases renamed_cases h with ⟨rfl, -⟩ | ⟨name, t, client, -, -, rfl, rfl⟩
  · rfl
  · simp only [lookFor, Table.getD]
    rw [Table.get?_put_of_ne t _ hkey]

theorem Sections.Of.renamed (h : Store.renamed config instead = .ok config') {x : Sections}
    (hx : x.Of config') : x.Of config :=
  ⟨by rw [← demand_renamed h (by decide)]; exact hx.connection, hx.brokers, hx.encrypted,
    hx.certificates, by rw [← lookFor_renamed h (by decide)]; exact hx.consumer⟩

/-- The client has the name that was given, or else the one that it had. -/
theorem named_of_renamed (h : Store.renamed config instead = .ok config') {options : Options}
    (hoptions : Options.ofConfig config' = .ok options) : Named config instead options.appId := by
  obtain ⟨section_, hsection, hoptions⟩ := ok_of_bind hoptions
  obtain ⟨client, rfl, happId, -, -⟩ := Options.validate_ok_iff.1 hoptions
  rcases renamed_cases h with ⟨rfl, hinstead⟩ | ⟨name, t, old, rfl, hname, -, rfl⟩
  · obtain ⟨⟨v, hv, hname⟩, -⟩ := readAppId_ok_iff.1 happId
    exact .configured hinstead hsection hv hname
  · simp only [lookFor, Table.getD, Table.get?_put_self, Option.getD_some] at hsection
    cases hsection
    rw [Table.get?_put_self] at happId
    simp only [Options.readAppId, Options.appIdOfText, hname] at happId
    rw [← Except.ok.inj happId]
    exact .instead hname

end

/-- These are the settings of a consumer that a configuration asks for, when its
    client may be given another name. -/
structure Sections.Give (x : Sections) (config : Value) (instead : Option String) (t : Table) :
    Prop where
  sections : x.Of config
  group : Named config instead x.group
  /-- No other key occurs. -/
  settings : ∀ key, Table.get? t key = Table.get? x.settings key
  /-- None occurs twice. -/
  distinct : (Table.keys t).Nodup

end Config

/-- **The settings of a client**, from the sections of the configuration. -/
theorem Client.settings_of_renamed {R : Roles} {c : Client R} {config : Value}
    {instead : Option String} {t : Table}
    (hdict : ∀ consumer, Config.lookFor config "consumer" (.table []) = .ok (.table consumer) →
      (Table.keys consumer).Nodup)
    (hconfig : Config.Store.renamed config instead = .ok c.config) (ht : c.settings = .ok t) :
    ∃ x : Config.Sections, x.Give config instead t := by
  obtain ⟨u, hu, ht⟩ := Config.ok_of_bind ht
  obtain ⟨x, options, hx, hoptions, hgroup, rfl⟩ := Config.exists_sections hu
  obtain rfl := Except.ok.inj ht
  have hof := hx.renamed hconfig
  refine ⟨x, hof, ?_, ?_, x.nodup_settings⟩
  · rw [hgroup]
    exact Config.named_of_renamed hconfig hoptions
  · exact Config.Sections.get?_settings (hdict _ hof.consumer)

end ChangeFeed
