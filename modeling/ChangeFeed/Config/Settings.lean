/-
  ChangeFeed.Config.Settings — the settings that a consumer is made with.

  The section `connection` says where the brokers are and whether to talk to
  them under encryption.  The client's name becomes the group, and whatever
  the section `consumer` says is added.  Committing offsets is switched off in
  any case, since offsets are the tracker's.
-/

import ChangeFeed.Config.Options

namespace ChangeFeed.Config.Settings

/-! ## §1. Brokers. -/

/-- The texts of a sequence; all of its elements have to be texts. -/
def textsOf (position : Nat) : List Value → Except Failure (List String)
  | [] => .ok []
  | .text s :: rest => (textsOf (position + 1) rest).map (s :: ·)
  | v :: _ => .error (.shape (.noText position v.kindName))

/-- The elements that a value has, in order. -/
def elements? : Value → Option (List Value)
  | .list xs => some xs
  | .table es => some (es.map fun e => .text e.1)
  | .text s => some (s.toList.map fun c => .text c.toString)
  | .octets b => some (b.map fun o => .int o.toNat)
  | .partition p => some [.text p.topic, .int p.index]
  | _ => none

/-- The elements of a value, between commas. -/
def commaJoined (v : Value) : Except Failure String :=
  match elements? v with
  | some xs => (textsOf 0 xs).map (Text.join ",")
  | none => .error (.shape .noSequence)

/-! ## §2. The connection. -/

/-- The settings for encryption. -/
def encryption (connection : Value) : Except Failure Table := do
  let ssl ← demand connection "ssl"
  let authority ← demand ssl "ca_file"
  let certificate ← demand ssl "client_cert_file"
  let key ← demand ssl "client_key_file"
  let password ← demand ssl "client_key_password"
  let checks ← lookFor ssl "check_hostname" (.bool true)
  pure [("security.protocol", .text "SSL"), ("ssl.ca.location", authority),
    ("ssl.certificate.location", certificate), ("ssl.key.location", key),
    ("ssl.key.password", password),
    ("ssl.endpoint.identification.algorithm",
      .text (if checks.isTruthy then "https" else "none"))]

/-- The settings that say where and how to connect. -/
def connection (config : Value) : Except Failure Table := do
  let connection ← demand config "connection"
  let brokers ← commaJoined (← demand connection "brokers")
  let encrypted ← lookFor connection "use_ssl" (.bool false)
  let rest ← if encrypted.isTruthy then encryption connection else pure []
  pure (("bootstrap.servers", .text brokers) :: rest)

/-! ## §3. The consumer. -/

/-- What a consumer does unless the configuration says otherwise. -/
def defaults : Table :=
  [("auto.offset.reset", .text "earliest"), ("enable.partition.eof", .bool true)]

/-- Switches the committing of offsets off. -/
def withoutCommits (t : Table) : Table :=
  Table.put (Table.put t "enable.auto.commit" (.bool false)) "enable.auto.offset.store"
    (.bool false)

/-- The table that a section adds. -/
def added : Value → Except Failure Table
  | .table t => .ok t
  | v => .error (.shape (.noTable v.kindName))

/-- The settings of a consumer. -/
def ofConfig (config : Value) : Except Failure Table := do
  let connection ← connection config
  let options ← Options.ofConfig config
  let consumer ← added (← lookFor config "consumer" (.table []))
  let base := Table.merge (Table.put connection "group.id" (.text options.appId)) defaults
  pure (withoutCommits (Table.merge base consumer))

end ChangeFeed.Config.Settings
