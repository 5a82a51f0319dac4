/-
  ChangeFeed.Script.Program — scripted uses of the whole program.

  The steps share files, the environment's variable and what is remembered of
  the configuration; each client starts with a session of its own.
-/

import ChangeFeed.Program
import ChangeFeed.Script.Perform

namespace ChangeFeed.Script

/-- A scripted client: what it is for, and what the transport does. -/
structure ClientScript where
  topics : List String
  manners : Client.Manners roles
  faults : Faults
  turns : List Turn

/-- One use of the program. -/
inductive Use where
  | writeFile (path : String) (content : Octets)
  | removeFile (path : String)
  | makeDirectory (path : String)
  /-- Lets relative paths start elsewhere. -/
  | enterDirectory (path : String)
  /-- Sets the environment's variable. -/
  | nameConfig (path : Option String)
  | locateConfig
  | readConfig (path : Option String)
  | configureLogging (config : Value)
  /-- Makes a client and runs it so many times. -/
  | client (script : ClientScript) (config : Value) (runs : Nat)
  /-- Runs a client from its configuration on. -/
  | serve (script : ClientScript) (config : Option Value) (appId : Option String)
  | main (words : List String) (turns : List Turn)

/-- What a use results in. -/
inductive UseAnswer where
  | nothing
  | path (path : String)
  | config (config : Table)

/-! ## §1. Clients. -/

/-- Runs a client so many times, asking before and after whether it is
    running. -/
def runTimes (E : Environment roles) (c : Client roles) (turns : List Turn) :
    Nat → Action roles Unit
  | 0 => pure ()
  | n + 1 => do
    Action.record (.running (← get).running)
    let result ← Action.attempt (c.run E turns)
    Action.record (.running (← get).running)
    match result with
    | .ok () => runTimes E c turns n
    | .error e => throw e

/-- The environment of a scripted client. -/
def ClientScript.environment (script : ClientScript) : Environment roles :=
  Script.environment script.faults nesting

/-- Makes a scripted client and runs it. -/
def ClientScript.run (script : ClientScript) (config : Value) (runs : Nat) :
    Action roles Unit := do
  let c ← Client.ofExcept (Client.make config script.topics script.manners)
  runTimes script.environment c script.turns runs

/-- Runs a scripted client from its configuration on.  One that was brought
    along is given back in the end. -/
def ClientScript.serve (script : ClientScript) (given : Option Value)
    (config : Except Failure Value) : Action roles Unit :=
  let act := Program.serve script.environment config script.topics script.manners script.turns
  match given with
  | none => act
  | some before =>
    let after := match config with
      | .ok config => config
      | .error _ => before
    Action.andFinally act (Action.record (.configuration after))

/-! ## §2. Uses. -/

/-- A result with its failure as a raised one. -/
def raised {α : Type} (result : Except Failure α) (answer : α → UseAnswer) :
    Except Raised UseAnswer :=
  match result with
  | .ok a => .ok (answer a)
  | .error f => .error (.of f)

/-- The result of a change to the files, and what it leaves. -/
def changeFiles (s : Config.Store) (change : Except FileFault Unit × Config.Files) :
    Except Raised UseAnswer × List Occurrence × Config.Store :=
  (raised (change.1.mapError .file) fun _ => .nothing, [], { s with files := change.2 })

/-- The result of an action on a new session. -/
def inSession (threshold : Log.Level) (s : Config.Store) (act : Action roles Unit) :
    Except Raised UseAnswer × List Occurrence × Config.Store :=
  let (result, session) := act.run (.start .direct threshold [])
  (result.map fun _ => .nothing, session.journal, s)

/-- Uses the program once. -/
def Use.perform (threshold : Log.Level) (s : Config.Store) :
    Use → Except Raised UseAnswer × List Occurrence × Config.Store
  | .writeFile path content => changeFiles s (s.files.write path content)
  | .removeFile path => changeFiles s (s.files.orUnchanged (s.files.remove path))
  | .makeDirectory path => changeFiles s (s.files.makePath path)
  | .enterDirectory path => changeFiles s (s.files.orUnchanged (s.files.enter path))
  | .nameConfig path =>
    match s.name path with
    | .ok s => (.ok .nothing, [], s)
    | .error fault => (.error (.of (.file fault)), [], s)
  | .locateConfig =>
    let (result, s) := s.locate
    (raised result .path, [], s)
  | .readConfig path =>
    let (result, s) := s.read path
    (raised result .config, [], s)
  | .configureLogging config => inSession threshold s (Program.configureLogging config)
  | .client script config runs => inSession threshold s (script.run config runs)
  | .serve script given appId =>
    let origin := match given with
      | some config => .given config
      | none => .default
    let (config, s) := Program.configure s origin appId
    inSession threshold s (script.serve given config)
  | .main words turns =>
    let (act, s) := Program.main (Script.environment .none nesting) s words turns
    inSession threshold s act

end ChangeFeed.Script
