/-
  ChangeFeed.Program — the whole program: from a configuration, or from the
  words of a command line, to a client that has been run.

  Logging is set up before the client is made, and shut down only when the
  client has come to its end without a failure.
-/

import ChangeFeed.Client.Basic
import ChangeFeed.CommandLine
import ChangeFeed.Config.Store

namespace ChangeFeed.Program

variable {R : Roles}

/-! ## §1. Configuration. -/

/-- Where the configuration of a run comes from. -/
inductive Origin where
  /-- It is brought along. -/
  | given (config : Value)
  /-- It is in a file. -/
  | file (path : String)
  /-- It is in a file, but nobody says in which. -/
  | nowhere
  /-- It is in the file that the environment names. -/
  | default
deriving Repr

/-- The configuration of a run, with another name for the client if one is
    given.  A name given to the remembered configuration is remembered with
    it. -/
def configure (s : Config.Store) (origin : Origin) (appId : Option String) :
    Except Failure Value × Config.Store :=
  match origin with
  | .given config => (Config.Store.renamed config appId, s)
  | .nowhere => (.error .noPath, s)
  | .file path =>
    ((s.readFile path).bind fun t => Config.Store.renamed (.table t) appId, s)
  | .default =>
    match s.readDefault with
    | (.error f, s) => (.error f, s)
    | (.ok t, s) =>
      match Config.Store.renamed (.table t) appId with
      | .ok config => (.ok config, s.remember config)
      | .error f => (.error f, s)

/-! ## §2. Logging. -/

/-- How log entries are treated unless the configuration says otherwise. -/
def defaultLogging : Value :=
  .table
    [("version", .int 1), ("disable_existing_loggers", .bool false),
      ("formatters", .table [("extra", .table [("()", .builtin .recordLayout)])]),
      ("handlers", .table [("console", .table
        [("class", .text "logging.StreamHandler"), ("formatter", .text "extra"),
          ("level", .text "INFO")])]),
      ("root", .table [("handlers", .list [.text "console"]), ("level", .text "INFO")])]

/-- Sets logging up. -/
def configureLogging (config : Value) : Action R Unit := do
  let settings ← Client.ofExcept (Config.lookFor config "logging" defaultLogging)
  Action.record (.configureLogging settings)

/-! ## §3. Runs. -/

/-- Makes a client with a configuration and runs it. -/
def serve (E : Environment R) (config : Except Failure Value) (topics : List String)
    (manners : Client.Manners R) (turns : List Turn) : Action R Unit := do
  let config ← Client.ofExcept config
  configureLogging config
  let client ← Client.ofExcept (Client.make config topics manners)
  client.run E turns
  Action.record .shutDownLogging

/-- Keys and values are texts; events and errors are printed. -/
def printing : Client.Manners R := ⟨.text, .text, .print, .print⟩

/-- Where the configuration of a command line comes from. -/
def originOf : CommandLine.Setting → Origin
  | .word path => .file path
  | .blank => .nowhere
  | .absent => .default

/-- The name that a command line gives the client. -/
def appIdOf : CommandLine.Setting → Option String
  | .word name => some name
  | _ => none

/-- Does what a command line asks for. -/
def main (E : Environment R) (s : Config.Store) (words : List String) (turns : List Turn) :
    Action R Unit × Config.Store :=
  match CommandLine.parse words with
  | .help =>
    (do
      Action.record (.printed CommandLine.helpText)
      Action.fail (.exit "0"), s)
  | .refused message =>
    (do
      Action.record (.complained CommandLine.usage)
      Action.record (.complained (CommandLine.errorLine message))
      Action.fail (.exit "2"), s)
  | .run topics config group =>
    let (config, s) := configure s (originOf config) (appIdOf group)
    (serve E config topics printing turns, s)

end ChangeFeed.Program
