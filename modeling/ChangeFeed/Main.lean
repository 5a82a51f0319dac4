/-
  ChangeFeed.Main — the command line program.

  Standard input takes the place of the brokers: each line is one message,
  its topic, partition, offset, key and value between tabs.  A line without a
  value deletes its key.  The configuration file is read once, beforehand.
-/

import ChangeFeed.Program

namespace ChangeFeed

/-! ## §1. Messages on standard input. -/

/-- The message on a line, if it holds one. -/
def messageOf? (line : String) : Option Message :=
  match line.splitOn "\t" with
  | topic :: index :: offset :: key :: payload =>
    match index.toInt?, offset.toInt? with
    | some index, some offset =>
      some ⟨⟨topic, index⟩, some offset, some (Octets.encode key),
        payload.head?.map Octets.encode, none⟩
    | _, _ => none
  | _ => none

/-- What the transport does, line by line; a line that holds no message
    brings nothing. -/
def turnsOf (input : String) : List Turn :=
  ((input.splitOn "\n").filter (!·.isEmpty)).map fun line => { Turn.idle with message := messageOf? line }

/-! ## §2. The surroundings. -/

/-- Nobody brings any code along. -/
def bareRoles : Roles := ⟨Empty, Empty, Empty, Empty, Unit⟩

/-- Nothing fails. -/
def bareEnvironment : Environment bareRoles where
  decodeKey d _ := nomatch (d : Empty)
  decodeValue d _ _ := nomatch (d : Empty)
  onEvent h _ := nomatch (h : Empty)
  onError h _ _ := nomatch (h : Empty)
  onAssignment _ a := pure ⟨a, none⟩
  onCreate := pure ()
  onSubscribe _ := pure ()
  onAssign _ := pure ()
  onClose := pure ()
  onSleep _ := pure ()

/-- The path of the configuration file that a command line will ask for. -/
def configPath (words : List String) (named : Option String) : String :=
  match CommandLine.parse words with
  | .run _ (.word path) _ => path
  | _ => named.getD Config.Store.defaultPath

/-- Files among which there is one only, if any. -/
def filesWith (current : String) (path : String) (content : Option Octets) : Config.Files :=
  let place := Config.Files.bare.normal current
  let files := { Config.Files.bare with
    current := place
    directories := Config.Files.downTo place }
  match content with
  | none => files
  | some content => (files.write path content).2

/-- The state of the program when it has been run on standard input. -/
def outcome (store : Config.Store) (words : List String) (input : String) :
    Except Raised Unit × Session bareRoles :=
  (Program.main bareEnvironment store words (turnsOf input)).1.run
    (.start .direct Log.Level.info ())

/-- The status that a program ends with. -/
def statusOf : Except Raised Unit → UInt32
  | .ok () => 0
  | .error e =>
    match e.failure with
    | .exit status => (status.toNat?.getD 1).toUInt32
    | _ => 1

/-- What there is to tell of the end of a program. -/
def farewell : Except Raised Unit → Option String
  | .ok () => none
  | .error e =>
    match e.failure with
    | .exit _ => none
    | f => some (f.label ++ ": " ++ f.message?.getD "")

/-- Everything on a stream. -/
partial def readAll (input : IO.FS.Stream) (soFar : String) : IO String := do
  let line ← input.getLine
  if line.isEmpty then pure soFar else readAll input (soFar ++ line)

end ChangeFeed

open ChangeFeed

/-- Reads the configuration file and standard input, and runs the program. -/
def main (words : List String) : IO UInt32 := do
  let named ← IO.getEnv "APP_CONFIG_FILE"
  let current ← IO.currentDir
  let path := configPath words named
  let content ← (some <$> IO.FS.readBinFile path) <|> pure none
  let store := Config.Store.start
    (filesWith current.toString path (content.map fun bytes => bytes.data.toList)) named
  let input ← readAll (← IO.getStdin) ""
  let (result, session) := outcome store words input
  for o in session.journal do
    match o with
    | .printed line => IO.println line
    | .complained line => IO.eprintln line
    | _ => pure ()
  if let some line := farewell result then IO.eprintln line
  pure (statusOf result)
