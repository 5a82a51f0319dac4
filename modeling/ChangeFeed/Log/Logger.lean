/-
  ChangeFeed.Log.Logger — loggers.

  A logger makes entries for one component.  Entries below its level are not
  made, and their messages not put together.  A logger without a level of its
  own takes over that of its surroundings, which the root logger stands for.
  Tagged entries carry the text of their key and the properties given with
  them.  Properties are given by name like the other arguments of a call, so
  none can have the name of an argument that every call has.
-/

import ChangeFeed.Log.Entry
import ChangeFeed.Log.Template

namespace ChangeFeed.Log

/-- The text of a key. -/
def keyText : Value → String
  | .null => noKey
  | v => v.plain

/-- A call of a logger. -/
inductive Call where
  /-- A trace entry without a key. -/
  | trace (template : String) (arguments : List Value)
  /-- An entry with a key, and perhaps with a failure. -/
  | tagged (level : Level) (template : String) (key : Value) (arguments : List Value)
    (properties : Table) (failure : Option Raised)
  /-- A failure that nobody was prepared for. -/
  | unhandled (failure : Option Raised) (key : Value) (properties : Table)

namespace Call

/-- The level of the entry that is asked for. -/
def level : Call → Level
  | .trace _ _ => Level.trace
  | .tagged level _ _ _ _ _ => level
  | .unhandled _ _ _ => Level.error

/-- The arguments that every such call has. -/
def argumentNames : Call → List String
  | .trace _ _ => []
  | .tagged _ _ _ _ _ _ => ["self", "message", "key"]
  | .unhandled _ _ _ => ["self", "e", "key"]

/-- What is given by name. -/
def properties : Call → Table
  | .trace _ _ => []
  | .tagged _ _ _ _ properties _ => properties
  | .unhandled _ _ properties => properties

/-- The function that a call is made to. -/
def function : Call → String
  | .trace _ _ => "trace"
  | .tagged level _ _ _ _ _ => "_install.<locals>.k_" ++ Level.word level
  | .unhandled _ _ _ => "_install.<locals>.k_unhandled_error"

/-- The argument that a call is given twice, if there is one. -/
def repeated? (c : Call) : Option String :=
  (c.properties.map Prod.fst).find? c.argumentNames.contains

/-- The properties that an entry shows.  A warning takes what is named `e` for
    its failure. -/
def shown (level : Level) (properties : Table) : Table :=
  if level = Level.warning then properties.filter fun (name, _) => name != "e" else properties

/-- The entry that is asked for. -/
def entry (logger : String) : Call → Entry
  | .trace template arguments =>
    ⟨Level.trace, logger, none, Template.fill template arguments, none, none, false⟩
  | .tagged level template key arguments properties failure =>
    ⟨level, logger, some (keyText key), Template.fill template arguments,
      some (shown level properties), reported failure, false⟩
  | .unhandled failure key properties =>
    ⟨Level.error, logger, some (keyText key), .ok (.ofString "Unexpected error!"),
      some properties, reported failure, true⟩

end Call

/-- A logger. -/
structure Logger where
  name : String
  /-- Its own level; zero stands for that of its surroundings. -/
  level : Level
  /-- The level of its surroundings. -/
  surrounding : Level

namespace Logger

/-- The name of the root logger, which can also be had without a name. -/
def rootName : String := "root"

/-- Is it the root logger? -/
def isRoot (l : Logger) : Bool := l.name.isEmpty || l.name == rootName

/-- The name that entries are made under. -/
def entryName (l : Logger) : String := if l.isRoot then rootName else l.name

/-- The level below which no entries are made.  Around the root logger there
    is nothing to take a level over from. -/
def threshold (l : Logger) : Level :=
  if l.level = 0 ∧ l.isRoot = false then l.surrounding else l.level

/-- The entries that a call makes. -/
def entries (l : Logger) (call : Call) : List Entry :=
  if l.threshold ≤ call.level then [call.entry l.entryName] else []

/-- The outcome of a call: it fails if an argument is given twice, and makes
    its entries otherwise. -/
def make (l : Logger) (call : Call) : Except Failure Unit × List Entry :=
  match call.repeated? with
  | some name => (.error (.argumentRepeated call.function name), [])
  | none => (.ok (), l.entries call)

end Logger

end ChangeFeed.Log
