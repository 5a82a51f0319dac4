/-
  ChangeFeed.Journal — what can be seen of a session from outside.

  Every call to something outside the library leaves an occurrence in the
  journal before it is made, so the journal shows what was called with what,
  in order, whatever came of it.
-/

import ChangeFeed.Log.Entry
import ChangeFeed.Reader

namespace ChangeFeed

/-- Something that a session did and that can be seen from outside. -/
inductive Occurrence where
  /-- The source was asked for a message. -/
  | polled (timeout : Option Timeout)
  /-- A direct source took over an assignment. -/
  | assigned (assignment : Assignment)
  /-- A consumer was told of its assignment. -/
  | assign (assignment : Assignment)
  /-- A consumer was told which topics to read. -/
  | subscribe (topics : List String)
  /-- A consumer was closed. -/
  | closeConsumer
  /-- A foreign listener was called. -/
  | notify (name : String) (assignment : Assignment)
  /-- A key was given to a decoder of the user's. -/
  | decodeKey (reader : String) (data : Option Octets)
  /-- A value was given to a decoder of the user's. -/
  | decodeValue (reader : String) (key : Value) (data : Octets)
  /-- An event was given to a handler of the user's. -/
  | event (reader : String) (event : Event)
  /-- A message that reports an error was given to a handler of the user's. -/
  | error (reader : String) (partition : Partition) (code : ErrorCode)
  /-- A log entry was made. -/
  | logged (entry : Log.Entry)
  /-- A line was printed. -/
  | printed (line : String)
  /-- A line was printed to where errors go. -/
  | complained (line : String)
  /-- A consumer was made. -/
  | createConsumer (settings : Table)
  /-- The client waited. -/
  | sleep (seconds : Double)
  /-- Somebody asked whether the client is running. -/
  | running (flag : Bool)
  /-- Logging was set up. -/
  | configureLogging (settings : Value)
  /-- Logging was shut down. -/
  | shutDownLogging
  /-- A configuration was given back to whoever brought it. -/
  | configuration (config : Value)
deriving Repr

end ChangeFeed
