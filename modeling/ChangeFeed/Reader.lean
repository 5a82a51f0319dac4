/-
  ChangeFeed.Reader — a reader: what it makes of messages, whom it tells, and
  how far it has come.

  What decoders and handlers are is left to `Roles`; what they do is for
  `Environment` to say.
-/

import ChangeFeed.Event
import ChangeFeed.Listener
import ChangeFeed.Tracker

namespace ChangeFeed

/-! ## §1. What a reader is given. -/

/-- The kinds of things that whoever uses the library brings along. -/
structure Roles where
  /-- Decoders for keys. -/
  KeyDecoder : Type
  /-- Decoders for values. -/
  ValueDecoder : Type
  /-- Handlers for events. -/
  EventHandler : Type
  /-- Handlers for messages that report an error. -/
  ErrorHandler : Type
  /-- What all of these may remember between calls. -/
  Memory : Type

/-- How octets become a key or a value. -/
inductive Decoding (δ : Type) where
  /-- The octets themselves. -/
  | raw
  /-- The text that they encode; there is none if they encode no text. -/
  | text
  /-- As a decoder of the user's says. -/
  | custom (decoder : δ)
deriving Repr, Inhabited

/-- What is done with something that a reader reports. -/
inductive Handling (η : Type) where
  /-- Nothing. -/
  | ignore
  /-- It is printed. -/
  | print
  /-- It is given to a handler of the user's. -/
  | custom (handler : η)
deriving Repr, Inhabited

/-! ## §2. Readers. -/

/-- How long a poll may wait, in seconds.  It is handed on to the source as it
    is. -/
inductive Timeout where
  | whole (seconds : Int)
  | real (seconds : Double)
  /-- No number; what it means is up to the source. -/
  | other (v : Value)
deriving DecidableEq, Repr

/-- A reader of the source. -/
structure Reader (R : Roles) where
  name : String
  /-- How long a step waits for a message unless it is told otherwise. -/
  timeout : Option Timeout
  keyDecoding : Decoding R.KeyDecoder
  valueDecoding : Decoding R.ValueDecoder
  onEvent : Handling R.EventHandler
  onError : Handling R.ErrorHandler
  /-- The offset of the last message read, per partition. -/
  tracker : Tracker
  closed : Bool
  /-- The listener that was installed when the reader was opened. -/
  below : Listener

end ChangeFeed
