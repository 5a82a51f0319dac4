/-
  ChangeFeed.Script.Basic — user code written down as data.

  A script says what decoders, handlers and foreign listeners do when they
  are called, and what is done with a session step by step.  Handlers and
  listeners may in turn take such steps, so scripts can rehearse callbacks
  that act on the session that called them.
-/

import ChangeFeed.Number.Whole
import ChangeFeed.Session.Lifecycle
import ChangeFeed.Tracker.Request

namespace ChangeFeed.Script

/-! ## §1. Decoders. -/

/-- A scripted decoder. -/
inductive Decoder where
  /-- The octets themselves. -/
  | raw
  /-- The text they encode, or nothing. -/
  | text
  /-- The text they encode, or a failure; nothing if they start with an
      exclamation mark. -/
  | strict
  /-- Their number. -/
  | count
  /-- The integer that they write in decimal, or nothing. -/
  | integer
  /-- Always this value. -/
  | constant (v : Value)
  /-- Always this failure. -/
  | fail (f : Failure)
  /-- The key and the text they encode. -/
  | pair
deriving Repr

/-- The integer that octets write in decimal, with an optional minus sign;
    nothing if they write none. -/
def integerOf (data : Octets) : Except Failure (Option Value) :=
  let chars := data.map fun o => Char.ofNat o.toNat
  let (negative, digits) := match chars with
    | '-' :: rest => (true, rest)
    | rest => (false, rest)
  if digits.isEmpty || !digits.all Char.isDigit then .ok none
  else (Whole.ofDigits negative digits).map fun i => some (.int i)

/-- A value, or nothing in place of null. -/
def Decoder.known : Value → Option Value
  | .null => none
  | v => some v

/-- What a scripted decoder makes of octets; `key` is what it pairs them
    with. -/
def Decoder.run (d : Decoder) (key : Value) (data : Option Octets) :
    Except Failure (Option Value) :=
  match d with
  | .raw => .ok (data.map .octets)
  | .text => .ok ((Session.decodeText data).map .text)
  | .strict =>
    match data with
    | none => .ok none
    | some (0x21 :: _) => .ok none
    | some octets =>
      match Octets.decode? octets with
      | some s => .ok (some (.text s))
      | none => .error .undecodable
  | .count => .ok (some (.int (data.getD []).length))
  | .integer => (data.map integerOf).getD (.ok none)
  | .constant v => .ok (known v)
  | .fail f => .error f
  | .pair => .ok (some (.list [key, ((Session.decodeText data).map .text).getD .null]))

/-! ## §2. Steps, rules and listeners. -/

/-- A new decoder or handler for a reader. -/
inductive Setting (Rule : Type) where
  | key (decoding : Decoding Decoder)
  | value (decoding : Decoding Decoder)
  | onEvent (handling : Handling (List Rule))
  | onError (handling : Handling (List Rule))

mutual

/-- Something done with a session.  Readers and foreign listeners are known
    by name; of several readers of one name the last is meant. -/
inductive Step where
  | openReader (name : String) (timeout : Option Timeout)
  /-- Says what a foreign listener does, and perhaps installs it. -/
  | listener (name : String) (script : ListenerScript) (install : Bool)
  /-- Installs nobody. -/
  | unlisten
  | configure (name : String) (settings : List (Setting Rule))
  | process (name : String) (timeout : Option Timeout) (turn : Turn)
  | close (name : String)
  /-- Enters a block at the end of which the reader is closed. -/
  | enter (name : String)
  | leave (name : String)
  | track (name : String) (request : Tracker.Request)
  | subscribe (topics : List String)
  | closeSource
  | pollSource (timeout : Option Timeout) (turn : Turn)
  /-- Is the source's consumer the one it was made with? -/
  | sameConsumer
  /-- Tells the client to stop. -/
  | stop
  /-- Asks whether the client is running. -/
  | askRunning

/-- What to do when a handler is called with something whose fields are as
    `condition` says. -/
inductive Rule where
  | mk (condition : Table) (steps : List Step) (failure : Option Failure)

/-- What a foreign listener does: moves every entry, cuts the assignment off,
    extends it, takes steps and perhaps fails.  It may move entries to no
    offset at all. -/
inductive ListenerScript where
  | mk (move : Option (Option Offset)) (keep : Option Int) (add : Assignment)
    (steps : List Step) (failure : Option Failure)

end

/-- A listener that does nothing. -/
def ListenerScript.idle : ListenerScript := .mk none none [] [] none

instance : Inhabited ListenerScript := ⟨.idle⟩

instance : Inhabited Step := ⟨.unlisten⟩

instance : Inhabited Rule := ⟨.mk [] [] none⟩

/-- Keeps the first `n` elements; a negative `n` leaves out that many at the
    end. -/
def keepFirst {α : Type} (xs : List α) (n : Int) : List α :=
  if n < 0 then xs.take (xs.length - n.natAbs) else xs.take n.toNat

/-- What a scripted listener makes of an assignment. -/
def ListenerScript.amend : ListenerScript → Assignment → Assignment
  | .mk move keep add _ _, a =>
    let moved := match move with
      | some offset => a.map ({ · with offset })
      | none => a
    (match keep with
      | some n => keepFirst moved n
      | none => moved) ++ add

/-! ## §3. Conditions. -/

/-- The short name of a kind of events. -/
def kindWord : Event.Kind → String
  | .set => "set"
  | .delete => "delete"
  | .clear => "clear"
  | .endReached => "eof"

/-- The fields of an event that conditions speak of. -/
def eventView (e : Event) : Table := ("type", .text (kindWord e.kind)) :: e.fields

/-- The fields of an error that conditions speak of. -/
def errorView (m : Message) (code : ErrorCode) : Table :=
  [("topic", .text m.partition.topic), ("partition", .int m.partition.index),
    ("code", .int code.number)]

mutual

/-- Are two values written alike?  A truth value is written like one or
    zero, and a floating-point number never like an integer. -/
def alike : Value → Value → Bool
  | .list vs, .list ws => alikeList vs ws
  | .table vs, .table ws => alikeTable vs ws
  | v, w =>
    match v.asInt?, w.asInt? with
    | some i, some j => i == j
    | _, _ => decide (v = w)

/-- `alike` for lists, element by element. -/
def alikeList : List Value → List Value → Bool
  | [], [] => true
  | v :: vs, w :: ws => alike v w && alikeList vs ws
  | _, _ => false

/-- `alike` for tables, entry by entry. -/
def alikeTable : List (String × Value) → List (String × Value) → Bool
  | [], [] => true
  | (k, v) :: vs, (l, w) :: ws => k == l && alike v w && alikeTable vs ws
  | _, _ => false

end

/-- Are all fields as the condition says?  A field that is not there is not
    even null. -/
def holds (condition view : Table) : Bool :=
  condition.all fun (name, v) => (Table.get? view name).any (alike · v)

/-- The first rule that applies. -/
def applicable? (rules : List Rule) (view : Table) : Option Rule :=
  rules.find? fun | .mk condition _ _ => holds condition view

end ChangeFeed.Script
