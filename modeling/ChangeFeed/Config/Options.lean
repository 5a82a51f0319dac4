/-
  ChangeFeed.Config.Options — the options of a client.

  They stand in the section `client` of a configuration.  A name has to be
  given; the two times have defaults.  A time may be given as a number of any
  kind, as a truth value or as a text that reads as a number.  Octets stand for
  the text that they encode.  All options are checked, and all complaints are
  made at once, in the order of the options.

  Main results:
    * `validate_ok_iff` — options are accepted exactly if there is no
      complaint, and are then the readings of the section.
-/

import ChangeFeed.Config.Basic
import ChangeFeed.Number.Reading

namespace ChangeFeed.Config

/-- The options of a client. -/
structure Options where
  /-- The name by which the client's group is known. -/
  appId : String
  /-- How long a poll waits, in seconds. -/
  pollTimeout : Double
  /-- How long to wait before topics are subscribed to, in seconds. -/
  initWait : Double
deriving DecidableEq, Repr

namespace Options

/-! ## §1. Single options. -/

/-- The number that a text reads as. -/
def numberOfText (s : String) : Except OptionIssue Double :=
  (Double.ofText? s).elim (.error .unreadableNumber) .ok

/-- The number that a value reads as. -/
def number (v : Value) : Except OptionIssue Double :=
  match v with
  | .float x => .ok x
  | .bool b => .ok (if b then .one else .zero)
  | .int i => (Double.ofInt? i).elim (.error .notNumber) .ok
  | .text s => numberOfText s
  | .octets b => (Octets.decode? b).elim (.error .unreadableNumber) numberOfText
  | _ => .error .notNumber

/-- The number that an option reads as, if it is acceptable. -/
def numberWhere (accepts : Double → Bool) (issue : OptionIssue) (instead : Double)
    (v : Option Value) : Except OptionIssue Double :=
  match v with
  | none => .ok instead
  | some v =>
    match number v with
    | .ok x => if accepts x then .ok x else .error issue
    | .error i => .error i

/-- The name that a text gives a client. -/
def appIdOfText (s : String) : Except OptionIssue String :=
  if s.isEmpty then .error .emptyText else .ok s

/-- The name of a client. -/
def readAppId : Option Value → Except OptionIssue String
  | none => .error .missing
  | some (.text s) => appIdOfText s
  | some (.octets b) => (Octets.decode? b).elim (.error .undecodableText) appIdOfText
  | some _ => .error .notText

/-- How long a poll waits unless anything is said. -/
def defaultPollTimeout : Double := .one

/-- How long to wait before topics are subscribed to, unless anything is
    said. -/
def defaultInitWait : Double := .zero

/-- The time that a poll waits: more than none. -/
def readPollTimeout : Option Value → Except OptionIssue Double :=
  numberWhere Double.isPositive .notPositive defaultPollTimeout

/-- The time before topics are subscribed to: not less than none. -/
def readInitWait : Option Value → Except OptionIssue Double :=
  numberWhere Double.isNonNegative .negative defaultInitWait

/-! ## §2. The section. -/

/-- The complaint about an option, if there is one. -/
def complaint {α : Type} (field : OptionField) : Except OptionIssue α → List Complaint
  | .ok _ => []
  | .error issue => [.option field issue]

/-- Checks a section of options. -/
def validate (section_ : Value) : Except Failure Options :=
  match section_ with
  | .table t =>
    let appId := readAppId (Table.get? t OptionField.appId.name)
    let pollTimeout := readPollTimeout (Table.get? t OptionField.pollTimeout.name)
    let initWait := readInitWait (Table.get? t OptionField.initWait.name)
    match appId, pollTimeout, initWait with
    | .ok a, .ok p, .ok w => .ok ⟨a, p, w⟩
    | a, p, w =>
      .error (.options (complaint .appId a ++ complaint .pollTimeout p ++ complaint .initWait w))
  | _ => .error (.options [.notATable])

/-- The options in a configuration; a configuration without the section is
    treated as if it were empty. -/
def ofConfig (config : Value) : Except Failure Options := do
  validate (← lookFor config "client" (.table []))

/-! ## §3. Accepted options. -/

theorem validate_ok_iff {v : Value} {o : Options} :
    validate v = .ok o ↔ ∃ t, v = .table t ∧
      readAppId (Table.get? t "app_id") = .ok o.appId ∧
      readPollTimeout (Table.get? t "poll_timeout") = .ok o.pollTimeout ∧
      readInitWait (Table.get? t "init_wait") = .ok o.initWait := by
  cases v <;> simp only [validate, reduceCtorEq, false_and, exists_false, Value.table.injEq]
  rename_i t
  simp only [exists_eq_left', OptionField.name]
  obtain ⟨a, p, w⟩ := o
  split
  · simp_all
  · rename_i h
    simp only [reduceCtorEq, false_iff, not_and]
    intro ha hp hw
    exact h a p w ha hp hw

end Options

end ChangeFeed.Config
