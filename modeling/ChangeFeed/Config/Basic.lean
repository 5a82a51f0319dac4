/-
  ChangeFeed.Config.Basic — looking into configurations.

  A configuration is a value that should be a table of tables.  Whoever looks
  for something that has to be there gets a failure when it is missing;
  whoever can do without names what to use instead.  Either fails when asked
  of something that is no table.

  Main results:
    * `demand_ok_iff`, `lookFor_ok_iff` — when a look-up succeeds, and with
      what.
-/

import ChangeFeed.Failure

namespace ChangeFeed.Config

/-- What has to be under a key. -/
def demand (v : Value) (key : String) : Except Failure Value :=
  match v with
  | .table t =>
    match Table.get? t key with
    | some w => .ok w
    | none => .error (.missingKey (.text key))
  | v => .error (.shape (.noKeys v))

/-- What is under a key, or `instead`. -/
def lookFor (v : Value) (key : String) (instead : Value) : Except Failure Value :=
  match v with
  | .table t => .ok (Table.getD t key instead)
  | v => .error (.shape (.noOperation v.kindName "get"))

theorem demand_ok_iff {v w : Value} {key : String} :
    demand v key = .ok w ↔ ∃ t, v = .table t ∧ Table.get? t key = some w := by
  cases v <;> simp [demand]
  split <;> simp_all

theorem lookFor_ok_iff {v w instead : Value} {key : String} :
    lookFor v key instead = .ok w ↔ ∃ t, v = .table t ∧ Table.getD t key instead = w := by
  cases v <;> simp [lookFor]

end ChangeFeed.Config
