/-
  ChangeFeed.Value.Basic — the dynamic values that configurations hold, that
  decoders make of keys and payloads, and that log entries show.

  A table keeps its keys in the order in which they first arrived; writing to
  a key that is present moves nothing.
-/

import ChangeFeed.Calendar
import ChangeFeed.Number.Double
import ChangeFeed.Partition

namespace ChangeFeed

/-! ## §1. The type. -/

/-- Things that a settings table refers to but does not hold. -/
inductive Builtin where
  /-- The layout of log records that shows their key and properties. -/
  | recordLayout
  /-- The function that a consumer reports its errors to. -/
  | errorCallback
deriving DecidableEq, Repr

/-- A value of dynamic kind. -/
inductive Value where
  | null
  | bool (b : Bool)
  | int (i : Int)
  | float (x : Double)
  | text (s : String)
  | octets (b : Octets)
  | list (xs : List Value)
  | table (entries : List (String × Value))
  | partition (p : Partition)
  | day (d : Calendar.Day)
  | clock (c : Calendar.Clock)
  | moment (m : Calendar.Moment)
  | builtin (b : Builtin)
deriving Repr, Inhabited

/-- A table of values under text keys. -/
abbrev Table := List (String × Value)

namespace Value

/-! ## §2. Identity. -/

mutual

/-- Are two values built alike? -/
def identical : Value → Value → Bool
  | .null, .null => true
  | .bool a, .bool b => a == b
  | .int a, .int b => a == b
  | .float a, .float b => a == b
  | .text a, .text b => a == b
  | .octets a, .octets b => a == b
  | .list a, .list b => identicalList a b
  | .table a, .table b => identicalTable a b
  | .partition a, .partition b => a == b
  | .day a, .day b => a == b
  | .clock a, .clock b => a == b
  | .moment a, .moment b => a == b
  | .builtin a, .builtin b => a == b
  | _, _ => false

/-- `identical` for lists, element by element. -/
def identicalList : List Value → List Value → Bool
  | [], [] => true
  | v :: vs, w :: ws => identical v w && identicalList vs ws
  | _, _ => false

/-- `identical` for tables, entry by entry. -/
def identicalTable : List (String × Value) → List (String × Value) → Bool
  | [], [] => true
  | (k, v) :: vs, (l, w) :: ws => k == l && identical v w && identicalTable vs ws
  | _, _ => false

end

mutual

theorem identical_iff : (v w : Value) → (identical v w = true ↔ v = w)
  | .list a, w => by cases w <;> simp [identical, identicalList_iff a]
  | .table a, w => by cases w <;> simp [identical, identicalTable_iff a]
  | .null, w => by cases w <;> simp [identical]
  | .bool a, w => by cases w <;> simp [identical]
  | .int a, w => by cases w <;> simp [identical]
  | .float a, w => by cases w <;> simp [identical]
  | .text a, w => by cases w <;> simp [identical]
  | .octets a, w => by cases w <;> simp [identical]
  | .partition a, w => by cases w <;> simp [identical]
  | .day a, w => by cases w <;> simp [identical]
  | .clock a, w => by cases w <;> simp [identical]
  | .moment a, w => by cases w <;> simp [identical]
  | .builtin a, w => by cases w <;> simp [identical]

theorem identicalList_iff : (vs ws : List Value) → (identicalList vs ws = true ↔ vs = ws)
  | [], ws => by cases ws <;> simp [identicalList]
  | v :: vs, ws => by
    cases ws with
    | nil => simp [identicalList]
    | cons w ws => simp [identicalList, identical_iff v w, identicalList_iff vs ws]

theorem identicalTable_iff :
    (vs ws : List (String × Value)) → (identicalTable vs ws = true ↔ vs = ws)
  | [], ws => by cases ws <;> simp [identicalTable]
  | (k, v) :: vs, ws => by
    cases ws with
    | nil => simp [identicalTable]
    | cons w ws =>
      obtain ⟨l, w⟩ := w
      simp [identicalTable, identical_iff v w, identicalTable_iff vs ws]

end

instance : DecidableEq Value := fun v w =>
  decidable_of_iff (identical v w = true) (identical_iff v w)

/-! ## §3. Truth. -/

/-- Does the value count as true where a condition is asked for?  Null,
    false, zero and whatever is empty do not. -/
def isTruthy : Value → Bool
  | .null => false
  | .bool b => b
  | .int i => i != 0
  | .float x => !x.isZero
  | .text s => !s.isEmpty
  | .octets b => !b.isEmpty
  | .list xs => !xs.isEmpty
  | .table es => !es.isEmpty
  | _ => true

/-! ## §4. Kinds. -/

/-- The name of the value's kind, as faults name it. -/
def kindName : Value → String
  | .null => "NoneType"
  | .bool _ => "bool"
  | .int _ => "int"
  | .float _ => "float"
  | .text _ => "str"
  | .octets _ => "bytes"
  | .list _ => "list"
  | .table _ => "dict"
  | .partition _ => "TopicPartition"
  | .day _ => "datetime.date"
  | .clock _ => "datetime.time"
  | .moment _ => "datetime.datetime"
  | .builtin .recordLayout => "type"
  | .builtin .errorCallback => "method"

/-! ## §5. Equality of worth. -/

/-- The integer that a value counts as among numbers. -/
def asInt? : Value → Option Int
  | .int i => some i
  | .bool b => some (if b then 1 else 0)
  | _ => none

mutual

/-- Are two values worth the same?  Numbers are compared by value whatever
    their kind, a truth value counting as one or zero; `nan` is worth nothing,
    not even itself.  Tables are compared without regard to order. -/
def equivalent : Value → Value → Bool
  | .float a, .float b => a.sameValue b
  | .float a, w => match w.asInt? with
    | some i => a.equalsInt i
    | none => false
  | .list a, .list b => equivalentList a b
  | .table a, .table b => a.length == b.length && equivalentTable a b
  | .null, .null => true
  | .bool a, .float b => b.equalsInt (if a then 1 else 0)
  | .int a, .float b => b.equalsInt a
  | .bool a, w => w.asInt? == some (if a then 1 else 0)
  | .int a, w => w.asInt? == some a
  | .text a, .text b => a == b
  | .octets a, .octets b => a == b
  | .partition a, .partition b => a == b
  | .day a, .day b => a == b
  | .clock a, .clock b => a == b
  | .moment a, .moment b => a == b
  | .builtin a, .builtin b => a == b
  | _, _ => false

/-- `equivalent` for lists, element by element. -/
def equivalentList : List Value → List Value → Bool
  | [], [] => true
  | v :: vs, w :: ws => equivalent v w && equivalentList vs ws
  | _, _ => false

/-- Has every entry of the first table an equivalent one in the second? -/
def equivalentTable : List (String × Value) → List (String × Value) → Bool
  | [], _ => true
  | (k, v) :: vs, ws =>
    (match ws.lookup k with
      | some w => equivalent v w
      | none => false) && equivalentTable vs ws

end

end Value

/-! ## §6. Tables. -/

namespace Table

/-- The value under a key. -/
def get? (t : Table) (key : String) : Option Value := t.lookup key

/-- The value under a key, or one to use instead. -/
def getD (t : Table) (key : String) (instead : Value) : Value := (t.get? key).getD instead

/-- Writes a value under a key: in place if the key is present, at the end
    otherwise. -/
def put (t : Table) (key : String) (v : Value) : Table :=
  match t with
  | [] => [(key, v)]
  | (k, w) :: rest => if k = key then (k, v) :: rest else (k, w) :: put rest key v

/-- Writes every entry of `other`, in order. -/
def merge (t other : Table) : Table := other.foldl (fun t e => put t e.1 e.2) t

/-- What was written is there. -/
theorem get?_put_self (t : Table) (k : String) (v : Value) : get? (put t k v) k = some v := by
  induction t with
  | nil => simp [put, get?]
  | cons e rest ih =>
    obtain ⟨l, w⟩ := e
    by_cases h : l = k
    · simp [put, get?, h]
    · have h' : (k == l) = false := by simp [Ne.symm h]
      simpa [put, get?, h, h', List.lookup_cons] using ih

/-- Other keys keep their values. -/
theorem get?_put_of_ne (t : Table) {k l : String} (v : Value) (h : l ≠ k) :
    get? (put t k v) l = get? t l := by
  induction t with
  | nil =>
    have h' : (l == k) = false := by simp [h]
    simp [put, get?, List.lookup_cons, h']
  | cons e rest ih =>
    obtain ⟨m, w⟩ := e
    by_cases hm : m = k
    · have h' : (l == k) = false := by simp [h]
      simp [put, get?, hm, List.lookup_cons, h']
    · by_cases hl : l = m
      · simp [put, get?, hm, hl]
      · have h' : (l == m) = false := by simp [hl]
        simpa [put, get?, hm, List.lookup_cons, h'] using ih

end Table

end ChangeFeed
