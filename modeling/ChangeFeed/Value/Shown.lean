/-
  ChangeFeed.Value.Shown — the texts of values.

  `shown` is the text of a value inside another one: texts and octets stand
  in quotes, tables in braces, lists in brackets.  `plain` is the text of a
  value by itself: a text stands for itself and a partition is written by its
  label.
-/

import ChangeFeed.Number.Written
import ChangeFeed.Value.Basic

namespace ChangeFeed.Value

/-- The word for a truth value. -/
def boolWord (b : Bool) : String := if b then "True" else "False"

mutual

/-- The text of a value inside another value. -/
def shown : Value → List Char
  | .null => "None".toList
  | .bool b => (boolWord b).toList
  | .int i => (toString i).toList
  | .float x => x.text.toList
  | .text s => Text.quoted s.toList
  | .octets b => Text.quotedOctets b
  | .list xs => '[' :: shownItems xs ++ [']']
  | .table es => '\x7b' :: shownEntries es ++ ['\x7d']
  | .partition p => p.described.toList
  | .day d => d.text.toList
  | .clock c => c.text.toList
  | .moment m => m.text.toList
  | .builtin b => (kindName (.builtin b)).toList

/-- The elements of a list, between commas. -/
def shownItems : List Value → List Char
  | [] => []
  | [v] => shown v
  | v :: rest => shown v ++ ',' :: ' ' :: shownItems rest

/-- The entries of a table, between commas. -/
def shownEntries : List (String × Value) → List Char
  | [] => []
  | [(k, v)] => Text.quoted k.toList ++ ':' :: ' ' :: shown v
  | (k, v) :: rest =>
    Text.quoted k.toList ++ ':' :: ' ' :: shown v ++ ',' :: ' ' :: shownEntries rest

end

/-- The text of a value inside another value. -/
def described (v : Value) : String := String.ofList v.shown

/-- The text of a value by itself. -/
def plain : Value → String
  | .text s => s
  | .partition p => p.label
  | v => v.described

end ChangeFeed.Value
