/-
  ChangeFeed.Value.Layout — values laid out over lines of limited width.

  A value that fits on the rest of its line is written there.  Otherwise a
  list or a table puts each of its items on a line of its own, one column
  further in; a text is cut after blanks and octets after every fourth, the
  pieces standing below each other, in parentheses when the text is the whole
  value.  What cannot be cut stays in one piece however long it is.
-/

import ChangeFeed.Text.Blank
import ChangeFeed.Value.Shown

namespace ChangeFeed.Value

/-! ## §1. Order of tables. -/

mutual

/-- The value with every table in the order of its keys. -/
def sorted : Value → Value
  | .list xs => .list (sortedItems xs)
  | .table es => .table ((sortedEntries es).mergeSort fun a b => a.1 ≤ b.1)
  | v => v

/-- `sorted` on every element. -/
def sortedItems : List Value → List Value
  | [] => []
  | v :: rest => sorted v :: sortedItems rest

/-- `sorted` on every value of a table. -/
def sortedEntries : List (String × Value) → List (String × Value)
  | [] => []
  | (k, v) :: rest => (k, sorted v) :: sortedEntries rest

end

/-! ## §2. Pieces. -/

/-- How wide a line may be. -/
def lineWidth : Int := 80

/-- The start of a line that is `indent` columns in. -/
def newLine (indent : Nat) : List Char := '\n' :: List.replicate indent ' '

/-- Pieces below each other. -/
def stacked (indent : Nat) : List (List Char) → List Char
  | [] => []
  | [piece] => piece
  | piece :: rest => piece ++ newLine indent ++ stacked indent rest

/-- Gathers pieces as long as their quoted form fits; `current` is what has
    been gathered, and `allowance` is kept free behind the last piece. -/
def gather {α : Type} (quoted : List α → List Char) (width : Int) (allowance : Nat)
    (current : List α) : List (List α) → List (List Char)
  | [] => if current.isEmpty then [] else [quoted current]
  | piece :: rest =>
    let width := if rest.isEmpty then width - allowance else width
    if width < (quoted (current ++ piece)).length then
      (if current.isEmpty then [] else [quoted current]) ++
        gather quoted width allowance piece rest
    else gather quoted width allowance (current ++ piece) rest

/-- The pieces of a text, line by line. -/
def textPieces (width : Int) (allowance : Nat) : List (List Char) → List (List Char)
  | [] => []
  | line :: rest =>
    let keep := if rest.isEmpty then allowance else 0
    let piece := Text.quoted line
    (if (piece.length : Int) ≤ width - keep then [piece]
      else gather Text.quoted width keep [] (Text.words line)) ++
      textPieces width allowance rest

/-- Octets by fours; what is left over stands last. -/
def fours : Octets → List Octets
  | a :: b :: c :: d :: rest => [a, b, c, d] :: fours rest
  | [] => []
  | rest => [rest]

/-- The pieces of octets.  Room behind the last piece is kept free only when
    it is shorter than four. -/
def octetPieces (width : Int) (allowance : Nat) (b : Octets) : List (List Char) :=
  gather Text.quotedOctets width (if b.length % 4 = 0 then 0 else allowance) [] (fours b)

/-- Pieces as a whole value, in parentheses, or inside another one. -/
def enclosed (whole : Bool) (indent : Nat) (pieces : List (List Char)) (parentheses : Bool) :
    List Char :=
  if whole && parentheses then '(' :: stacked indent pieces ++ [')']
  else stacked indent pieces

/-! ## §3. The layout. -/

mutual

/-- Lays a value out from column `indent` on, with `allowance` columns to be
    kept free behind it; `whole` says that it is in no other value. -/
def layout (v : Value) (indent allowance : Nat) (whole : Bool) : List Char :=
  let flat := v.shown
  if (flat.length : Int) ≤ lineWidth - indent - allowance then flat
  else match v with
    | .text s =>
      let inner := if whole then 1 else 0
      let pieces := textPieces (lineWidth - (indent + inner : Nat)) (allowance + inner)
        (Text.lines s.toList)
      if s.isEmpty then flat else enclosed whole (indent + inner) pieces (pieces.length != 1)
    | .octets b =>
      let inner := if whole then 1 else 0
      let pieces := octetPieces (lineWidth - (indent + inner : Nat)) (allowance + inner) b
      if b.length ≤ 4 then flat else enclosed whole (indent + inner) pieces true
    | .list xs => '[' :: layoutItems xs (indent + 1) (allowance + 1) ++ [']']
    | .table es => '\x7b' :: layoutEntries es (indent + 1) (allowance + 1) ++ ['\x7d']
    | _ => flat

/-- The elements of a list, one on a line. -/
def layoutItems (xs : List Value) (indent allowance : Nat) : List Char :=
  match xs with
  | [] => []
  | [v] => layout v indent allowance false
  | v :: rest =>
    layout v indent 1 false ++ ',' :: newLine indent ++ layoutItems rest indent allowance

/-- The entries of a table, one on a line. -/
def layoutEntries (es : List (String × Value)) (indent allowance : Nat) : List Char :=
  match es with
  | [] => []
  | [(k, v)] =>
    let key := Text.quoted k.toList
    key ++ ':' :: ' ' :: layout v (indent + key.length + 2) allowance false
  | (k, v) :: rest =>
    let key := Text.quoted k.toList
    key ++ ':' :: ' ' :: layout v (indent + key.length + 2) 1 false ++
      ',' :: newLine indent ++ layoutEntries rest indent allowance

end

/-! ## §4. Depth. -/

mutual

/-- How deeply lists and tables are nested in a value. -/
def depth : Value → Nat
  | .list xs => itemsDepth xs + 1
  | .table es => entriesDepth es + 1
  | _ => 0

/-- The greatest `depth` of an element. -/
def itemsDepth : List Value → Nat
  | [] => 0
  | v :: rest => max (depth v) (itemsDepth rest)

/-- The greatest `depth` of a value in a table. -/
def entriesDepth : List (String × Value) → Nat
  | [] => 0
  | (_, v) :: rest => max (depth v) (entriesDepth rest)

end

/-- Values that are nested more deeply are not laid out. -/
def depthLimit : Nat := 326

/-- The value laid out over lines, tables in the order of their keys. -/
def laidOut (v : Value) : String := String.ofList (layout v.sorted 0 0 true)

end ChangeFeed.Value
