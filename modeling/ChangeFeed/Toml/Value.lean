/-
  ChangeFeed.Toml.Value — values in TOML documents.

  Arrays may run over lines, hold comments and end in a comma.  Tables within
  a line may do none of these, and nothing can be added to a table or array
  that stands in one.  Whatever is wrong first in the order of the text is
  what reading fails with; nesting too deeply is one of the things that can be
  wrong.
-/

import ChangeFeed.Toml.Scalar
import ChangeFeed.Toml.Table

namespace ChangeFeed.Toml

/-! ## §1. Keys. -/

/-- The characters of names without quotes. -/
def isNameChar (c : Char) : Bool := c.isAlphanum || c == '-' || c == '_'

/-- One name of a key. -/
def takeName (s : List Char) : Option (String × List Char) :=
  match s with
  | [] => none
  | c :: _ =>
    if isNameChar c then some (String.ofList (s.takeWhile isNameChar), s.dropWhile isNameChar)
    else (takeLineText s).map fun (text, rest) => (String.ofList text, rest)

/-- The names of a key, between points, and what follows the blanks behind
    it; `fuel` bounds their number. -/
def takeKey : Nat → List Char → Option (Key × List Char)
  | 0, _ => none
  | fuel + 1, s => do
    let (name, rest) ← takeName s
    match skipBlanks rest with
    | '.' :: rest => do
      let (names, rest) ← takeKey fuel (skipBlanks rest)
      some (name :: names, rest)
    | rest => some ([name], rest)

/-! ## §2. Values. -/

/-- What has been read, unless the document is malformed here. -/
def wellFormed {α : Type} : Option α → Except Failure α
  | some a => .ok a
  | none => .error .malformedDocument

/-- How much nesting there may be. -/
def nestingLimit : Nat := 980

/-- How much of the limit an array takes up. -/
def arrayNesting : Nat := 2

/-- How much of the limit a table takes up. -/
def tableNesting : Nat := 3

/-- What is left of `room` inside something that takes up `needed` of it. -/
def inside (room needed : Nat) : Except Failure Nat :=
  if needed ≤ room then .ok (room - needed) else .error .tooDeep

mutual

/-- A value, with so much `room` for nesting; `fuel` bounds the depth and
    length of what it holds. -/
def takeValue (room : Nat) : Nat → List Char → Except Failure (Value × List Char)
  | 0, _ => .error .malformedDocument
  | fuel + 1, s =>
    match s with
    | '[' :: rest => do
      let room ← inside room arrayNesting
      let rest ← wellFormed (skipBetween rest.length rest)
      match rest with
      | ']' :: rest => .ok (.list [], rest)
      | rest => do
        let (items, rest) ← takeItems room fuel rest
        .ok (.list items, rest)
    | '\x7b' :: rest => do
      let room ← inside room tableNesting
      match skipBlanks rest with
      | '\x7d' :: rest => .ok (.table [], rest)
      | rest => do
        let (entries, rest) ← takeEntries room fuel [] [] rest
        .ok (.table entries, rest)
    | s =>
      match takeText s with
      | some (text, rest) => .ok (.text (String.ofList text), rest)
      | none => takeScalar s

/-- The elements of an array that is not empty, up to its end. -/
def takeItems (room : Nat) : Nat → List Char → Except Failure (List Value × List Char)
  | 0, _ => .error .malformedDocument
  | fuel + 1, s => do
    let (item, rest) ← takeValue room fuel s
    let rest ← wellFormed (skipBetween rest.length rest)
    match rest with
    | ']' :: rest => .ok ([item], rest)
    | ',' :: rest => do
      let rest ← wellFormed (skipBetween rest.length rest)
      match rest with
      | ']' :: rest => .ok ([item], rest)
      | rest => do
        let (items, rest) ← takeItems room fuel rest
        .ok (item :: items, rest)
    | _ => .error .malformedDocument

/-- The entries of a table that is not empty, up to its end, on top of those
    in `table`; `closed` are the keys that nothing can be added to. -/
def takeEntries (room : Nat) :
    Nat → Table → List Key → List Char → Except Failure (Table × List Char)
  | 0, _, _, _ => .error .malformedDocument
  | fuel + 1, table, closed, s => do
    let (key, rest) ← wellFormed (takeKey (s.length + 1) s)
    let rest ← wellFormed (expect '=' rest)
    let (value, rest) ← takeValue room fuel (skipBlanks rest)
    if isBelow closed key then .error .malformedDocument
    else do
      let table ← wellFormed (addAt false key value table)
      match skipBlanks rest with
      | '\x7d' :: rest => .ok (table, rest)
      | ',' :: rest =>
        takeEntries room fuel table (if isClosed value then key :: closed else closed)
          (skipBlanks rest)
      | _ => .error .malformedDocument

end

end ChangeFeed.Toml
