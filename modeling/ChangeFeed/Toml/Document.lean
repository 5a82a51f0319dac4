/-
  ChangeFeed.Toml.Document — TOML documents.

  A document is a sequence of statements, one on a line: a table is opened, a
  table is added to an array, or a value is written under a key in the table
  opened last.  A table may be opened once, unless it lies in an array to
  which a new table has been added since; what a dotted key made cannot be
  opened later; and nothing can be added to a value that is written in one
  piece.  Statements are carried out as they are read, so the first thing that
  is wrong is the one that counts.
-/

import ChangeFeed.Failure
import ChangeFeed.Toml.Value

namespace ChangeFeed.Toml

/-! ## §1. Statements. -/

/-- One statement. -/
inductive Statement where
  /-- Opens a table. -/
  | openTable (key : Key)
  /-- Adds a table to an array and opens it. -/
  | openItem (key : Key)
  /-- Writes a value in the open table. -/
  | write (key : Key) (v : Value)

/-- The statement at the start of a line that holds one. -/
def takeStatement (s : List Char) : Except Failure (Statement × List Char) :=
  match s with
  | '[' :: '[' :: rest => do
    let (key, rest) ← wellFormed (takeKey (s.length + 1) (skipBlanks rest))
    let rest ← wellFormed (expect ']' rest)
    let rest ← wellFormed (expect ']' rest)
    .ok (.openItem key, rest)
  | '[' :: rest => do
    let (key, rest) ← wellFormed (takeKey (s.length + 1) (skipBlanks rest))
    let rest ← wellFormed (expect ']' rest)
    .ok (.openTable key, rest)
  | s => do
    let (key, rest) ← wellFormed (takeKey (s.length + 1) s)
    let rest ← wellFormed (expect '=' rest)
    let (v, rest) ← takeValue nestingLimit (2 * rest.length + 2) (skipBlanks rest)
    .ok (.write key v, rest)

/-- What follows the end of a line, or nothing at the end of the document. -/
def endLine (s : List Char) : Option (List Char) :=
  match skipComment (skipBlanks s) with
  | some [] => some []
  | some ('\n' :: rest) => some rest
  | _ => none

/-! ## §2. Building. -/

/-- A document as far as it has been built. -/
structure Building where
  root : Table
  /-- The table that values are written in. -/
  current : Key
  /-- Tables that cannot be opened. -/
  opened : List Key
  /-- Tables that cannot be opened after the next header. -/
  dotted : List Key
  /-- What nothing can be added to. -/
  closed : List Key

namespace Building

/-- Nothing yet. -/
def empty : Building := ⟨[], [], [], [], []⟩

/-- Opens a table. -/
def openTable (b : Building) (key : Key) : Option Building :=
  let opened := b.dotted ++ b.opened
  if opened.contains key || isBelow b.closed key then none
  else (within true some key b.root).map fun root =>
    { b with root := root, current := key, opened := key :: opened, dotted := [] }

/-- Adds a table to an array and opens it.  Whatever was said about tables
    below the array was about its earlier tables. -/
def openItem (b : Building) (key : Key) : Option Building :=
  if isBelow b.closed key then none
  else
    let keep (path : Key) : Bool := !key.isPrefixOf path
    match key.getLast? with
    | none => none
    | some name => (within true (addItem name) key.dropLast b.root).map fun root =>
      ⟨root, key, key :: (b.dotted ++ b.opened).filter keep, [], b.closed.filter keep⟩

/-- The tables on the way to a key. -/
def onTheWay (current key : Key) : List Key :=
  (List.range (key.length - 1)).map fun i => current ++ key.take (i + 1)

/-- Writes a value in the open table. -/
def write (b : Building) (key : Key) (v : Value) : Option Building :=
  let full := b.current ++ key
  let way := onTheWay b.current key
  if way.any b.opened.contains || isBelow b.closed full.dropLast then none
  else (addAt true full v b.root).map fun root =>
    { b with
      root := root
      dotted := way ++ b.dotted
      closed := if isClosed v then full :: b.closed else b.closed }

/-- Takes one statement. -/
def apply (b : Building) : Statement → Option Building
  | .openTable key => b.openTable key
  | .openItem key => b.openItem key
  | .write key v => b.write key v

end Building

/-! ## §3. Documents. -/

/-- Carries out the statements of a document; `fuel` bounds the number of
    lines. -/
def build : Nat → Building → List Char → Except Failure Building
  | 0, b, _ => .ok b
  | fuel + 1, b, s =>
    match skipBlanks s with
    | [] => .ok b
    | '\n' :: rest => build fuel b rest
    | '#' :: rest => do
      let rest ← wellFormed (endLine ('#' :: rest))
      build fuel b rest
    | s => do
      let (statement, rest) ← takeStatement s
      let b ← wellFormed (b.apply statement)
      let rest ← wellFormed (endLine rest)
      build fuel b rest

/-- Single line feeds in place of pairs of carriage return and line feed. -/
def unifyLineEnds : List Char → List Char
  | '\r' :: '\n' :: rest => '\n' :: unifyLineEnds rest
  | c :: rest => c :: unifyLineEnds rest
  | [] => []

/-- The table that a text describes. -/
def ofChars (s : List Char) : Except Failure Table :=
  let s := unifyLineEnds s
  (build (s.length + 1) .empty s).map Building.root

/-- The table that a document in UTF-8 describes. -/
def ofOctets (document : Octets) : Except Failure Table :=
  match Octets.decode? document with
  | none => .error .undecodable
  | some s => ofChars s.toList

end ChangeFeed.Toml
