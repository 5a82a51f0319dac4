/-
  ChangeFeed.Toml.Text — blanks, comments and quoted texts in TOML documents.

  A text stands between quotation marks, where a backslash starts an escape,
  or between apostrophes, where everything stands for itself.  With three
  marks on either side it may run over several lines; up to two more marks
  may stand before the closing ones.  Control characters other than the tab
  are refused everywhere, except for line ends where lines may end.
-/

namespace ChangeFeed.Toml

/-! ## §1. Blanks and comments. -/

/-- Blanks within a line. -/
def isBlank (c : Char) : Bool := c == ' ' || c == '\t'

/-- Blanks and line ends. -/
def isFiller (c : Char) : Bool := isBlank c || c == '\n'

/-- Characters that may not stand in a text or a comment; `manyLines` allows
    line ends. -/
def isRefused (manyLines : Bool) (c : Char) : Bool :=
  (c.toNat < 0x20 || c.toNat == 0x7F) && c != '\t' && !(manyLines && c == '\n')

/-- What follows the blanks at the start. -/
def skipBlanks (s : List Char) : List Char := s.dropWhile isBlank

/-- What follows the blanks and line ends at the start. -/
def skipFiller (s : List Char) : List Char := s.dropWhile isFiller

/-- What follows the comment at the start, if there is one. -/
def skipComment : List Char → Option (List Char)
  | '#' :: rest =>
    if (rest.takeWhile (· != '\n')).any (isRefused false) then none
    else some (rest.dropWhile (· != '\n'))
  | s => some s

/-- What follows blanks, line ends and comments; `fuel` bounds the number of
    comments. -/
def skipBetween : Nat → List Char → Option (List Char)
  | 0, s => some s
  | fuel + 1, s =>
    match skipFiller s with
    | '#' :: rest => do
      let after ← skipComment ('#' :: rest)
      skipBetween fuel after
    | s => some s

/-! ## §2. Escapes. -/

/-- The value of a digit in base sixteen. -/
def hexValue? (c : Char) : Option Nat :=
  let n := c.toNat
  if c.isDigit then some (n - 0x30)
  else if 'a' ≤ c ∧ c ≤ 'f' then some (n - 0x57)
  else if 'A' ≤ c ∧ c ≤ 'F' then some (n - 0x37)
  else none

/-- The number that `count` digits in base sixteen write, and what follows. -/
def takeHex (count n : Nat) (s : List Char) : Option (Nat × List Char) :=
  match count, s with
  | 0, s => some (n, s)
  | _ + 1, [] => none
  | count + 1, c :: rest => do
    let d ← hexValue? c
    takeHex count (16 * n + d) rest

/-- The character that `count` digits in base sixteen name, and what
    follows. -/
def takeCodePoint (count : Nat) (s : List Char) : Option (List Char × List Char) := do
  let (n, rest) ← takeHex count 0 s
  if Nat.isValidChar n then some ([Char.ofNat n], rest) else none

/-- What an escape stands for and what follows it; `s` is what follows the
    backslash.  Where a text may have many lines, a backslash at the end of a
    line takes away the line end and all blanks after it. -/
def takeEscape (manyLines : Bool) (s : List Char) : Option (List Char × List Char) :=
  match s with
  | [] => none
  | c :: rest =>
    if manyLines && isFiller c then
      match skipBlanks s with
      | [] => some ([], [])
      | '\n' :: rest => some ([], skipFiller rest)
      | _ => none
    else
      match c with
      | 'u' => takeCodePoint 4 rest
      | 'U' => takeCodePoint 8 rest
      | 'b' => some (['\x08'], rest)
      | 't' => some (['\t'], rest)
      | 'n' => some (['\n'], rest)
      | 'f' => some (['\x0c'], rest)
      | 'r' => some (['\r'], rest)
      | '"' => some (['"'], rest)
      | '\\' => some (['\\'], rest)
      | _ => none

/-! ## §3. Quoted texts. -/

/-- The apostrophe. -/
def apostrophe : Char := Char.ofNat 0x27

/-- Does the text start with this mark, three times? -/
def startsTriple (mark : Char) : List Char → Bool
  | a :: b :: c :: _ => a == mark && b == mark && c == mark
  | _ => false

/-- Up to two marks at the start, and what follows. -/
def takeExtra (mark : Char) : List Char → List Char × List Char
  | a :: b :: rest =>
    if a = mark then if b = mark then ([a, b], rest) else ([a], b :: rest) else ([], a :: b :: rest)
  | [a] => if a = mark then ([a], []) else ([], [a])
  | [] => ([], [])

/-- The rest of a text between quotation marks; `fuel` bounds its length. -/
def escapedRest (manyLines : Bool) : Nat → List Char → Option (List Char × List Char)
  | 0, _ => none
  | _ + 1, [] => none
  | fuel + 1, '"' :: rest =>
    if !manyLines then some ([], rest)
    else if startsTriple '"' ('"' :: rest) then some (takeExtra '"' (rest.drop 2))
    else do
      let (text, rest) ← escapedRest manyLines fuel rest
      some ('"' :: text, rest)
  | fuel + 1, '\\' :: rest => do
    let (escaped, rest) ← takeEscape manyLines rest
    let (text, rest) ← escapedRest manyLines fuel rest
    some (escaped ++ text, rest)
  | fuel + 1, c :: rest =>
    if isRefused manyLines c then none
    else do
      let (text, rest) ← escapedRest manyLines fuel rest
      some (c :: text, rest)

/-- The rest of a text between apostrophes. -/
def literalRest : List Char → Option (List Char × List Char)
  | [] => none
  | c :: rest =>
    if c = apostrophe then some ([], rest)
    else if isRefused false c then none
    else (literalRest rest).map fun (text, rest) => (c :: text, rest)

/-- The rest of a text of many lines between apostrophes. -/
def literalLinesRest : List Char → Option (List Char × List Char)
  | [] => none
  | c :: rest =>
    if startsTriple apostrophe (c :: rest) then some (takeExtra apostrophe (rest.drop 2))
    else if isRefused true c then none
    else (literalLinesRest rest).map fun (text, rest) => (c :: text, rest)

/-- What follows a line end at the start. -/
def skipLineEnd : List Char → List Char
  | '\n' :: rest => rest
  | s => s

/-- A text on one line, in either kind of quotes. -/
def takeLineText : List Char → Option (List Char × List Char)
  | [] => none
  | c :: rest =>
    if c = '"' then escapedRest false (rest.length + 1) rest
    else if c = apostrophe then literalRest rest
    else none

/-- A text in either kind of quotes, on one line or on many. -/
def takeText (s : List Char) : Option (List Char × List Char) :=
  if startsTriple '"' s then
    let rest := skipLineEnd (s.drop 3)
    escapedRest true (rest.length + 1) rest
  else if startsTriple apostrophe s then literalLinesRest (skipLineEnd (s.drop 3))
  else takeLineText s

end ChangeFeed.Toml
