/-
  ChangeFeed.Text.Blank — white space and line ends.

  Three sets of characters are in use.  `isBlank` is the set that separates
  words in laid-out text: Unicode's white space together with the four
  information separators U+001C to U+001F.  `isWhiteSpace` is Unicode's
  property alone; it is what a number may be surrounded by.  `isLineEnd` is
  the set of characters that end a line, where a carriage return followed by
  a line feed counts as one end.
-/

namespace ChangeFeed.Text

/-! ## §1. The classes. -/

/-- Unicode's property White_Space: 25 characters. -/
def isWhiteSpace (c : Char) : Bool :=
  let n := c.toNat
  (0x09 ≤ n && n ≤ 0x0D) || n == 0x20 || n == 0x85 || n == 0xA0 || n == 0x1680 ||
    (0x2000 ≤ n && n ≤ 0x200A) || n == 0x2028 || n == 0x2029 || n == 0x202F ||
    n == 0x205F || n == 0x3000

/-- White space or one of the information separators U+001C to U+001F. -/
def isBlank (c : Char) : Bool :=
  isWhiteSpace c || (0x1C ≤ c.toNat && c.toNat ≤ 0x1F)

/-- The characters after which a new line starts. -/
def isLineEnd (c : Char) : Bool :=
  let n := c.toNat
  (0x0A ≤ n && n ≤ 0x0D) || (0x1C ≤ n && n ≤ 0x1E) || n == 0x85 || n == 0x2028 ||
    n == 0x2029

/-! ## §2. Trimming and cutting. -/

/-- The text without the white space around it. -/
def trim (s : List Char) : List Char :=
  ((s.dropWhile isWhiteSpace).reverse.dropWhile isWhiteSpace).reverse

/-- The lines of a text, each with the characters that end it.  Only the last
    line may lack an end, and no line is empty. -/
def lines (s : List Char) : List (List Char) :=
  go [] s
where
  /-- `line` holds the current line, last character first. -/
  go (line : List Char) : List Char → List (List Char)
    | [] => if line.isEmpty then [] else [line.reverse]
    | '\r' :: '\n' :: rest => ('\n' :: '\r' :: line).reverse :: go [] rest
    | c :: rest =>
      if isLineEnd c then (c :: line).reverse :: go [] rest else go (c :: line) rest

/-- The words of a text, each with the blanks that follow it.  Blanks at the
    start form a piece of their own. -/
def words (s : List Char) : List (List Char) :=
  go [] false s
where
  /-- `word` holds the current piece, last character first; `blank` says
      whether that piece has come to its blanks. -/
  go (word : List Char) (blank : Bool) : List Char → List (List Char)
    | [] => if word.isEmpty then [] else [word.reverse]
    | c :: rest =>
      if isBlank c then go (c :: word) true rest
      else if blank then word.reverse :: go [c] false rest
      else go (c :: word) false rest

/-! ## §3. Joining. -/

/-- The texts in order, with `separator` between each two. -/
def join (separator : String) (parts : List String) : String :=
  separator.intercalate parts

end ChangeFeed.Text
