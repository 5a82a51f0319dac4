/-
  ChangeFeed.Text.CodePoint — text that may hold halves of surrogate pairs.

  A message can be put together from numbers of code points, and those of the
  surrogates are among them although no character has them.  So the text of a
  message is a sequence of code points.  Every text of characters is one too.
-/

namespace ChangeFeed

/-- A code point: a character, or half of a surrogate pair. -/
inductive CodePoint where
  | scalar (c : Char)
  /-- So far beyond the first surrogate. -/
  | surrogate (offset : Fin 0x800)
deriving DecidableEq, Repr

namespace CodePoint

/-- The number of the first surrogate. -/
def firstSurrogate : Nat := 0xD800

/-- The code point of a number. -/
def ofNat (n : Nat) : CodePoint :=
  if h : firstSurrogate ≤ n ∧ n < firstSurrogate + 0x800 then
    .surrogate ⟨n - firstSurrogate, by omega⟩
  else .scalar (Char.ofNat n)

/-- The number of a code point. -/
def toNat : CodePoint → Nat
  | .scalar c => c.toNat
  | .surrogate offset => firstSurrogate + offset

/-- Is it half of a surrogate pair? -/
def isSurrogate : CodePoint → Bool
  | .scalar _ => false
  | .surrogate _ => true

end CodePoint

/-- A text of code points. -/
abbrev CodePoints := List CodePoint

namespace CodePoints

/-- The code points of a text. -/
def ofString (s : String) : CodePoints := s.toList.map .scalar

end CodePoints

end ChangeFeed
