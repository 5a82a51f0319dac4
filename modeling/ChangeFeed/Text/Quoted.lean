/-
  ChangeFeed.Text.Quoted — texts and octets in their quoted form.

  A quoted text stands between apostrophes, or between quotation marks when
  it holds an apostrophe and no quotation mark.  The quote in use, the
  backslash and every unprintable character are written as escapes; all else
  stands for itself.  Quoted octets carry the mark `b` in front and escape
  every octet outside printable ASCII.
-/

import ChangeFeed.Text.Octets
import ChangeFeed.Text.Printable

namespace ChangeFeed.Text

/-! ## §1. Digits in base sixteen. -/

/-- The digit of a number below sixteen, in lower case. -/
def hexDigit (n : Nat) : Char :=
  if n < 10 then Char.ofNat (0x30 + n) else Char.ofNat (0x57 + n)

/-- The last `width` digits of `n` in base sixteen. -/
def hex (width n : Nat) : List Char :=
  match width with
  | 0 => []
  | w + 1 => hex w (n / 16) ++ [hexDigit (n % 16)]

/-! ## §2. Which quote. -/

/-- The apostrophe. -/
def apostrophe : Char := Char.ofNat 0x27

/-- The quotation mark. -/
def quotationMark : Char := Char.ofNat 0x22

/-- The quote that needs the fewer escapes; an apostrophe unless only
    apostrophes occur. -/
def quoteFor (hasApostrophe hasQuotationMark : Bool) : Char :=
  if hasApostrophe && !hasQuotationMark then quotationMark else apostrophe

/-! ## §3. Texts. -/

/-- A code point in the shortest numeric escape that can hold it. -/
def numericEscape (n : Nat) : List Char :=
  if n < 0x100 then ['\\', 'x'] ++ hex 2 n
  else if n < 0x10000 then ['\\', 'u'] ++ hex 4 n
  else ['\\', 'U'] ++ hex 8 n

/-- One character inside `quote`; `plain` says which characters may stand for
    themselves. -/
def quoteChar (plain : Char → Bool) (quote c : Char) : List Char :=
  if c = quote || c = '\\' then ['\\', c]
  else if c = '\n' then ['\\', 'n']
  else if c = '\r' then ['\\', 'r']
  else if c = '\t' then ['\\', 't']
  else if plain c then [c]
  else numericEscape c.toNat

/-- A text between quotes, where `plain` characters stand for themselves. -/
def quoteWith (plain : Char → Bool) (s : List Char) : List Char :=
  let quote := quoteFor (s.contains apostrophe) (s.contains quotationMark)
  quote :: s.flatMap (quoteChar plain quote) ++ [quote]

/-- The quoted form of a text. -/
def quoted (s : List Char) : List Char := quoteWith isPrintable s

/-- The quoted form of a text. -/
def quote (s : String) : String := String.ofList (quoted s.toList)

/-! ## §4. Octets. -/

/-- Octets between quotes, after the mark `b`. -/
def quotedOctets (b : Octets) : List Char :=
  let chars := b.map fun o => Char.ofNat o.toNat
  let quote := quoteFor (chars.contains apostrophe) (chars.contains quotationMark)
  let plain (c : Char) : Bool := 0x20 ≤ c.toNat && c.toNat < 0x7F
  'b' :: quote :: chars.flatMap (quoteChar plain quote) ++ [quote]

end ChangeFeed.Text
