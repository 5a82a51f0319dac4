/-
  ChangeFeed.Log.Template — message templates with arguments.

  In a template a percent sign starts a directive: a name in parentheses if
  the arguments are a table, flags, a width, a precision, and the letter of a
  conversion.  A star in place of a width or a precision takes it from the
  arguments.  Two percent signs in a row stand for one.  Positional arguments
  have to be used up; of a table's entries any number may be used.

  Fields are kept as runs until the whole template has been filled, so that
  what is wrong further on is found before any padding is written out.
-/

import ChangeFeed.Failure
import ChangeFeed.Number.Written
import ChangeFeed.Text.CodePoint
import ChangeFeed.Text.Runs

namespace ChangeFeed.Log.Template

/-! ## §1. Arguments. -/

/-- The arguments that are left. -/
inductive Arguments where
  | positional (rest : List Value)
  /-- A table; `next` is what the next directive takes, if it may take
      anything. -/
  | named (table : Table) (next : Option Value)

/-- The arguments of a message.  A table that is the only argument and is not
    empty is looked into by name. -/
def Arguments.ofList : List Value → Arguments
  | [.table (e :: es)] => .named (e :: es) (some (.table (e :: es)))
  | vs => .positional vs

/-- Takes the next argument. -/
def Arguments.take : Arguments → Except Failure (Value × Arguments)
  | .positional (v :: rest) => .ok (v, .positional rest)
  | .named t (some v) => .ok (v, .named t none)
  | _ => .error (.template .tooFewArguments)

/-- Makes the entry of a table the next argument. -/
def Arguments.select (args : Arguments) (key : String) : Except Failure Arguments :=
  match args with
  | .positional _ => .error (.template .needsTable)
  | .named t _ =>
    match Table.get? t key with
    | some v => .ok (.named t (some v))
    | none => .error (.missingKey (.text key))

/-- Have all arguments been used that had to be? -/
def Arguments.usedUp : Arguments → Bool
  | .positional rest => rest.isEmpty
  | .named _ _ => true

/-! ## §2. Fields. -/

/-- How a converted argument is laid out. -/
structure Layout where
  /-- Against the left edge. -/
  left : Bool
  /-- With a sign in any case. -/
  plus : Bool
  /-- With a blank in place of a plus sign. -/
  blank : Bool
  /-- With the mark of the base, or with the point in any case. -/
  alternate : Bool
  /-- With zeros up to the width. -/
  zero : Bool
  width : Nat
  precision : Option Nat

/-- Nothing special. -/
def Layout.plain : Layout := ⟨false, false, false, false, false, 0, none⟩

/-- The layout with one more flag, if the character is one. -/
def Layout.withFlag? (l : Layout) (c : Char) : Option Layout :=
  if c = '-' then some { l with left := true }
  else if c = '+' then some { l with plus := true }
  else if c = ' ' then some { l with blank := true }
  else if c = '#' then some { l with alternate := true }
  else if c = '0' then some { l with zero := true }
  else none

/-- A character, repeated. -/
def repeated (count : Nat) (c : Char) : Runs CodePoint := [⟨count, .scalar c⟩]

/-- Characters, each on its own. -/
def single (s : List Char) : Runs CodePoint := .ofList (s.map .scalar)

/-- Text in a field of the layout's width. -/
def Layout.pad (l : Layout) (text : Runs CodePoint) : Runs CodePoint :=
  let blanks := repeated (l.width - text.size) ' '
  if l.left then text ++ blanks else blanks ++ text

/-- A text, cut off at the precision. -/
def Layout.text (l : Layout) (text : List Char) : Runs CodePoint :=
  l.pad (single (match l.precision with
    | some n => text.take n
    | none => text))

/-- A number: its sign, the mark of its base, and its digits.  Zeros go
    behind the mark. -/
def Layout.number (l : Layout) (negative : Bool) (mark : List Char) (digits : Runs CodePoint) :
    Runs CodePoint :=
  let sign := if negative then ['-'] else if l.plus then ['+'] else if l.blank then [' '] else []
  let front := single (sign ++ mark)
  if l.zero && !l.left then
    front ++ repeated (l.width - front.size - digits.size) '0' ++ digits
  else l.pad (front ++ digits)

/-! ## §3. Conversions. -/

/-- Capital letters for small ones. -/
def capitals (s : List Char) : List Char := s.map Char.toUpper

/-- The text of a value inside another one, in ASCII. -/
def ascii (v : Value) : List Char :=
  v.shown.flatMap fun c => if c.toNat < 0x80 then [c] else Text.numericEscape c.toNat

/-- The integer that a directive for integers writes. -/
def integerOf (conversion : Char) (v : Value) : Except TemplateFault Int :=
  let whole := conversion = 'd' || conversion = 'i' || conversion = 'u'
  match v with
  | .int i => .ok i
  | .bool b => .ok (if b then 1 else 0)
  | .float x =>
    if !whole then .error (.needsInteger conversion v.kindName)
    else match x with
      | .nan => .error .nanAsInteger
      | .infinite _ => .error .infinityAsInteger
      | .finite s m e => .ok (Double.truncate s m e)
  | v =>
    .error (if whole then .needsReal conversion v.kindName
      else .needsInteger conversion v.kindName)

/-- An integer in the base of its directive. -/
def integerText (l : Layout) (conversion : Char) (i : Int) : Runs CodePoint :=
  let base := if conversion = 'o' then 8 else if conversion = 'x' || conversion = 'X' then 16 else 10
  let digits := Nat.toDigits base i.natAbs
  let digits := if conversion = 'X' then capitals digits else digits
  let zeros := repeated (l.precision.getD 0 - digits.length) '0'
  let mark := if l.alternate && base != 10 then ['0', conversion] else []
  l.number (i < 0) mark (zeros ++ single digits)

/-- Integers are written with fewer digits than this, unless they have
    more. -/
def digitsLimit : Nat := Nat.pow 2 31 - 3

/-- The field of a directive for integers. -/
def integerField (l : Layout) (conversion : Char) (v : Value) :
    Except TemplateFault (Runs CodePoint) := do
  let i ← integerOf conversion v
  if digitsLimit ≤ l.precision.getD 0 then .error .precisionTooLarge
  else pure (integerText l conversion i)

/-- The number that a directive for real numbers writes. -/
def realOf (v : Value) : Except TemplateFault Double :=
  match v with
  | .float x => .ok x
  | v =>
    match v.asInt? with
    | some i => (Double.ofInt? i).elim (.error .integerTooLarge) .ok
    | none => .error (.needsFloat v.kindName)

/-- A point at the end of digits, unless there is one among them. -/
def withPoint (digits : List Char) : List Char :=
  if digits.contains '.' then digits else digits ++ ['.']

/-- A finite number in the manner of its directive. -/
def finiteNumeral (l : Layout) (conversion : Char) (mantissa : Nat) (exponent : Int) :
    Double.Numeral :=
  let places := l.precision.getD 6
  let n :=
    if conversion = 'e' then Double.scientific mantissa exponent places
    else if conversion = 'f' then Double.fixed mantissa exponent places
    else Double.general mantissa exponent places l.alternate
  if l.alternate then { n with front := withPoint n.front } else n

/-- A real number in the manner of its directive. -/
def realText (l : Layout) (conversion : Char) (x : Double) : Runs CodePoint :=
  let lower := conversion.toLower
  let shape := if conversion = lower then id else capitals
  match x with
  | .nan => l.number false [] (single (shape ['n', 'a', 'n']))
  | .infinite s => l.number s [] (single (shape ['i', 'n', 'f']))
  | .finite s m e =>
    let n := finiteNumeral l lower m e
    l.number s [] (single (shape n.front) ++ repeated n.zeros '0' ++ single (shape n.back))

/-- The one code point that a directive for characters writes. -/
def codePointOf (v : Value) : Except TemplateFault CodePoint :=
  match v with
  | .text s =>
    match s.toList with
    | [c] => .ok (.scalar c)
    | _ => .error .needsCharacter
  | v =>
    match v.asInt? with
    | some i => if i < 0 ∨ 0x10FFFF < i then .error .characterRange else .ok (.ofNat i.toNat)
    | none => .error .needsCharacter

/-- The field of a value; `position` is where the conversion stands in the
    template. -/
def convert (l : Layout) (conversion : Char) (position : Nat) (v : Value) :
    Except TemplateFault (Runs CodePoint) :=
  if conversion = 's' then .ok (l.text v.plain.toList)
  else if conversion = 'r' then .ok (l.text v.shown)
  else if conversion = 'a' then .ok (l.text (ascii v))
  else if ['d', 'i', 'u', 'o', 'x', 'X'].contains conversion then integerField l conversion v
  else if ['e', 'E', 'f', 'F', 'g', 'G'].contains conversion then
    (realOf v).map (realText l conversion)
  else if conversion = 'c' then (codePointOf v).map fun c => l.pad [⟨1, c⟩]
  else .error (.unsupported conversion position)

/-- No field is longer than this. -/
def fieldLimit : Nat := Nat.pow 2 30

/-- A field, unless it is too long to be written out. -/
def checkSize (field : Runs CodePoint) : Except TemplateFault (Runs CodePoint) :=
  if fieldLimit < field.size then .error .outOfMemory else .ok field

/-! ## §4. Directives. -/

/-- The name in parentheses at the start of a text, which may itself hold
    parentheses in pairs, and what follows; `depth` counts those open. -/
def takeName (name : List Char) (depth : Nat) : List Char → Option (List Char × List Char)
  | [] => none
  | ')' :: rest =>
    match depth with
    | 0 => some (name.reverse, rest)
    | d + 1 => takeName (')' :: name) d rest
  | '(' :: rest => takeName ('(' :: name) (depth + 1) rest
  | c :: rest => takeName (c :: name) depth rest

/-- Selects the entry that a directive names, if it names one. -/
def selectNamed (args : Arguments) (s : List Char) : Except Failure (Arguments × List Char) :=
  match s with
  | '(' :: rest =>
    match args with
    | .positional _ => .error (.template .needsTable)
    | args =>
      match takeName [] 0 rest with
      | none => .error (.template .incompleteKey)
      | some (name, rest) => do
        let args ← args.select (String.ofList name)
        pure (args, rest)
  | s => .ok (args, s)

/-- The flags at the start of a text, and what follows. -/
def takeFlags (l : Layout) : List Char → Layout × List Char
  | [] => (l, [])
  | c :: rest =>
    match l.withFlag? c with
    | some l => takeFlags l rest
    | none => (l, c :: rest)

/-- The natural at the start of a text, if it stays below `limit`, and what
    follows. -/
def takeNatural (limit : Nat) (n : Nat) : List Char → Option (Nat × List Char)
  | [] => some (n, [])
  | c :: rest =>
    if c.isDigit then
      let n := 10 * n + (c.toNat - 0x30)
      if limit ≤ n then none else takeNatural limit n rest
    else some (n, c :: rest)

/-- The integer that a star takes from the arguments. -/
def takeStar (args : Arguments) (limit : Nat) (tooBig : TemplateFault) :
    Except Failure (Int × Arguments) := do
  let (v, args) ← args.take
  match v.asInt? with
  | none => .error (.template .starWantsInteger)
  | some i =>
    if (limit : Int) ≤ i ∨ i < -(limit : Int) then .error (.template tooBig) else .ok (i, args)

/-- Widths lie below this bound. -/
def widthLimit : Nat := Nat.pow 2 63

/-- Precisions lie below this bound. -/
def precisionLimit : Nat := Nat.pow 2 31

/-- How wide a field is to be for the integer that a star took.  The lowest
    one has no counterpart above zero, and asks for no width. -/
def starWidth (i : Int) : Nat := if i = -(widthLimit : Int) then 0 else i.natAbs

/-- The width of a directive; a negative one means the left edge. -/
def takeWidth (l : Layout) (args : Arguments) (s : List Char) :
    Except Failure (Layout × Arguments × List Char) :=
  match s with
  | '*' :: rest => do
    let (i, args) ← takeStar args widthLimit .starWidthTooBig
    pure ({ l with width := starWidth i, left := l.left || i < 0 }, args, rest)
  | s =>
    match takeNatural widthLimit 0 s with
    | some (n, rest) => .ok ({ l with width := n }, args, rest)
    | none => .error (.template .widthTooBig)

/-- The precision of a directive; a point alone means zero. -/
def takePrecision (l : Layout) (args : Arguments) (s : List Char) :
    Except Failure (Layout × Arguments × List Char) :=
  match s with
  | '.' :: '*' :: rest => do
    let (i, args) ← takeStar args precisionLimit .starPrecisionTooBig
    pure ({ l with precision := some i.toNat }, args, rest)
  | '.' :: rest =>
    match takeNatural precisionLimit 0 rest with
    | some (n, rest) => .ok ({ l with precision := some n }, args, rest)
    | none => .error (.template .precisionTooBig)
  | s => .ok (l, args, s)

/-- A size mark, which means nothing, is passed over. -/
def skipSize : List Char → List Char
  | 'h' :: rest => rest
  | 'l' :: rest => rest
  | 'L' :: rest => rest
  | rest => rest

/-- Writes the directive that follows a percent sign in a template of length
    `total`. -/
def directive (total : Nat) (args : Arguments) (s : List Char) :
    Except Failure (Runs CodePoint × Arguments × List Char) := do
  let (args, s) ← selectNamed args s
  let (l, s) := takeFlags .plain s
  let (l, args, s) ← takeWidth l args s
  let (l, args, s) ← takePrecision l args s
  match skipSize s with
  | [] => .error (.template .incomplete)
  | c :: rest => do
    let (v, args) ← args.take
    match convert l c (total - rest.length - 1) v >>= checkSize with
    | .ok field => pure (field, args, rest)
    | .error fault => .error (.template fault)

/-! ## §5. Templates. -/

/-- Fills the rest of a template; `fuel` bounds its length. -/
def fillFrom (total : Nat) : Nat → Arguments → List Char → Except Failure (Runs CodePoint)
  | 0, _, _ => .ok []
  | _ + 1, args, [] =>
    if args.usedUp then .ok [] else .error (.template .tooManyArguments)
  | fuel + 1, args, '%' :: '%' :: s => do
    let following ← fillFrom total fuel args s
    pure (single ['%'] ++ following)
  | fuel + 1, args, '%' :: s => do
    let (field, args, rest) ← directive total args s
    let following ← fillFrom total fuel args rest
    pure (field ++ following)
  | fuel + 1, args, c :: s => do
    let following ← fillFrom total fuel args s
    pure (single [c] ++ following)

/-- The message that a template and arguments make.  Without arguments the
    template is not looked into. -/
def fill (template : String) (args : List Value) : Except Failure CodePoints :=
  if args.isEmpty then .ok (.ofString template)
  else
    let s := template.toList
    (fillFrom s.length (s.length + 1) (.ofList args) s).map Runs.toList

end ChangeFeed.Log.Template
