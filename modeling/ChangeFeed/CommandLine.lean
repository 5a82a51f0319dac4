/-
  ChangeFeed.CommandLine — what the words of a command line ask for.

  Topics stand together in one place; the options `config` and `group` each
  take a word, and the last one given counts.  A long option may be cut short
  as long as only one option starts like that, and its word may follow an
  equals sign; the word of a short option may follow it directly.  After two
  hyphens every word is a topic; two hyphens that are given to an option in
  this way are no word and leave it blank.
-/

import ChangeFeed.Text.Blank
import ChangeFeed.Text.Digit
import ChangeFeed.Text.Quoted

namespace ChangeFeed.CommandLine

/-! ## §1. Options. -/

/-- The options. -/
inductive Choice where
  | help
  | config
  | group
deriving DecidableEq, Repr

namespace Choice

/-- The spellings of the options, short and long. -/
def spellings : List (String × Choice) :=
  [("-h", .help), ("--help", .help), ("-c", .config), ("--config", .config), ("-g", .group),
    ("--group", .group)]

/-- The name of an option in complaints. -/
def name : Choice → String
  | .help => "-h/--help"
  | .config => "-c/--config"
  | .group => "-g/--group"

end Choice

/-- What an option has been set to. -/
inductive Setting where
  /-- The option was not given. -/
  | absent
  /-- The option was given, but no word for it. -/
  | blank
  | word (s : String)
deriving DecidableEq, Repr

/-- What comes of a command line. -/
inductive Outcome where
  /-- The topics, the path of a configuration file and a group. -/
  | run (topics : List String) (config group : Setting)
  /-- The help text is asked for. -/
  | help
  /-- The command line makes no sense. -/
  | refused (message : String)
deriving DecidableEq, Repr

/-! ## §2. Words. -/

/-- An option as it is written, perhaps with a word of its own behind it. -/
structure Given where
  choice : Choice
  /-- Is it spelt with one hyphen? -/
  short : Bool
  word : Option String
deriving DecidableEq, Repr

/-- What a word of the command line is. -/
inductive Token where
  | plain (word : String)
  /-- Two hyphens, after which no word is an option. -/
  | divider
  | option (given : Given)
  /-- Something like an option that is none. -/
  | stray (word : String)
deriving DecidableEq, Repr

/-- The text without the line feed at its end, if there is one. -/
def withoutLineFeed (s : List Char) : List Char :=
  if s.getLast? = some '\n' then s.dropLast else s

/-- Is the word a negative number, perhaps with a line feed behind it?  The
    digits may be those of any script. -/
def isNegativeNumber (word : List Char) : Bool :=
  match withoutLineFeed word with
  | '-' :: rest =>
    let whole := rest.takeWhile Text.isDecimalDigit
    match rest.dropWhile Text.isDecimalDigit with
    | [] => !whole.isEmpty
    | '.' :: fraction => !fraction.isEmpty && fraction.all Text.isDecimalDigit
    | _ => false
  | _ => false

/-- A word at the first equals sign. -/
def splitEquals (word : String) : String × Option String :=
  let cs := word.toList
  match cs.dropWhile (· != '=') with
  | [] => (word, none)
  | _ :: rest => (String.ofList (cs.takeWhile (· != '=')), some (String.ofList rest))

/-- Is it a long option? -/
def isLong (word : String) : Bool :=
  match word.toList with
  | '-' :: '-' :: _ => true
  | _ => false

/-- The spellings that a word may mean, with what it gives to the option. -/
def candidates (word : String) : List (String × Given) :=
  if isLong word then
    let (start, rest) := splitEquals word
    (Choice.spellings.filter fun s => s.1.startsWith start).map fun (spelling, choice) =>
      (spelling, ⟨choice, !isLong spelling, rest⟩)
  else
    let start := String.ofList (word.toList.take 2)
    (Choice.spellings.filter fun s => s.1 == start).map fun (spelling, choice) =>
      (spelling, ⟨choice, true, some (String.ofList (word.toList.drop 2))⟩)

/-- The option that a word spells out, perhaps with an equals sign. -/
def spelled? (word : String) : Option Given :=
  match Choice.spellings.lookup word with
  | some choice => some ⟨choice, !isLong word, none⟩
  | none =>
    let (start, rest) := splitEquals word
    match rest, Choice.spellings.lookup start with
    | some _, some choice => some ⟨choice, !isLong start, rest⟩
    | _, _ => none

/-- What a word is, or a complaint about it. -/
def tokenOf (word : String) : Except String Token :=
  match word.toList with
  | '-' :: _ :: _ =>
    match spelled? word with
    | some given => .ok (.option given)
    | none =>
      match candidates word with
      | [(_, given)] => .ok (.option given)
      | [] =>
        if isNegativeNumber word.toList || word.toList.contains ' ' then .ok (.plain word)
        else .ok (.stray word)
      | several =>
        .error ("ambiguous option: " ++ word ++ " could match " ++
          Text.join ", " (several.map Prod.fst))
  | _ => .ok (.plain word)

/-- What the words are. -/
def tokens : List String → Except String (List Token)
  | [] => .ok []
  | word :: rest =>
    if word = "--" then .ok (.divider :: rest.map .plain)
    else do
      let token ← tokenOf word
      let following ← tokens rest
      pure (token :: following)

/-! ## §3. The command line. -/

/-- What has been understood so far. -/
structure Understood where
  topics : Option (List String)
  config : Setting
  group : Setting
  /-- Words that nobody asked for. -/
  extra : List String

/-- Nothing yet. -/
def Understood.nothing : Understood := ⟨none, .absent, .absent, []⟩

/-- The word of a token that is no option. -/
def Token.word : Token → String
  | .plain word => word
  | .divider => "--"
  | .option _ => ""
  | .stray word => word

/-- Takes words that stand together.  The first ones are the topics, without
    the divider among them; later ones are too many. -/
def Understood.take (u : Understood) (words : List Token) : Understood :=
  let isPlain : Token → Bool
    | .plain _ => true
    | _ => false
  if u.topics.isNone && words.any isPlain then
    { u with topics := some ((words.filter isPlain).map Token.word) }
  else { u with extra := u.extra ++ words.map Token.word }

/-- What a word sets an option to. -/
def settingOf (word : String) : Setting := if word = "--" then .blank else .word word

/-- Takes the word of an option. -/
def Understood.choose (u : Understood) (choice : Choice) (word : String) : Understood :=
  match choice with
  | .config => { u with config := settingOf word }
  | .group => { u with group := settingOf word }
  | .help => u

/-- A complaint about an option. -/
def complaint (choice : Choice) (what : String) : Outcome :=
  .refused ("argument " ++ choice.name ++ ": " ++ what)

/-- The complaint that an option has no word. -/
def lacksWord (choice : Choice) : Outcome := complaint choice "expected one argument"

/-- The complaint that an option takes no word. -/
def takesNoWord (choice : Choice) (word : String) : Outcome :=
  complaint choice ("ignored explicit argument " ++ Text.quote word)

/-- The request for help with letters behind it, each of which has to be a
    short option; what follows an option that takes a word is its word, and
    `wordFollows` says whether a word stands after the letters. -/
def helpWith (wordFollows : Bool) : List Char → Outcome
  | [] => .help
  | 'h' :: rest => helpWith wordFollows rest
  | 'c' :: rest => if rest.isEmpty && !wordFollows then lacksWord .config else .help
  | 'g' :: rest => if rest.isEmpty && !wordFollows then lacksWord .group else .help
  | rest => takesNoWord .help (String.ofList rest)

/-- The request for help, with what is given to it. -/
def helpGiven (given : Given) (wordFollows : Bool) : Outcome :=
  match given.word with
  | none => .help
  | some word =>
    if given.short && !word.isEmpty then helpWith wordFollows word.toList
    else takesNoWord .help word

/-- What has been understood in the end. -/
def Understood.finish (u : Understood) : Outcome :=
  match u.topics with
  | none => .refused "the following arguments are required: topics"
  | some topics =>
    if u.extra.isEmpty then .run topics u.config u.group
    else .refused ("unrecognized arguments: " ++ Text.join " " u.extra)

/-- Is a plain word next? -/
def wordFollows : List Token → Bool
  | .plain _ :: _ => true
  | _ => false

/-- Takes the options and the words between them; `words` are those since the
    last option, the last one first. -/
def understand (u : Understood) (words : List Token) : List Token → Outcome
  | [] => (if words.isEmpty then u else u.take words.reverse).finish
  | .option given :: rest =>
    let u := if words.isEmpty then u else u.take words.reverse
    match given.choice, given.word, rest with
    | .help, _, rest => helpGiven given (wordFollows rest)
    | choice, some word, rest => understand (u.choose choice word) [] rest
    | choice, none, .plain word :: rest => understand (u.choose choice word) [] rest
    | choice, none, _ => lacksWord choice
  | .stray word :: rest =>
    let u := if words.isEmpty then u else u.take words.reverse
    understand { u with extra := u.extra ++ [word] } [] rest
  | token :: rest => understand u (token :: words) rest

/-- What a command line asks for. -/
def parse (words : List String) : Outcome :=
  match tokens words with
  | .error message => .refused message
  | .ok tokens => understand .nothing [] tokens

/-! ## §4. Texts. -/

/-- The name of the program. -/
def programName : String := "compacted_kafka_client"

/-- How the program is used. -/
def usage : String := "usage: " ++ programName ++ " [-h] [-c CONFIG] [-g GROUP] topics [topics ...]"

/-- The help text. -/
def helpText : String := usage ++ "\n\n" ++
  "Print the set/delete/clear/EOF events of compacted Kafka topics\n\n" ++
  "positional arguments:\n" ++
  "  topics                Topics to consume\n\n" ++
  "options:\n" ++
  "  -h, --help            show this help message and exit\n" ++
  "  -c CONFIG, --config CONFIG\n" ++
  "                        Path to configuration file (default: $APP_CONFIG_FILE)\n" ++
  "  -g GROUP, --group GROUP\n" ++
  "                        Consumer group ID, overrides client.app_id"

/-- The line that tells what is wrong with a command line. -/
def errorLine (message : String) : String := programName ++ ": error: " ++ message

end ChangeFeed.CommandLine
