/-
  ChangeFeed.Failure — everything that can cut a computation short.

  A failure is recorded by its cause; its label and its message are written
  in one place each.  `Raised` is a failure together with the one that it was
  raised from, if any.  Two failures are not `ordinary`: an interrupt and a
  request to exit pass through every place that copes with failures.

  Failures are values too, and user code may bring along kinds of its own,
  which say themselves whether they count as true.  All others do.
-/

import ChangeFeed.Transport
import ChangeFeed.Value.Shown

namespace ChangeFeed

/-! ## §1. Complaints about options. -/

/-- The options of a client, in the order in which they are checked. -/
inductive OptionField where
  | appId
  | pollTimeout
  | initWait
deriving DecidableEq, Repr

/-- The name of an option in its section. -/
def OptionField.name : OptionField → String
  | .appId => "app_id"
  | .pollTimeout => "poll_timeout"
  | .initWait => "init_wait"

/-- What can be wrong with one option. -/
inductive OptionIssue where
  | missing
  | notText
  | undecodableText
  | emptyText
  | notNumber
  | unreadableNumber
  | notPositive
  | negative
deriving DecidableEq, Repr

/-- Short name and sentence for an issue. -/
def OptionIssue.describe : OptionIssue → String × String
  | .missing => ("missing", "Field required")
  | .notText => ("string_type", "Input should be a valid string")
  | .undecodableText =>
    ("string_unicode",
      "Input should be a valid string, unable to parse raw data as a unicode string")
  | .emptyText => ("string_too_short", "String should have at least 1 character")
  | .notNumber => ("float_type", "Input should be a valid number")
  | .unreadableNumber =>
    ("float_parsing", "Input should be a valid number, unable to parse string as a number")
  | .notPositive => ("greater_than", "Input should be greater than 0")
  | .negative => ("greater_than_equal", "Input should be greater than or equal to 0")

/-- One complaint about a section of options. -/
inductive Complaint where
  /-- The section is no table. -/
  | notATable
  | option (field : OptionField) (issue : OptionIssue)
deriving DecidableEq, Repr

/-- Where a complaint points to, and its short name and sentence. -/
def Complaint.describe : Complaint → List String × String × String
  | .notATable =>
    ([], "model_type", "Input should be a valid dictionary or instance of ClientOptions")
  | .option f i => ([f.name], i.describe)

/-! ## §2. Values of the wrong shape. -/

/-- What can be wrong with the shape of a value. -/
inductive ShapeFault where
  /-- A key was looked up in something that has none. -/
  | noKeys (v : Value)
  /-- An operation was asked of something that does not have it. -/
  | noOperation (kind operation : String)
  /-- Texts were to be joined and there was no sequence. -/
  | noSequence
  /-- Texts were to be joined and one of them was none. -/
  | noText (position : Nat) (kind : String)
  /-- A table was to be merged with something else. -/
  | noTable (kind : String)
  /-- A key was written to in something that has none. -/
  | noAssignment (v : Value)
  /-- Something that may change was used as a key. -/
  | noHash (kind : String)
deriving DecidableEq, Repr

/-- How a look-up by text fails in a value that is no table. -/
def keyFaultMessage (v : Value) : String :=
  match v with
  | .list _ => "list indices must be integers or slices, not str"
  | .partition _ => "tuple indices must be integers or slices, not str"
  | .octets _ => "byte indices must be integers or slices, not str"
  | .text _ => "string indices must be integers, not 'str'"
  | v => "'" ++ v.kindName ++ "' object is not subscriptable"

/-- The message of a fault of shape. -/
def ShapeFault.message : ShapeFault → String
  | .noKeys v => keyFaultMessage v
  | .noOperation kind operation => "'" ++ kind ++ "' object has no attribute '" ++ operation ++ "'"
  | .noSequence => "can only join an iterable"
  | .noText position kind =>
    "sequence item " ++ toString position ++ ": expected str instance, " ++ kind ++ " found"
  | .noTable kind => "unsupported operand type(s) for |: 'dict' and '" ++ kind ++ "'"
  | .noAssignment (.list xs) => keyFaultMessage (.list xs)
  | .noAssignment v => "'" ++ v.kindName ++ "' object does not support item assignment"
  | .noHash kind => "unhashable type: '" ++ kind ++ "'"

/-! ## §3. Message templates. -/

/-- What can be wrong when arguments are put into a message template. -/
inductive TemplateFault where
  | tooFewArguments
  | tooManyArguments
  | incomplete
  | incompleteKey
  | needsTable
  | unsupported (conversion : Char) (position : Nat)
  | needsReal (conversion : Char) (kind : String)
  | needsInteger (conversion : Char) (kind : String)
  | needsFloat (kind : String)
  | needsCharacter
  | characterRange
  | starWantsInteger
  | widthTooBig
  | precisionTooBig
  | starWidthTooBig
  | starPrecisionTooBig
  | infinityAsInteger
  | nanAsInteger
  | integerTooLarge
  | precisionTooLarge
  /-- What was to be written is too long. -/
  | outOfMemory
deriving DecidableEq, Repr

/-- Label and message of a fault in a template. -/
def TemplateFault.describe : TemplateFault → String × String
  | .tooFewArguments => ("TypeError", "not enough arguments for format string")
  | .tooManyArguments => ("TypeError", "not all arguments converted during string formatting")
  | .incomplete => ("ValueError", "incomplete format")
  | .incompleteKey => ("ValueError", "incomplete format key")
  | .needsTable => ("TypeError", "format requires a mapping")
  | .unsupported c position =>
    let shown := if 31 ≤ c.toNat ∧ c.toNat ≤ 126 then c else '?'
    ("ValueError", "unsupported format character '" ++ shown.toString ++ "' (0x" ++
      String.ofList (Nat.toDigits 16 c.toNat) ++ ") at index " ++ toString position)
  | .needsReal c kind =>
    ("TypeError", "%" ++ c.toString ++ " format: a real number is required, not " ++ kind)
  | .needsInteger c kind =>
    ("TypeError", "%" ++ c.toString ++ " format: an integer is required, not " ++ kind)
  | .needsFloat kind => ("TypeError", "must be real number, not " ++ kind)
  | .needsCharacter => ("TypeError", "%c requires int or char")
  | .characterRange => ("OverflowError", "%c arg not in range(0x110000)")
  | .starWantsInteger => ("TypeError", "* wants int")
  | .widthTooBig => ("ValueError", "width too big")
  | .precisionTooBig => ("ValueError", "precision too big")
  | .starWidthTooBig => ("OverflowError", "Python int too large to convert to C ssize_t")
  | .starPrecisionTooBig => ("OverflowError", "Python int too large to convert to C int")
  | .infinityAsInteger => ("OverflowError", "cannot convert float infinity to integer")
  | .nanAsInteger => ("ValueError", "cannot convert float NaN to integer")
  | .integerTooLarge => ("OverflowError", "int too large to convert to float")
  | .precisionTooLarge => ("OverflowError", "precision too large")
  | .outOfMemory => ("MemoryError", "")

/-! ## §4. Files. -/

/-- How an access to the file system fails. -/
inductive FileFault where
  | notFound
  | isDirectory
  | notDirectory
  | alreadyExists
  /-- A path, or a name in it, is too long. -/
  | nameTooLong
  /-- There is a null character in a path. -/
  | nullInPath
deriving DecidableEq, Repr

/-- The label of a failed access. -/
def FileFault.label : FileFault → String
  | .notFound => "FileNotFoundError"
  | .isDirectory => "IsADirectoryError"
  | .notDirectory => "NotADirectoryError"
  | .alreadyExists => "FileExistsError"
  | .nameTooLong => "OSError"
  | .nullInPath => "ValueError"

/-- The message of a failed access; only a path that is none has one. -/
def FileFault.message? : FileFault → Option String
  | .nullInPath => some "embedded null byte"
  | _ => none

/-! ## §5. Failures. -/

/-- The most digits that an integer in base ten is read from. -/
def digitLimit : Nat := 4300

/-- Why a computation was cut short. -/
inductive Failure where
  /-- A handler, decoder or listener gave up. -/
  | runtime (text : String)
  /-- A value was refused. -/
  | invalid (text : String)
  /-- A failure of a kind that user code defines, and whether it counts as
      true. -/
  | custom (home name text : String) (truthy : Bool)
  /-- There is nothing under this key. -/
  | missingKey (key : Value)
  /-- Somebody asked the program to stop. -/
  | interrupted (text : String)
  /-- Somebody asked the program to exit. -/
  | exit (status : String)
  /-- Clear notifications for these partitions were not delivered. -/
  | clearsUndelivered (partitions : List Partition)
  /-- The transport refused an operation. -/
  | transport (code : ErrorCode)
  /-- A value has the wrong shape. -/
  | shape (fault : ShapeFault)
  /-- A field of an event was written to. -/
  | fieldAssigned (name : String)
  /-- A field of an event was removed. -/
  | fieldDeleted (name : String)
  /-- A call was given an argument twice. -/
  | argumentRepeated (function name : String)
  /-- Arguments do not fit a message template. -/
  | template (fault : TemplateFault)
  /-- The options of a client are not acceptable. -/
  | options (complaints : List Complaint)
  /-- A configuration file is no well-formed document. -/
  | malformedDocument
  /-- An integer has more digits than are read. -/
  | tooManyDigits (count : Nat)
  /-- Octets are no text. -/
  | undecodable
  /-- There is no configuration file at this path. -/
  | noConfigFile (path : String)
  /-- Nobody says at which path the configuration file is. -/
  | noPath
  /-- The file system refused an access. -/
  | file (fault : FileFault)
  /-- No topic was given. -/
  | noTopics
  /-- Something that is no event was to be written as one. -/
  | unknownEvent (described : String)
  /-- A time lies outside the calendar. -/
  | yearOutOfRange (year : Int)
  /-- A time is no number. -/
  | timeNotANumber
  /-- A time cannot be counted in seconds. -/
  | timeUncountable
  /-- The year of a time cannot be counted. -/
  | timeTooFar
  /-- Callbacks called each other too deeply, or values are nested too
      deeply. -/
  | tooDeep
deriving DecidableEq, Repr

namespace Failure

/-- The label of a failure: a short name for its kind. -/
def label : Failure → String
  | .runtime _ => "RuntimeError"
  | .invalid _ => "ValueError"
  | .custom _ name _ _ => name
  | .missingKey _ => "KeyError"
  | .interrupted _ => "KeyboardInterrupt"
  | .exit _ => "SystemExit"
  | .clearsUndelivered _ => "ClearNotificationError"
  | .transport _ => "KafkaException"
  | .shape (.noOperation _ _) => "AttributeError"
  | .shape _ => "TypeError"
  | .fieldAssigned _ => "FrozenInstanceError"
  | .fieldDeleted _ => "FrozenInstanceError"
  | .argumentRepeated _ _ => "TypeError"
  | .template fault => fault.describe.1
  | .options _ => "ValidationError"
  | .malformedDocument => "TOMLDecodeError"
  | .tooManyDigits _ => "ValueError"
  | .undecodable => "UnicodeDecodeError"
  | .noConfigFile _ => "FileNotFoundError"
  | .noPath => "TypeError"
  | .file fault => fault.label
  | .noTopics => "ValueError"
  | .unknownEvent _ => "TypeError"
  | .yearOutOfRange _ => "ValueError"
  | .timeNotANumber => "ValueError"
  | .timeUncountable => "OverflowError"
  | .timeTooFar => "OSError"
  | .tooDeep => "RecursionError"

/-- The label of a failure with the place where its kind is defined, for
    kinds that are not known everywhere. -/
def qualifiedLabel : Failure → String
  | .custom home name _ _ => if home = "__main__" then name else home ++ "." ++ name
  | .clearsUndelivered ps => "compacted_kafka_client.errors." ++ (clearsUndelivered ps).label
  | .transport code => "cimpl." ++ (transport code).label
  | f => f.label

/-- The message of a failure; some kinds have none of their own. -/
def message? : Failure → Option String
  | .runtime text => some text
  | .invalid text => some text
  | .custom _ _ text _ => some text
  | .missingKey key => some key.described
  | .interrupted text => some text
  | .exit status => some status
  | .clearsUndelivered ps => some ("Failed to deliver ClearElements for " ++ Partition.labels ps)
  | .transport code => some code.text
  | .shape fault => some fault.message
  | .fieldAssigned name => some ("cannot assign to field " ++ Text.quote name)
  | .fieldDeleted name => some ("cannot delete field " ++ Text.quote name)
  | .argumentRepeated function name =>
    some (function ++ "() got multiple values for argument '" ++ name ++ "'")
  | .template fault => some fault.describe.2
  | .options _ => none
  | .malformedDocument => none
  | .tooManyDigits count =>
    some ("Exceeds the limit (" ++ toString digitLimit ++
      " digits) for integer string conversion: value has " ++ toString count ++
      " digits; use sys.set_int_max_str_digits() to increase the limit")
  | .undecodable => none
  | .noConfigFile path => some ("Configuration file not found: " ++ path)
  | .noPath => some "stat: path should be string, bytes, os.PathLike or integer, not list"
  | .file fault => fault.message?
  | .noTopics => some "At least one topic must be specified"
  | .unknownEvent described => some ("Unknown event: " ++ described)
  | .yearOutOfRange year => some ("year " ++ toString year ++ " is out of range")
  | .timeNotANumber => some "Invalid value NaN (not a number)"
  | .timeUncountable => some "timestamp out of range for platform time_t"
  | .timeTooFar => none
  | .tooDeep => none

/-- Is the failure one that a program copes with?  An interrupt and a request
    to exit are meant for whoever started it. -/
def isOrdinary : Failure → Bool
  | .interrupted _ => false
  | .exit _ => false
  | _ => true

/-- Does the failure count as true where a truth value is asked for? -/
def isTruthy : Failure → Bool
  | .custom _ _ _ truthy => truthy
  | _ => true

end Failure

/-! ## §6. Raised failures. -/

/-- A failure and the one that it was raised from. -/
inductive Raised where
  | mk (failure : Failure) (cause : Option Raised)
deriving Repr

namespace Raised

/-- The failure itself. -/
def failure : Raised → Failure
  | .mk f _ => f

/-- What the failure was raised from. -/
def cause : Raised → Option Raised
  | .mk _ c => c

/-- A failure raised from nothing else. -/
def of (f : Failure) : Raised := .mk f none

/-- Is the failure one that a program copes with? -/
def isOrdinary (r : Raised) : Bool := r.failure.isOrdinary

/-- Does the failure count as true? -/
def isTruthy (r : Raised) : Bool := r.failure.isTruthy

/-- The failure if it counts as true, and `other` in its place if not. -/
def orElse (r other : Raised) : Raised := if r.isTruthy then r else other

/-- The failures that led to this one, this one first. -/
def chain : Raised → List Failure
  | .mk f none => [f]
  | .mk f (some c) => f :: chain c

end Raised

end ChangeFeed
