/-
  ChangeFeed.Transport — what the transport delivers: messages, error codes
  and proposed assignments.

  A message either carries a record or reports an error about its partition.
  An error code is a number; the ones in use have a name and a description.
  Reaching the end of a partition is reported as an error too.
-/

import ChangeFeed.Partition

namespace ChangeFeed

/-! ## §1. Error codes. -/

/-- A transport error, by number.  Zero is an error like any other. -/
structure ErrorCode where
  number : Int
deriving DecidableEq, Repr, Inhabited

namespace ErrorCode

/-- The consumer has read everything there is on a partition. -/
def endOfPartition : ErrorCode := ⟨-191⟩

/-- Name and description of the codes in use. -/
def known : List (Int × String × String) :=
  [(0, "NO_ERROR", "Success"),
    (-1, "UNKNOWN", "Unknown broker error"),
    (3, "UNKNOWN_TOPIC_OR_PART", "Broker: Unknown topic or partition"),
    (29, "TOPIC_AUTHORIZATION_FAILED", "Broker: Topic authorization failed"),
    (30, "GROUP_AUTHORIZATION_FAILED", "Broker: Group authorization failed"),
    (-172, "_STATE", "Local: Erroneous state"),
    (-185, "_TIMED_OUT", "Local: Timed out"),
    (-187, "_ALL_BROKERS_DOWN", "Local: All broker connections are down"),
    (-191, "_PARTITION_EOF", "Broker: No more messages"),
    (-195, "_TRANSPORT", "Local: Broker transport failure")]

/-- Name and description; a code without any is described by its number. -/
def describe (c : ErrorCode) : String × String :=
  (known.lookup c.number).getD
    ("ERR_" ++ toString c.number ++ "?", "Err-" ++ toString c.number ++ "?")

/-- The text of an error. -/
def text (c : ErrorCode) : String :=
  let (name, description) := c.describe
  "KafkaError\x7bcode=" ++ name ++ ",val=" ++ toString c.number ++ ",str=\"" ++ description ++
    "\"\x7d"

end ErrorCode

/-! ## §2. Messages. -/

/-- A message as polled. -/
structure Message where
  partition : Partition
  /-- Where the message lies, if that is known. -/
  offset : Option Offset
  key : Option Octets
  payload : Option Octets
  /-- What the message reports instead of carrying a record. -/
  error : Option ErrorCode
deriving DecidableEq, Repr, Inhabited

/-- Is the error the one that reports the end of a partition? -/
def isEndOfPartition (error : Option ErrorCode) : Bool := error == some .endOfPartition

/-! ## §3. Assignments. -/

/-- One partition of a proposed assignment, and where reading it is to
    start. -/
structure Entry where
  partition : Partition
  offset : Option Offset
deriving DecidableEq, Repr, Inhabited

/-- The partitions that a consumer is to read, in the order proposed. -/
abbrev Assignment := List Entry

/-- The offset of an entry that leaves the start to the transport. -/
def unsetOffset : Offset := -1001

end ChangeFeed
