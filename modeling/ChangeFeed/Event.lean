/-
  ChangeFeed.Event — how the latest state per key changes.

  A feed is told of four things: an element has a new value, an element is
  gone, everything read from a partition is void, and a partition has been
  read to its end.  Only the first two name a key and only the first a value.
  Events are never written to.
-/

import ChangeFeed.Failure

namespace ChangeFeed

/-! ## §1. The type. -/

/-- One change. -/
inductive Event where
  /-- The element `key` now has the value `value`. -/
  | set (source : Partition) (key value : Value)
  /-- The element `key` is gone. -/
  | delete (source : Partition) (key : Value)
  /-- Nothing read from the partition holds any more. -/
  | clear (source : Partition)
  /-- The partition has been read to its end. -/
  | endReached (source : Partition)
deriving DecidableEq, Repr

namespace Event

/-- The four kinds of events. -/
inductive Kind where
  | set
  | delete
  | clear
  | endReached
deriving DecidableEq, Repr

/-- The kind of an event. -/
def kind : Event → Kind
  | .set _ _ _ => .set
  | .delete _ _ => .delete
  | .clear _ => .clear
  | .endReached _ => .endReached

/-- The partition that an event is about. -/
def source : Event → Partition
  | .set p _ _ => p
  | .delete p _ => p
  | .clear p => p
  | .endReached p => p

/-- The key that an event names. -/
def key? : Event → Option Value
  | .set _ k _ => some k
  | .delete _ k => some k
  | _ => none

/-- The value that an event names. -/
def value? : Event → Option Value
  | .set _ _ v => some v
  | _ => none

/-! ## §2. Names. -/

/-- The name of a kind, as a constant. -/
def Kind.name : Kind → String
  | .set => "SET_ELEMENT"
  | .delete => "DELETE_ELEMENT"
  | .clear => "CLEAR_ELEMENTS"
  | .endReached => "REACHED_EOF"

/-- The name of a kind, as a heading. -/
def Kind.title : Kind → String
  | .set => "SetElement"
  | .delete => "DeleteElement"
  | .clear => "ClearElements"
  | .endReached => "ReachedEof"

/-! ## §3. Fields. -/

/-- The fields of an event, by name. -/
def fields (e : Event) : Table :=
  [("topic", .text e.source.topic), ("partition", .int e.source.index)] ++
    (e.key?.map fun k => ("key", k)).toList ++ (e.value?.map fun v => ("value", v)).toList

/-- The name under which the partition of an event is read as a whole. -/
def sourceName : String := "topic_partition"

/-- Reads a field.  An event does not have the fields of other kinds; every
    event has a partition. -/
def field (e : Event) (name : String) : Except Failure Value :=
  if name = sourceName then .ok (.partition e.source)
  else
    match Table.get? e.fields name with
    | some v => .ok v
    | none => .error (.shape (.noOperation e.kind.title name))

/-- Writing to a field always fails. -/
def assignField (_ : Event) (name : String) (_ : Value) : Except Failure Event :=
  .error (.fieldAssigned name)

/-- Removing a field always fails. -/
def deleteField (_ : Event) (name : String) : Except Failure Event :=
  .error (.fieldDeleted name)

/-! ## §4. Equality. -/

/-- Are two events of one kind and are all their fields worth the same? -/
def sameAs (e f : Event) : Bool :=
  e.kind == f.kind && Value.equivalentList (e.fields.map Prod.snd) (f.fields.map Prod.snd)

/-- The first kind of value, if any, that keeps an event from being looked
    up by. -/
def unhashable? (e : Event) : Option String :=
  e.fields.findSome? fun (_, v) =>
    match v with
    | .list _ => some v.kindName
    | .table _ => some v.kindName
    | _ => none

/-- May the event serve as a key?  Not if it holds a list or a table. -/
def checkHash (e : Event) : Except Failure Unit :=
  match e.unhashable? with
  | some kind => .error (.shape (.noHash kind))
  | none => .ok ()

/-! ## §5. Texts. -/

/-- The line that reports an event. -/
def line : Event → String
  | .set p k v => "SET    " ++ p.label ++ " " ++ k.plain ++ " = " ++ v.plain
  | .delete p k => "DELETE " ++ p.label ++ " " ++ k.plain
  | .clear p => "CLEAR  " ++ p.label
  | .endReached p => "EOF    " ++ p.label

/-- The full text of an event: its heading and its fields. -/
def described (e : Event) : String :=
  e.kind.title ++ "(" ++
    Text.join ", " (e.fields.map fun (name, v) => name ++ "=" ++ v.described) ++ ")"

/-- What a line can be asked for: an event, or something that is none. -/
inductive Reportable where
  | event (e : Event)
  | other (v : Value)
deriving DecidableEq, Repr

/-- The line that reports an event; there is none for anything else. -/
def Reportable.line : Reportable → Except Failure String
  | .event e => .ok e.line
  | .other v => .error (.unknownEvent v.described)

/-- Is it an event that is worth the same as `e`? -/
def Reportable.sameAs (r : Reportable) (e : Event) : Bool :=
  match r with
  | .event f => e.sameAs f
  | .other _ => false

example : (Event.set ⟨"t", 0⟩ (.text "k") .null).described =
    "SetElement(topic='t', partition=0, key='k', value=None)" := by decide +kernel

end Event

end ChangeFeed
