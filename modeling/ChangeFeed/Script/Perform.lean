/-
  ChangeFeed.Script.Perform — taking scripted steps.

  Steps are taken in an environment in which handlers and listeners take the
  steps that their scripts name.  How deeply such calls may nest is bounded;
  beyond that bound a call fails.
-/

import ChangeFeed.Script.Basic

namespace ChangeFeed.Script

/-- Scripts in all places. -/
abbrev roles : Roles where
  KeyDecoder := Decoder
  ValueDecoder := Decoder
  EventHandler := List Rule
  ErrorHandler := List Rule
  Memory := List (String × ListenerScript)

/-- Failures of a consumer's operations. -/
structure Faults where
  create : Option Failure
  subscribe : Option Failure
  assign : Option Failure
  close : Option Failure
deriving DecidableEq, Repr

/-- No operation fails. -/
def Faults.none : Faults := ⟨.none, .none, .none, .none⟩

/-! ## §1. Answers. -/

/-- What a step results in. -/
inductive Answer where
  | nothing
  | flag (b : Bool)
  | event (e : Option Event)
  | message (m : Option Message)
  | tracker (a : Tracker.Answer)

/-! ## §2. Behaviours. -/

/-- Fails if there is a failure. -/
def failIf : Option Failure → Action roles Unit
  | some f => Action.fail f
  | .none => pure ()

/-- The outcome of a scripted decoder, as an action. -/
def decoded (result : Except Failure (Option Value)) : Action roles (Option Value) :=
  match result with
  | .ok v => pure v
  | .error f => Action.fail f

/-- Follows the first rule that applies. -/
def follow (take : List Step → Action roles Unit) (rules : List Rule) (view : Table) :
    Action roles Unit :=
  match applicable? rules view with
  | .none => pure ()
  | some (.mk _ steps failure) => do
    take steps
    failIf failure

/-- What the foreign listener of this name does. -/
def notified (take : List Step → Action roles Unit) (name : String) (a : Assignment) :
    StateM (Session roles) Notified := do
  let script := ((← get).memory.lookup name).getD .idle
  let (.mk _ _ _ steps failure) := script
  match ← (do take steps; failIf failure : Action roles Unit).run with
  | .ok () => pure ⟨script.amend a, .none⟩
  | .error e => pure ⟨script.amend a, some e⟩

/-- Everything behaves as scripted; `take` takes the steps that scripts
    name. -/
def respond (faults : Faults) (take : List Step → Action roles Unit) : Environment roles where
  decodeKey d data := decoded (d.run .null data)
  decodeValue d key data := decoded (d.run key (some data))
  onEvent rules e := follow take rules (eventView e)
  onError rules m code := follow take rules (errorView m code)
  onAssignment name a := notified take name a
  onCreate := failIf faults.create
  onSubscribe _ := failIf faults.subscribe
  onAssign _ := failIf faults.assign
  onClose := failIf faults.close
  onSleep _ := pure ()

/-! ## §3. Steps. -/

/-- Changes a reader as a setting says. -/
def Setting.apply (setting : Setting Rule) (r : Reader roles) : Reader roles :=
  match setting with
  | .key decoding => { r with keyDecoding := decoding }
  | .value decoding => { r with valueDecoding := decoding }
  | .onEvent handling => { r with onEvent := handling }
  | .onError handling => { r with onError := handling }

/-- The serial of the last reader of a name. -/
def serial? (s : Session roles) (name : String) : Option Nat :=
  ((List.range s.readers.length).filter fun i =>
    (s.reader? i).any fun r => r.name == name).getLast?

/-- The readers that are meant by their names. -/
def namedReaders (s : Session roles) : List (Reader roles) :=
  s.readers.foldl (fun rs r => rs.filter (fun other => other.name != r.name) ++ [r]) []

/-- The names of closed readers, in order. -/
def closedNames (s : Session roles) : List String :=
  (((namedReaders s).filter Reader.closed).map Reader.name).mergeSort fun a b => a ≤ b

/-- The name of the listener that is installed, unless the name means
    another reader by now. -/
def installedName? (s : Session roles) : Option String :=
  match s.installed with
  | .nobody => .none
  | .foreign name => some name
  | .reader serial _ =>
    ((s.reader? serial).filter fun r => serial? s r.name == some serial).map Reader.name

/-- Does something with the reader of a name; there must be one. -/
def withReader {α : Type} (name : String) (act : Nat → Action roles α) : Action roles α := do
  match serial? (← get) name with
  | some serial => act serial
  | .none => Action.fail (.missingKey (.text name))

/-- Puts a request to the tracker of a reader. -/
def track (serial : Nat) (request : Tracker.Request) : Action roles Answer := do
  match ((← get).tracker serial).perform request with
  | (.ok a, t) =>
    Action.change serial ({ · with tracker := t })
    pure (.tracker a)
  | (.error f, _) => Action.fail f

/-- Takes one step. -/
def perform (E : Environment roles) : Step → Action roles Answer
  | .openReader name timeout => do
    let _ ← Session.openReader name timeout
    pure .nothing
  | .listener name script install => do
    modify fun s => { s with memory := (name, script) :: s.memory }
    if install then modify (·.install (.foreign name))
    pure .nothing
  | .unlisten => do
    modify (·.install .nobody)
    pure .nothing
  | .configure name settings => withReader name fun serial => do
    Action.change serial fun r => settings.foldl (fun r setting => setting.apply r) r
    pure .nothing
  | .process name timeout turn => withReader name fun serial => do
    pure (.event (← Session.step E serial timeout turn))
  | .close name => withReader name fun serial => do
    modify (·.closeReader serial)
    pure .nothing
  | .enter name => withReader name fun _ => pure (.flag true)
  | .leave name => withReader name fun serial => do
    modify (·.closeReader serial)
    pure .nothing
  | .track name request => withReader name fun serial => track serial request
  | .subscribe topics => do
    Session.subscribe E topics
    pure .nothing
  | .closeSource => do
    Session.closeSource E
    pure .nothing
  | .pollSource timeout turn => do pure (.message (← Session.poll E timeout turn))
  | .sameConsumer => pure (.flag true)
  | .stop => do
    modify ({ · with running := false })
    pure .nothing
  | .askRunning => do
    Action.record (.running (← get).running)
    pure .nothing

/-- Takes steps one after the other, dropping what they result in. -/
def performAll (E : Environment roles) : List Step → Action roles Unit
  | [] => pure ()
  | step :: rest => do
    let _ ← perform E step
    performAll E rest

/-- The environment in which scripted calls may nest `depth` deep. -/
def environment (faults : Faults) : Nat → Environment roles
  | 0 => respond faults fun _ => Action.fail .tooDeep
  | depth + 1 => respond faults fun steps => performAll (environment faults depth) steps

/-- How deeply scripted calls may nest. -/
def nesting : Nat := 200

end ChangeFeed.Script
