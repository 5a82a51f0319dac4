/-
  ChangeFeed.Client.Basic — a client: topics, options, and what to do with
  what is read.

  A run makes a consumer and a reader on it, waits, subscribes to the topics
  and then takes steps until it is stopped.  However it ends, the reader is
  closed and then the source, and with it the consumer.

  A step that only failed to report cleared partitions does not end the run.
  An interrupt ends it in good order, and so does any other ordinary failure,
  which is logged.  A request to exit passes through.

  Main results:
    * `loop_of_not_running` — a client that has been stopped takes no step.
-/

import ChangeFeed.Config.Settings
import ChangeFeed.Session.Lifecycle

namespace ChangeFeed

/-- A client. -/
structure Client (R : Roles) where
  config : Value
  topics : List String
  options : Config.Options
  keyDecoding : Decoding R.KeyDecoder
  valueDecoding : Decoding R.ValueDecoder
  onEvent : Handling R.EventHandler
  onError : Handling R.ErrorHandler

/-- What a client is to do with what it reads. -/
structure Client.Manners (R : Roles) where
  keyDecoding : Decoding R.KeyDecoder
  valueDecoding : Decoding R.ValueDecoder
  onEvent : Handling R.EventHandler
  onError : Handling R.ErrorHandler

namespace Client

variable {R : Roles}

/-- A client for these topics; there has to be one, and the options have to
    be acceptable. -/
def make (config : Value) (topics : List String) (manners : Manners R) :
    Except Failure (Client R) :=
  if topics.isEmpty then .error .noTopics
  else do
    let options ← Config.Options.ofConfig config
    pure ⟨config, topics, options, manners.keyDecoding, manners.valueDecoding, manners.onEvent,
      manners.onError⟩

/-! ## §1. Settings. -/

/-- A result, or its failure raised. -/
def ofExcept {α : Type} : Except Failure α → Action R α
  | .ok a => pure a
  | .error f => Action.fail f

/-- The settings of the client's consumer, which reports its errors to the
    client. -/
def settings (c : Client R) : Except Failure Table := do
  let settings ← Config.Settings.ofConfig c.config
  pure (Table.put settings "error_cb" (.builtin .errorCallback))

/-! ## §2. The loop. -/

/-- Lets the loop come to an end. -/
def stop : Action R Unit := modify ({ · with running := false })

/-- Copes with the failure of a step. -/
def cope (e : Raised) : Action R Unit :=
  match e.failure with
  | .interrupted _ => do
    Action.log (.plain .info Session.clientLogger "Ending" none)
    stop
  | .clearsUndelivered ps =>
    Action.log (.tagged .warning Session.clientLogger (Partition.labels ps)
      "Clear notifications were not delivered" (some e))
  | _ =>
    if e.isOrdinary then do
      Action.log (.plain .error Session.clientLogger "Unexpected consumption error" (some e))
      stop
    else throw e

/-- Takes one step. -/
def round (E : Environment R) (serial : Nat) (turn : Turn) : Action R Unit := do
  match ← Action.attempt (Session.step E serial none turn) with
  | .ok _ => pure ()
  | .error e => cope e

/-- Takes steps as long as the client is running.  When the transport has
    nothing more to deliver it interrupts. -/
def loop (E : Environment R) (serial : Nat) : List Turn → Action R Unit
  | [] => do
    if (← get).running then round E serial .interrupt else pure ()
  | turn :: rest => do
    if (← get).running then do
      round E serial turn
      loop E serial rest
    else pure ()

theorem loop_of_not_running (E : Environment R) (serial : Nat) (turns : List Turn)
    (s : Session R) (h : s.running = false) :
    (loop E serial turns).run s = (.ok (), s) := by
  cases turns <;> simp only [loop, Action.run_get_bind, h] <;> rfl

/-! ## §3. Runs. -/

/-- The consumer that a client makes for itself. -/
def ownConsumer : Consumer := ⟨true, true, false⟩

/-- A reader that treats what it reads as the client says. -/
def instruct (c : Client R) (r : Reader R) : Reader R :=
  { r with
    keyDecoding := c.keyDecoding
    valueDecoding := c.valueDecoding
    onEvent := c.onEvent
    onError := c.onError }

/-- Waits, subscribes and takes steps. -/
def consume (E : Environment R) (c : Client R) (serial : Nat) (turns : List Turn) :
    Action R Unit := do
  Action.change serial c.instruct
  Action.record (.sleep c.options.initWait)
  E.onSleep c.options.initWait
  Session.subscribe E c.topics
  modify ({ · with running := true })
  loop E serial turns

/-- Runs the client over what the transport does, turn by turn. -/
def run (E : Environment R) (c : Client R) (turns : List Turn) : Action R Unit := do
  let settings ← ofExcept c.settings
  Action.log (.plain .info Session.clientLogger "Initializing consumer" none)
  Action.record (.createConsumer settings)
  E.onCreate
  Action.log (.plain .info Session.clientLogger "Consumer initialized" none)
  modify ({ · with feed := .consumer ownConsumer, installed := .nobody })
  Action.andFinally
    (do
      let serial ← Session.openReader "" (some (.real c.options.pollTimeout))
      Action.andFinally (consume E c serial turns) (modify (·.closeReader serial)))
    (Session.closeSource E)

end Client

end ChangeFeed
