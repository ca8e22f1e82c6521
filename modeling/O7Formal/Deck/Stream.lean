import O7Formal.Ledger.EventLog
import O7Formal.Lib.Decimal

/-! The events of a conversation as `o7d` serves them, page by page and as a stream, the browser's
event source, and the client that shows them. -/

namespace O7Formal.Deck

open Decimal Fallible Json
open O7Formal.Ledger (ConversationId LedgerError Millis Op PersistedEvent Serde Tables
  loadConversation readEvents)
open O7Formal.Run (Sha256)

/-- `API_SCHEMA_VERSION` of the server. -/
def apiSchemaVersion : Nat := 2

/-- `EXPECTED_SCHEMA_VERSION` of the client. -/
def expectedSchemaVersion : Nat := 2

/-- An event on the wire. The client reads the numbers as doubles, exact below 2^53. -/
structure EventDto where
  schemaVersion : Nat
  eventId : String
  conversationId : String
  runId : Option String
  attemptId : Option String
  sequence : Nat
  eventType : String
  createdAt : Millis
  payload : JsonValue

def EventDto.ofPersisted (e : PersistedEvent) : EventDto :=
  { schemaVersion := apiSchemaVersion
    eventId := e.eventId
    conversationId := e.conversationId
    runId := e.runId
    attemptId := e.attemptId
    sequence := e.sequence
    eventType := e.eventType
    createdAt := e.createdAt
    payload := e.payload }

structure EventPageDto where
  schemaVersion : Nat
  items : List EventDto
  nextAfter : Option Nat

inductive ApiError where
  | notFound
  | badRequest (why : String)
  | ledger (error : LedgerError)

def parseSequence (text : String) : Option UInt64 := (unsigned? (2 ^ 64) text).map UInt64.ofNat

def defaultEventsLimit : Nat := 200

def streamBatch : Nat := 200

structure PollState where
  cursor : Option UInt64
  buffered : List PersistedEvent
  batch : Nat

inductive Frame where
  | event (id : String) (data : EventDto)
  | comment (text : String)

section Server

variable (serde : Serde) (conversation : ConversationId)

def conversationKnown (s : Tables) : Except ApiError Unit :=
  match loadConversation conversation s with
  | none => .error .notFound
  | some _ => .ok ()

def conversationEvents (after : Option UInt64) (limit : Option Nat) (s : Tables) :
    Except ApiError EventPageDto := do
  conversationKnown conversation s
  let events ← (readEvents serde conversation after (limit.getD defaultEventsLimit) s).mapError
    ApiError.ledger
  pure ⟨apiSchemaVersion, events.map .ofPersisted, events.getLast?.map PersistedEvent.sequence⟩

/-- The `after` of a query. -/
def queryAfter (after : Option String) : Except ApiError (Option UInt64) :=
  match after with
  | none => .ok none
  | some text =>
      match parseSequence text with
      | some n => .ok (some n)
      | none => .error (.badRequest "after")

/-- A new connection: `Last-Event-ID` wins over `?after=`. -/
def conversationEventsStream (lastEventId after : Option String) (limit : Option Nat) (s : Tables) :
    Except ApiError PollState := do
  let after ← queryAfter after
  conversationKnown conversation s
  pure { cursor := (lastEventId.bind parseSequence).or after
         buffered := []
         batch := limit.elim streamBatch fun l => max 1 (min l streamBatch) }

def PollState.handOut (st : PollState) (e : PersistedEvent) (rest : List PersistedEvent) :
    Frame × PollState :=
  (.event (toString e.sequence) (.ofPersisted e),
    { st with cursor := some (UInt64.ofNat e.sequence), buffered := rest })

/-- The next frame of a stream; `none` ends it. -/
def PollState.next (st : PollState) (s : Tables) : Option (Frame × PollState) :=
  match st.buffered with
  | e :: rest => some (st.handOut e rest)
  | [] =>
      match readEvents serde conversation st.cursor st.batch s with
      | .ok [] => some (.comment "heartbeat", st)
      | .ok (e :: rest) => some (st.handOut e rest)
      | .error _ => none

end Server

inductive StreamStatus where
  | connecting
  | «open»
  | reconnecting
  | closed
  | unsupported
  deriving DecidableEq, Repr

structure ConversationEventStream where
  events : List EventDto
  seen : List Nat
  status : StreamStatus
  hasOpenedOnce : Bool
  closed : Bool

namespace ConversationEventStream

def new : ConversationEventStream := ⟨[], [], .connecting, false, false⟩

def push (c : ConversationEventStream) (event : EventDto) : ConversationEventStream :=
  if event.sequence ∈ c.seen then c
  else
    { c with
      seen := event.sequence :: c.seen
      events :=
        match c.events.findIdx? fun e => event.sequence < e.sequence with
        | none => c.events ++ [event]
        | some idx => c.events.insertIdx idx event }

def onopen (c : ConversationEventStream) : ConversationEventStream :=
  { c with status := .open, hasOpenedOnce := true }

def onerror (c : ConversationEventStream) : ConversationEventStream :=
  { c with status := if c.hasOpenedOnce then .reconnecting else .connecting }

end ConversationEventStream

/-- A connection: the server's end of it while the stream goes on, and the frames on their way. -/
structure Connection where
  server : Option PollState
  inFlight : List Frame

structure EventSource where
  after : Option String
  lastEventId : Option String
  connection : Option Connection
  closed : Bool

def EventSource.new (after : Option String) : EventSource := ⟨after, none, none, false⟩

inductive Fetch where
  | waiting
  | answered (reply : Except ApiError EventPageDto)
  | finished

structure World where
  tables : Tables
  client : ConversationEventStream
  fetch : Fetch
  source : Option EventSource

def World.start (tables : Tables) : World := ⟨tables, .new, .waiting, none⟩

inductive Move where
  /-- Anyone's operation on the ledger. -/
  | ledger (op : Op)
  | serveHistory
  | historyArrives
  | historyFails
  | connect
  | poll
  | deliver
  | disconnect
  | close

def World.listen (w : World) (items : List EventDto) : World :=
  if w.client.closed then { w with fetch := .finished }
  else
    { w with
      client := items.foldl .push w.client
      fetch := .finished
      source := some (.new (items.getLast?.map fun e => toString e.sequence)) }

def World.receive (w : World) (source : EventSource) : Frame → World
  | .comment _ => { w with source := some source }
  | .event id data =>
      if data.schemaVersion = expectedSchemaVersion then
        { w with
          client := w.client.push data
          source := some { source with lastEventId := some id } }
      else
        { w with
          client := { w.client with status := .unsupported }
          source := some { source with lastEventId := some id, connection := none, closed := true } }

section System

variable (sha256 : Sha256) (serde : Serde) (conversation : ConversationId)
variable (historyLimit streamLimit : Option Nat)

def step (w : World) : Move → World
  | .ledger op => { w with tables := Ledger.step sha256 serde w.tables op }
  | .serveHistory =>
      match w.fetch with
      | .waiting =>
          { w with
            fetch := .answered (conversationEvents serde conversation none historyLimit w.tables) }
      | _ => w
  | .historyArrives =>
      match w.fetch with
      | .answered (.ok page) =>
          if page.schemaVersion = expectedSchemaVersion then w.listen page.items else w.listen []
      | .answered (.error _) => w.listen []
      | _ => w
  | .historyFails =>
      match w.fetch with
      | .finished => w
      | _ => w.listen []
  | .connect =>
      match w.source with
      | some ⟨after, lastEventId, none, false⟩ =>
          match conversationEventsStream conversation lastEventId after streamLimit w.tables with
          | .ok st =>
              { w with
                client := w.client.onopen
                source := some ⟨after, lastEventId, some ⟨some st, []⟩, false⟩ }
          | .error _ =>
              { w with
                client := w.client.onerror
                source := some ⟨after, lastEventId, none, true⟩ }
      | _ => w
  | .poll =>
      match w.source with
      | some ⟨after, lastEventId, some ⟨some st, inFlight⟩, closed⟩ =>
          match st.next serde conversation w.tables with
          | some (frame, st) =>
              { w with
                source := some ⟨after, lastEventId, some ⟨some st, inFlight ++ [frame]⟩, closed⟩ }
          | none => { w with source := some ⟨after, lastEventId, some ⟨none, inFlight⟩, closed⟩ }
      | _ => w
  | .deliver =>
      match w.source with
      | some ⟨after, lastEventId, some ⟨server, frame :: rest⟩, closed⟩ =>
          w.receive ⟨after, lastEventId, some ⟨server, rest⟩, closed⟩ frame
      | _ => w
  | .disconnect =>
      match w.source with
      | some ⟨after, lastEventId, some _, closed⟩ =>
          { w with
            client := w.client.onerror
            source := some ⟨after, lastEventId, none, closed⟩ }
      | _ => w
  | .close =>
      { w with client := { w.client with closed := true, status := .closed }, source := none }

def run (w : World) (moves : List Move) : World :=
  moves.foldl (step sha256 serde conversation historyLimit streamLimit) w

end System

end O7Formal.Deck
