import O7Formal.Deck.Stream

/-! The client shows a prefix of the log at every moment. The server's cursor is ahead of the client
by the events in flight, and the place where a new connection resumes is the client's own. -/

namespace O7Formal.Deck

open Decimal Fallible Numbering
open O7Formal.Ledger (ConversationId EventRow Keys Numbered Op PersistedEvent Serde Shows Tables log
  log_grown reachable_keys reachable_numbered step_grows step_numbered)
open O7Formal.Run (Sha256)

/-- The events of the rows that come after the first `a`. -/
def Page (serde : Serde) (rows : List EventRow) (a : Nat) (events : List PersistedEvent) : Prop :=
  Shows serde ((rows.drop a).take events.length) events

section Pages

variable {serde : Serde} {rows later : List EventRow} {a : Nat} {e : PersistedEvent}
  {events more : List PersistedEvent}

theorem page_nil : Page serde rows a [] := by
  rw [Page, List.length_nil, List.take_zero]
  exact .nil

theorem Page.grown (page : Page serde rows a events) (part : rows <+: later) :
    Page serde later a events := by
  rcases part with ⟨added, rfl⟩
  have within := page.length_eq
  rw [List.length_take] at within
  rw [Page, List.drop_append, List.take_append_of_le_length (by omega)]
  exact page

theorem Page.append (page : Page serde rows a events)
    (next : Page serde rows (a + events.length) more) : Page serde rows a (events ++ more) := by
  rw [Page, List.length_append, List.take_add, List.drop_drop]
  exact List.rel_append page next

theorem page_cons : Page serde rows a (e :: events) ↔
    Page serde rows a [e] ∧ Page serde rows (a + 1) events := by
  constructor
  · intro page
    rcases row : rows.drop a with _ | ⟨first, rest⟩
    · rw [Page, row, List.take_nil] at page
      cases page
    · have after : rows.drop (a + 1) = rest := by
        rw [← List.drop_drop, row]
        rfl
      rw [Page, row, List.length_cons, List.take_succ_cons] at page
      cases page with
      | cons here tail =>
          rw [Page, Page, row, after]
          exact ⟨.cons here .nil, tail⟩
  · intro pages
    exact pages.1.append pages.2

theorem Page.sequences (dense : Dense (rows.map EventRow.sequence))
    (page : Page serde rows a events) :
    events.map PersistedEvent.sequence = List.range' (a + 1) events.length := by
  rw [Shows.sequences page, dense.numbers_page, page.length_eq]

theorem Page.next (dense : Dense (rows.map EventRow.sequence)) (page : Page serde rows a [e]) :
    e.sequence = a + 1 := by
  simpa using page.sequences dense

theorem Page.bounded (numbered : Numbered rows) {conversation : ConversationId}
    (page : Page serde (log conversation rows) a [e]) : e.sequence < 2 ^ 64 := by
  have inside : ((log conversation rows).drop a).take 1 ⊆ rows := fun row member =>
    List.mem_of_mem_filter (List.mem_of_mem_drop (List.mem_of_mem_take member))
  exact Shows.bounded page numbered inside (List.mem_singleton_self e)

end Pages

/-- The first `k` events of the log, each seen once. -/
structure Showing (serde : Serde) (rows : List EventRow) (c : ConversationEventStream) (k : Nat) :
    Prop where
  events : ∃ es : List PersistedEvent, es.length = k ∧ c.events = es.map .ofPersisted ∧
    Page serde rows 0 es
  seen : ∀ n, n ∈ c.seen ↔ 1 ≤ n ∧ n ≤ k

section Showing

variable {serde : Serde} {rows : List EventRow} {c : ConversationEventStream} {k : Nat}

theorem showing_new : Showing serde rows .new 0 := by
  refine ⟨⟨[], rfl, rfl, page_nil⟩, fun n => ?_⟩
  simp only [ConversationEventStream.new, List.not_mem_nil, false_iff]
  omega

theorem Showing.length (shows : Showing serde rows c k) : c.events.length = k := by
  rcases shows.events with ⟨es, length, shown, _⟩
  rw [shown, List.length_map, length]

theorem Showing.sequences (shows : Showing serde rows c k)
    (dense : Dense (rows.map EventRow.sequence)) :
    c.events.map EventDto.sequence = List.range' 1 k := by
  rcases shows.events with ⟨es, length, shown, page⟩
  have numbers := page.sequences dense
  rw [shown, List.map_map, ← length]
  exact numbers

theorem Showing.push (shows : Showing serde rows c k) (dense : Dense (rows.map EventRow.sequence))
    {e : PersistedEvent} (next : Page serde rows k [e]) :
    Showing serde rows (c.push (.ofPersisted e)) (k + 1) ∧
      (c.push (.ofPersisted e)).events = c.events ++ [.ofPersisted e] := by
  have sequence : (EventDto.ofPersisted e).sequence = k + 1 := next.next dense
  have unseen : (EventDto.ofPersisted e).sequence ∉ c.seen := by
    rw [sequence, shows.seen]
    omega
  have last : (c.events.findIdx? fun other => (EventDto.ofPersisted e).sequence < other.sequence) =
      none := by
    rw [List.findIdx?_eq_none_iff]
    intro other member
    have number : other.sequence ∈ c.events.map EventDto.sequence := List.mem_map_of_mem member
    rw [shows.sequences dense, List.mem_range'_1] at number
    rw [sequence]
    exact decide_eq_false (by omega)
  have pushed : c.push (.ofPersisted e) =
      { c with
        seen := (EventDto.ofPersisted e).sequence :: c.seen
        events := c.events ++ [.ofPersisted e] } := by
    rw [ConversationEventStream.push, if_neg unseen, last]
  rw [pushed]
  refine ⟨⟨?_, fun n => ?_⟩, rfl⟩
  · rcases shows.events with ⟨es, length, shown, page⟩
    refine ⟨es ++ [e], by rw [List.length_append, length]; rfl, ?_, page.append ?_⟩
    · rw [shown, List.map_append]
      rfl
    · rw [length, Nat.zero_add]
      exact next
  · simp only [List.mem_cons, shows.seen, sequence]
    omega

theorem Showing.pushAll (shows : Showing serde rows c k)
    (dense : Dense (rows.map EventRow.sequence)) {es : List PersistedEvent}
    (page : Page serde rows k es) :
    Showing serde rows ((es.map EventDto.ofPersisted).foldl .push c) (k + es.length) ∧
      c.events <+: ((es.map EventDto.ofPersisted).foldl .push c).events := by
  induction es generalizing c k with
  | nil => exact ⟨shows, List.prefix_refl _⟩
  | cons e es ih =>
      rcases page_cons.mp page with ⟨here, later⟩
      rcases shows.push dense here with ⟨shown, added⟩
      rcases ih shown later with ⟨all, more⟩
      rw [List.length_cons, Nat.add_comm es.length, ← Nat.add_assoc]
      refine ⟨all, List.IsPrefix.trans ?_ more⟩
      rw [added]
      exact List.prefix_append _ _

theorem Showing.grown (shows : Showing serde rows c k) {later : List EventRow}
    (part : rows <+: later) : Showing serde later c k := by
  rcases shows.events with ⟨es, length, shown, page⟩
  exact ⟨⟨es, length, shown, page.grown part⟩, shows.seen⟩

end Showing

def Frame.event? : Frame → Option (String × EventDto)
  | .event id data => some (id, data)
  | .comment _ => none

def sent (e : PersistedEvent) : String × EventDto := (toString e.sequence, .ofPersisted e)

/-- The server goes on after the first `a` events. -/
structure PollState.Serves (serde : Serde) (rows : List EventRow) (st : PollState) (a : Nat) :
    Prop where
  cursor : (st.cursor.getD 0).toNat = a
  buffered : Page serde rows a st.buffered

/-- In flight to a client that shows the first `k` events are those that come next, up to the
server's cursor. -/
def Connection.Follows (serde : Serde) (rows : List EventRow) (c : Connection) (k : Nat) : Prop :=
  ∃ es : List PersistedEvent, c.inFlight.filterMap Frame.event? = es.map sent ∧
    Page serde rows k es ∧ ∀ st, c.server = some st → st.Serves serde rows (k + es.length)

/-- A new connection goes on after the first `k` events. -/
def EventSource.Resumes (source : EventSource) (k : Nat) : Prop :=
  ∃ after, queryAfter source.after = .ok after ∧
    (((source.lastEventId.bind parseSequence).or after).getD 0).toNat = k

section Flight

variable {serde : Serde} {conversation : ConversationId} {s : Tables} {st st' : PollState}
  {a k : Nat} {e : PersistedEvent} {events : List PersistedEvent} {frame : Frame}

theorem parseSequence_toString {n : Nat} (below : n < 2 ^ 64) :
    parseSequence (toString n) = some (UInt64.ofNat n) := by
  rw [parseSequence, Nat.toString_eq_repr, unsigned?_repr below]
  rfl

theorem page_of_shows {rows : List EventRow} {limit : Nat}
    (shows : Shows serde ((rows.drop a).take limit) events) : Page serde rows a events := by
  have length := shows.length_eq
  rw [List.length_take] at length
  rw [Page, ← length, ← List.take_eq_take_min]
  exact shows

theorem PollState.Serves.handOut {rest : List PersistedEvent} (numbered : Numbered s.events)
    (page : Page serde (log conversation s.events) a (e :: rest)) :
    Page serde (log conversation s.events) a [e] ∧
      (st.handOut e rest).2.Serves serde (log conversation s.events) (a + 1) := by
  rcases page_cons.mp page with ⟨here, later⟩
  refine ⟨here, ?_, later⟩
  rw [← here.next (numbered.dense conversation)]
  exact UInt64.toNat_ofNat_of_lt' (here.bounded numbered)

theorem next_cases (numbered : Numbered s.events)
    (serves : st.Serves serde (log conversation s.events) a)
    (polled : st.next serde conversation s = some (frame, st')) :
    (frame.event? = none ∧ st'.Serves serde (log conversation s.events) a) ∨
      ∃ e, frame.event? = some (sent e) ∧ Page serde (log conversation s.events) a [e] ∧
        st'.Serves serde (log conversation s.events) (a + 1) := by
  unfold PollState.next at polled
  split at polled
  · rename_i e rest buffered
    cases polled
    have page := serves.buffered
    rw [buffered] at page
    exact .inr ⟨e, rfl, PollState.Serves.handOut numbered page⟩
  · split at polled
    · cases polled
      exact .inl ⟨rfl, serves⟩
    · rename_i e rest read
      cases polled
      have shows := numbered.readEvents_iff.mp read
      rw [serves.cursor] at shows
      exact .inr ⟨e, rfl, PollState.Serves.handOut numbered (page_of_shows shows)⟩
    · cases polled

theorem Connection.Follows.poll {inFlight : List Frame} (numbered : Numbered s.events)
    (follows : Connection.Follows serde (log conversation s.events) ⟨some st, inFlight⟩ k)
    (polled : st.next serde conversation s = some (frame, st')) :
    Connection.Follows serde (log conversation s.events) ⟨some st', inFlight ++ [frame]⟩ k := by
  rcases follows with ⟨es, flying, page, serves⟩
  rcases next_cases numbered (serves st rfl) polled with ⟨silent, still⟩ | ⟨e, carried, here, further⟩
  · refine ⟨es, ?_, page, fun _ same => Option.some.inj same ▸ still⟩
    simp [List.filterMap_append, flying, silent]
  · refine ⟨es ++ [e], ?_, page.append here, fun _ same => ?_⟩
    · simp [List.filterMap_append, flying, carried]
    · rw [List.length_append, List.length_singleton, ← Nat.add_assoc]
      exact Option.some.inj same ▸ further

theorem Connection.Follows.ended {rows : List EventRow} {server : Option PollState}
    {inFlight : List Frame} (follows : Connection.Follows serde rows ⟨server, inFlight⟩ k) :
    Connection.Follows serde rows ⟨none, inFlight⟩ k := by
  rcases follows with ⟨es, flying, page, _⟩
  exact ⟨es, flying, page, fun _ same => by cases same⟩

theorem Connection.Follows.deliver {rows : List EventRow} {server : Option PollState}
    {rest : List Frame} (follows : Connection.Follows serde rows ⟨server, frame :: rest⟩ k) :
    (frame.event? = none ∧ Connection.Follows serde rows ⟨server, rest⟩ k) ∨
      ∃ e, frame.event? = some (sent e) ∧ Page serde rows k [e] ∧
        Connection.Follows serde rows ⟨server, rest⟩ (k + 1) := by
  rcases follows with ⟨es, flying, page, serves⟩
  cases carried : frame.event? with
  | none =>
      rw [List.filterMap_cons_none carried] at flying
      exact .inl ⟨rfl, es, flying, page, serves⟩
  | some data =>
      rw [List.filterMap_cons_some carried] at flying
      cases es with
      | nil => cases flying
      | cons e es =>
          rw [List.map_cons, List.cons.injEq] at flying
          rcases page_cons.mp page with ⟨here, later⟩
          refine .inr ⟨e, congrArg some flying.1, here, es, flying.2, later, fun st same => ?_⟩
          have further := serves st same
          rwa [List.length_cons, Nat.add_comm es.length, ← Nat.add_assoc] at further

theorem Connection.Follows.grown {rows later : List EventRow} {c : Connection}
    (follows : c.Follows serde rows k) (part : rows <+: later) : c.Follows serde later k := by
  rcases follows with ⟨es, flying, page, serves⟩
  exact ⟨es, flying, page.grown part, fun st same =>
    ⟨(serves st same).cursor, (serves st same).buffered.grown part⟩⟩

theorem opens_follows {source : EventSource} {limit : Option Nat} (resumes : source.Resumes k)
    (opened : conversationEventsStream conversation source.lastEventId source.after limit s = .ok st) :
    Connection.Follows serde (log conversation s.events) ⟨some st, []⟩ k := by
  rcases resumes with ⟨after, query, place⟩
  rw [conversationEventsStream, query, ok_bind] at opened
  rcases bind_ok_iff.mp opened with ⟨_, _, made⟩
  cases made
  refine ⟨[], rfl, page_nil, fun _ same => ?_⟩
  cases same
  exact ⟨place, page_nil⟩

theorem resumes_received {source : EventSource} {connection : Option Connection} {closed : Bool}
    (numbered : Numbered s.events) (resumes : source.Resumes k)
    (here : Page serde (log conversation s.events) k [e]) :
    EventSource.Resumes ⟨source.after, some (toString e.sequence), connection, closed⟩ (k + 1) := by
  rcases resumes with ⟨after, query, _⟩
  refine ⟨after, query, ?_⟩
  have below := here.bounded numbered
  simp only [Option.bind_some, parseSequence_toString below, Option.or, Option.getD_some]
  rw [UInt64.toNat_ofNat_of_lt' below, here.next (numbered.dense conversation)]

theorem resumes_new {rows : List EventRow} (numbered : Numbered s.events)
    (rowsEq : rows = log conversation s.events) (page : Page serde rows 0 events) :
    (EventSource.new ((events.map EventDto.ofPersisted).getLast?.map fun e =>
      toString e.sequence)).Resumes events.length := by
  subst rowsEq
  rcases List.eq_nil_or_concat events with rfl | ⟨front, last, rfl⟩
  · exact ⟨none, rfl, rfl⟩
  · rw [List.concat_eq_append] at page ⊢
    have numbers := page.sequences (numbered.dense conversation)
    have sequence : last.sequence = (front ++ [last]).length := by
      have ends := congrArg List.getLast? numbers
      rw [List.map_append, List.map_singleton, List.getLast?_append, List.getLast?_range'] at ends
      simpa [Nat.add_comm] using ends
    have below : last.sequence < 2 ^ 64 := by
      have whole : ((log conversation s.events).drop 0).take (front ++ [last]).length ⊆ s.events :=
        fun row member => List.mem_of_mem_filter (List.mem_of_mem_drop (List.mem_of_mem_take member))
      exact Shows.bounded page numbered whole (List.mem_append_right _ (List.mem_singleton_self last))
    have text : queryAfter (some (toString last.sequence)) = .ok (some (.ofNat last.sequence)) := by
      rw [queryAfter, parseSequence_toString below]
    refine ⟨some (.ofNat last.sequence), ?_, ?_⟩
    · rw [List.map_append, List.map_singleton, List.getLast?_concat, Option.map_some]
      exact text
    · simp only [EventSource.new, Option.bind_none, Option.none_or, Option.getD_some]
      rw [UInt64.toNat_ofNat_of_lt' below, sequence]

end Flight

section System

variable {sha256 : Sha256} {serde : Serde} {conversation : ConversationId}
  {historyLimit streamLimit : Option Nat} {w : World}

/-- The log, the client, the server and the browser agree on how far the client has come. -/
structure Tail (serde : Serde) (conversation : ConversationId) (w : World) : Prop where
  keys : Keys w.tables
  numbered : Numbered w.tables.events
  shows : Showing serde (log conversation w.tables.events) w.client w.client.events.length
  waiting : w.fetch ≠ .finished → w.client.events = [] ∧ w.source = none
  history : ∀ page, w.fetch = .answered (.ok page) →
    ∃ es : List PersistedEvent, page.items = es.map .ofPersisted ∧
      Page serde (log conversation w.tables.events) 0 es
  resumes : ∀ source, w.source = some source → source.Resumes w.client.events.length
  follows : ∀ source c, w.source = some source → source.connection = some c →
    c.Follows serde (log conversation w.tables.events) w.client.events.length

def Keeps (serde : Serde) (conversation : ConversationId) (w w' : World) : Prop :=
  Tail serde conversation w' ∧ w.client.events <+: w'.client.events

theorem Tail.unchanged (tail : Tail serde conversation w) : Keeps serde conversation w w :=
  ⟨tail, List.prefix_refl _⟩

theorem Tail.ledger (tail : Tail serde conversation w) (op : Op) :
    Keeps serde conversation w { w with tables := Ledger.step sha256 serde w.tables op } := by
  rcases @step_grows sha256 serde _ tail.keys op with ⟨keys, grows⟩
  have part := log_grown grows.events conversation
  refine ⟨?_, List.prefix_refl _⟩
  constructor
  · exact keys
  · exact step_numbered tail.keys tail.numbered op
  · exact tail.shows.grown part
  · exact tail.waiting
  · intro page answered
    rcases tail.history page answered with ⟨es, items, here⟩
    exact ⟨es, items, here.grown part⟩
  · exact tail.resumes
  · exact fun source c here connected => (tail.follows source c here connected).grown part

theorem conversationEvents_ok {limit : Option Nat} {s : Tables} {page : EventPageDto}
    (numbered : Numbered s.events)
    (served : conversationEvents serde conversation none limit s = .ok page) :
    ∃ es : List PersistedEvent, page.items = es.map .ofPersisted ∧
      Page serde (log conversation s.events) 0 es := by
  rw [conversationEvents] at served
  rcases bind_ok_iff.mp served with ⟨_, _, served⟩
  rcases bind_ok_iff.mp served with ⟨events, read, made⟩
  cases made
  have shows := numbered.readEvents_iff.mp (mapError_ok_iff.mp read)
  exact ⟨events, rfl, page_of_shows shows⟩

theorem Tail.listen (tail : Tail serde conversation w) (pending : w.fetch ≠ .finished)
    {es : List PersistedEvent} (page : Page serde (log conversation w.tables.events) 0 es) :
    Keeps serde conversation w (w.listen (es.map .ofPersisted)) := by
  rcases tail.waiting pending with ⟨nothing, unopened⟩
  unfold World.listen
  split
  · refine ⟨⟨tail.keys, tail.numbered, tail.shows, fun again => absurd rfl again, ?_, tail.resumes,
      tail.follows⟩, List.prefix_refl _⟩
    intro page finished
    cases finished
  · have before := tail.shows
    rw [nothing] at before
    rcases before.pushAll (tail.numbered.dense conversation) page with ⟨shown, more⟩
    refine ⟨⟨tail.keys, tail.numbered, ?_, fun again => absurd rfl again, ?_, ?_, ?_⟩, more⟩
    · rw [shown.length]
      exact shown
    · intro page finished
      cases finished
    · intro source here
      cases here
      rw [shown.length, List.length_nil, Nat.zero_add]
      exact resumes_new tail.numbered rfl page
    · intro source c here connected
      cases here
      cases connected

theorem Tail.finished (tail : Tail serde conversation w) {source : EventSource}
    (opened : w.source = some source) : w.fetch = .finished := by
  by_contra pending
  have unopened := (tail.waiting pending).2
  rw [opened] at unopened
  cases unopened

theorem Tail.reconnected (tail : Tail serde conversation w) {source before : EventSource}
    {client : ConversationEventStream} (opened : w.source = some before)
    (events : client.events = w.client.events) (seen : client.seen = w.client.seen)
    (resumes : source.Resumes w.client.events.length)
    (follows : ∀ c, source.connection = some c →
      c.Follows serde (log conversation w.tables.events) w.client.events.length) :
    Keeps serde conversation w { w with client := client, source := some source } := by
  have finished := tail.finished opened
  refine ⟨⟨tail.keys, tail.numbered, ?_, fun pending => absurd finished pending, tail.history, ?_,
    ?_⟩, ?_⟩
  · rcases tail.shows.events with ⟨es, length, shown, page⟩
    refine ⟨⟨es, ?_, events.trans shown, page⟩, fun n => ?_⟩
    · rw [events, length]
    · rw [seen, events]
      exact tail.shows.seen n
  · intro source here
    cases here
    rw [events]
    exact resumes
  · intro source c here connected
    cases here
    rw [events]
    exact follows c connected
  · rw [events]

theorem Tail.receive (tail : Tail serde conversation w) {after lastEventId : Option String}
    {frame : Frame} {server : Option PollState} {rest : List Frame} {closed : Bool}
    (opened : w.source = some ⟨after, lastEventId, some ⟨server, frame :: rest⟩, closed⟩) :
    Keeps serde conversation w
      (w.receive ⟨after, lastEventId, some ⟨server, rest⟩, closed⟩ frame) := by
  have resumes := tail.resumes _ opened
  rcases (tail.follows _ _ opened rfl).deliver with ⟨silent, follows⟩ | ⟨e, carried, here, follows⟩
  · cases frame with
    | event id data => cases silent
    | comment text =>
        rw [World.receive]
        apply tail.reconnected opened rfl rfl
        · exact resumes
        · intro c same
          cases same
          exact follows
  · cases frame with
    | comment text => cases carried
    | event id data =>
        cases carried
        rcases tail.shows.push (tail.numbered.dense conversation) here with ⟨shown, added⟩
        have finished := tail.finished opened
        have length := shown.length
        -- The server and the client are of one schema version.
        have version : (EventDto.ofPersisted e).schemaVersion = expectedSchemaVersion := rfl
        rw [World.receive, if_pos version]
        refine ⟨⟨tail.keys, tail.numbered, ?_, fun pending => absurd finished pending, tail.history,
          ?_, ?_⟩, ?_⟩
        · rw [length]
          exact shown
        · intro source here'
          cases here'
          rw [length]
          exact resumes_received tail.numbered resumes here
        · intro source c here' same
          cases here'
          cases same
          rw [length]
          exact follows
        · rw [added]
          exact List.prefix_append _ _

theorem Tail.close (tail : Tail serde conversation w) :
    Keeps serde conversation w
      { w with client := { w.client with closed := true, status := .closed }, source := none } := by
  refine ⟨⟨tail.keys, tail.numbered, ⟨tail.shows.events, tail.shows.seen⟩, ?_, tail.history, ?_, ?_⟩,
    List.prefix_refl _⟩
  · exact fun pending => ⟨(tail.waiting pending).1, rfl⟩
  · exact fun source here => by cases here
  · exact fun source c here => by cases here

theorem Tail.step (tail : Tail serde conversation w) (move : Move) :
    Keeps serde conversation w
      (step sha256 serde conversation historyLimit streamLimit w move) := by
  cases move with
  | ledger op => exact tail.ledger op
  | serveHistory =>
      simp only [Deck.step]
      split
      · rename_i waiting
        have pending : w.fetch ≠ .finished := by rw [waiting]; exact Fetch.noConfusion
        refine ⟨⟨tail.keys, tail.numbered, tail.shows, fun _ => tail.waiting pending, ?_,
          tail.resumes, tail.follows⟩, List.prefix_refl _⟩
        intro page answered
        exact conversationEvents_ok tail.numbered (Fetch.answered.inj answered)
      · exact tail.unchanged
  | historyArrives =>
      simp only [Deck.step]
      split
      · rename_i page answered
        have pending : w.fetch ≠ .finished := by rw [answered]; exact Fetch.noConfusion
        rcases tail.history page answered with ⟨es, items, here⟩
        split
        · rw [items]
          exact tail.listen pending here
        · exact tail.listen pending (page_nil (a := 0))
      · rename_i answered
        have pending : w.fetch ≠ .finished := by rw [answered]; exact Fetch.noConfusion
        exact tail.listen pending (page_nil (a := 0))
      · exact tail.unchanged
  | historyFails =>
      simp only [Deck.step]
      split
      · exact tail.unchanged
      · rename_i pending
        exact tail.listen pending (page_nil (a := 0))
  | connect =>
      simp only [Deck.step]
      split
      · rename_i after lastEventId opened
        have resumes := tail.resumes _ opened
        split
        · rename_i st accepted
          refine tail.reconnected opened rfl rfl ?_ ?_
          · exact resumes
          intro c same
          cases same
          exact opens_follows resumes accepted
        · refine tail.reconnected opened rfl rfl ?_ fun c same => by cases same
          exact resumes
      · exact tail.unchanged
  | poll =>
      simp only [Deck.step]
      split
      · rename_i after lastEventId st inFlight closed opened
        have resumes := tail.resumes _ opened
        have follows := tail.follows _ _ opened rfl
        split
        · rename_i frame st' polled
          refine tail.reconnected opened rfl rfl ?_ ?_
          · exact resumes
          intro c same
          cases same
          exact follows.poll tail.numbered polled
        · refine tail.reconnected opened rfl rfl ?_ ?_
          · exact resumes
          intro c same
          cases same
          exact follows.ended
      · exact tail.unchanged
  | deliver =>
      simp only [Deck.step]
      split
      · rename_i after lastEventId server frame rest closed opened
        exact tail.receive opened
      · exact tail.unchanged
  | disconnect =>
      simp only [Deck.step]
      split
      · rename_i after lastEventId c closed opened
        have resumes := tail.resumes _ opened
        refine tail.reconnected opened rfl rfl ?_ fun c same => by cases same
        exact resumes
      · exact tail.unchanged
  | close => exact tail.close

theorem Tail.run (tail : Tail serde conversation w) (moves : List Move) :
    Keeps serde conversation w (run sha256 serde conversation historyLimit streamLimit w moves) := by
  induction moves generalizing w with
  | nil => exact tail.unchanged
  | cons move moves ih =>
      rcases @Tail.step sha256 serde conversation historyLimit streamLimit w tail move with
        ⟨next, first⟩
      rcases ih next with ⟨last, rest⟩
      exact ⟨last, first.trans rest⟩

theorem tail_start (ops : List Op) :
    Tail serde conversation (.start (Ledger.run sha256 serde .empty ops)) := by
  refine ⟨reachable_keys ⟨ops, rfl⟩, reachable_numbered, showing_new, fun _ => ⟨rfl, rfl⟩, ?_, ?_, ?_⟩
  · exact fun page answered => by cases answered
  · exact fun source here => by cases here
  · exact fun source c here => by cases here

/-- At every moment the client shows the events `1, .., k` of the log, each once and in order, and
later it shows them still, followed by those that have come since. -/
theorem live_tail (sha256 : Sha256) (serde : Serde) (conversation : ConversationId)
    (historyLimit streamLimit : Option Nat) (ops : List Op) (moves : List Move) :
    let w := run sha256 serde conversation historyLimit streamLimit
      (.start (Ledger.run sha256 serde .empty ops)) moves
    (∃ (k : Nat) (es : List PersistedEvent),
      Shows serde ((log conversation w.tables.events).take k) es ∧
        w.client.events = es.map .ofPersisted ∧
        w.client.events.map EventDto.sequence = List.range' 1 k) ∧
      ∀ more, w.client.events <+:
        (run sha256 serde conversation historyLimit streamLimit w more).client.events := by
  intro w
  have tail : Tail serde conversation w := ((tail_start ops).run moves).1
  constructor
  · rcases tail.shows.events with ⟨es, length, shown, page⟩
    refine ⟨es.length, es, page, shown, ?_⟩
    rw [length]
    exact tail.shows.sequences (tail.numbered.dense conversation)
  · exact fun more => (tail.run more).2

end System

end O7Formal.Deck
