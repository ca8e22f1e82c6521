import O7Formal.Ledger.Emission

/-! The event log of a conversation along a run: dense, appended to only, and a reader that goes on
page by page sees each event above its starting point once, in order, whatever is appended
meanwhile. A page is read whole only if the payloads on it are. -/

namespace O7Formal.Ledger

open Fallible Json Table Numbering
open O7Formal.Run (Sha256 standardSha256)

/-- The stored payload is the text of one that the reader gets to the bottom of. -/
def EventRow.Readable (row : EventRow) : Prop :=
  ∃ payload : JsonValue, row.payloadJson = payload.text ∧ Shallow payload

theorem readable_iff {serde : Serde} {row : EventRow}
    (printed : ∃ payload : JsonValue, row.payloadJson = payload.text) :
    (∃ event, persistedEventFromRaw serde row = .ok event) ↔ row.Readable := by
  constructor
  · intro read
    rcases read with ⟨event, read⟩
    rcases persistedEventFromRaw_ok.mp read with ⟨read, reads, _⟩
    rcases printed with ⟨payload, text⟩
    refine ⟨payload, text, not_lt.mp fun deep => ?_⟩
    rcases serde.stops payload deep with ⟨e, stopped⟩
    rw [text, stopped] at reads
    cases reads
  · intro readable
    rcases readable with ⟨payload, text, shallow⟩
    rcases serde.reads payload shallow with ⟨read, reads⟩
    rw [← text] at reads
    exact ⟨_, persistedEventFromRaw_ok.mpr ⟨read, reads, rfl⟩⟩

def Shows (serde : Serde) (rows : List EventRow) (events : List PersistedEvent) : Prop :=
  List.Forall₂ (fun row event => persistedEventFromRaw serde row = .ok event) rows events

theorem Shows.sequences {serde : Serde} {rows : List EventRow} {events : List PersistedEvent}
    (shows : Shows serde rows events) :
    events.map PersistedEvent.sequence = rows.map EventRow.sequence := by
  induction shows with
  | nil => rfl
  | cons here _ ih =>
      rcases persistedEventFromRaw_ok.mp here with ⟨_, _, rfl⟩
      rw [List.map_cons, List.map_cons, ih]
      rfl

theorem shows_exists {serde : Serde} {rows : List EventRow}
    (readable : ∀ row ∈ rows, row.Readable) : ∃ events, Shows serde rows events := by
  induction rows with
  | nil => exact ⟨[], .nil⟩
  | cons row rows ih =>
      rw [List.forall_mem_cons] at readable
      rcases readable.1 with ⟨payload, text, shallow⟩
      rcases (readable_iff ⟨payload, text⟩).mpr readable.1 with ⟨event, read⟩
      rcases ih readable.2 with ⟨events, shows⟩
      exact ⟨event :: events, .cons read shows⟩

theorem Numbered.readEvents_iff {serde : Serde} {s : Tables} (numbered : Numbered s.events)
    {conversation : ConversationId} {after : Option UInt64} {limit : Nat}
    {events : List PersistedEvent} :
    readEvents serde conversation after limit s = .ok events ↔
      Shows serde (((log conversation s.events).drop (after.getD 0).toNat).take
        (min limit maxReadLimit)) events := by
  rw [readEvents, mapM_ok_iff, numbered.rowsAfter_eq]
  rfl

section Following

variable (sha256 : Sha256) (serde : Serde) (conversation : ConversationId) (limit : Nat)

/-- A reader that asks for page after page, each after the last sequence it has seen, until a page
is empty. Between one page and the next others run the operations of `meanwhile`. Returns what it
has read, whether it came to an empty page, and the tables then. -/
def follow : Option UInt64 → Tables → List (List Op) →
    Except LedgerError (List PersistedEvent × Bool × Tables)
  | _, s, [] => .ok ([], false, s)
  | after, s, ops :: meanwhile => do
      let page ← readEvents serde conversation after limit s
      match page.getLast? with
      | none => return ([], true, s)
      | some last =>
          let (more, ended, t) ← follow (some (UInt64.ofNat last.sequence))
            (run sha256 serde s ops) meanwhile
          return (page ++ more, ended, t)

/-- What a reader has read from `s` to `t` of the events above `a`, in up to `pages` pages. -/
structure Followed (a : Nat) (s : Tables) (pages : Nat) (events : List PersistedEvent)
    (ended : Bool) (t : Tables) : Prop where
  grown : log conversation s.events <+: log conversation t.events
  /-- No gap and no duplicate. -/
  sequences : events.map PersistedEvent.sequence = List.range' (a + 1) events.length
  part : Shows serde (((log conversation t.events).filter fun e => decide (a < e.sequence)).take
    events.length) events
  whole : ended = true →
    Shows serde ((log conversation t.events).filter fun e => decide (a < e.sequence)) events
  /-- A reader that nothing is appended under comes to an end. -/
  ends : log conversation t.events = log conversation s.events →
    ((log conversation s.events).filter fun e => decide (a < e.sequence)).length < pages →
    ended = true

end Following

/-- The same, of the logs before and after, by position. -/
structure Paged (serde : Serde) (a : Nat) (xs : List EventRow) (pages : Nat)
    (events : List PersistedEvent) (ended : Bool) (ys : List EventRow) : Prop where
  grown : xs <+: ys
  part : Shows serde ((ys.drop a).take events.length) events
  whole : ended = true → ys.length ≤ a + events.length
  ends : ys.length = xs.length → xs.length - a < pages → ended = true

section Paging

variable {serde : Serde} {a k : Nat} {xs xs' ys : List EventRow} {pages : Nat} {ended : Bool}

theorem take_drop_grown (part : xs <+: ys) (inside : a < xs.length) {p : Nat}
    (length : p = ((xs.drop a).take k).length) : (ys.drop a).take p = (xs.drop a).take k := by
  rcases part with ⟨zs, rfl⟩
  rw [List.length_take] at length
  rw [List.drop_append_of_le_length inside.le, List.take_append_of_le_length (by omega), length,
    ← List.take_eq_take_min]

theorem Paged.page {page more : List PersistedEvent} (shows : Shows serde ((xs.drop a).take k) page) (some : 0 < page.length)
    (grown : xs <+: xs') (rest : Paged serde (a + page.length) xs' pages more ended ys) :
    Paged serde a xs (pages + 1) (page ++ more) ended ys := by
  have length : page.length = ((xs.drop a).take k).length := shows.length_eq.symm
  have within : page.length ≤ xs.length - a := by
    rw [length, List.length_take, List.length_drop]
    exact Nat.min_le_right _ _
  have shorter := grown.length_le
  have longer := rest.grown.length_le
  constructor
  · exact grown.trans rest.grown
  · rw [List.length_append, List.take_add, List.drop_drop]
    apply List.rel_append _ rest.part
    rw [take_drop_grown (grown.trans rest.grown) (by omega) length]
    exact shows
  · intro done
    have all := rest.whole done
    rw [List.length_append]
    omega
  · intro same few
    apply rest.ends
    · omega
    · omega

theorem Paged.followed {conversation : ConversationId} {s t : Tables}
    {events : List PersistedEvent} (numbered : Numbered s.events) (numbered' : Numbered t.events)
    (paged : Paged serde a (log conversation s.events) pages events ended
      (log conversation t.events)) :
    Followed serde conversation a s pages events ended t := by
  have dense := numbered'.dense conversation
  constructor
  · exact paged.grown
  · rw [paged.part.sequences, dense.numbers_page, paged.part.length_eq]
  · rw [dense.filter_above]
    exact paged.part
  · intro done
    have all := paged.whole done
    have part := paged.part
    rw [List.take_of_length_le (by rw [List.length_drop]; omega)] at part
    rw [dense.filter_above]
    exact part
  · intro same few
    rw [(numbered.dense conversation).filter_above, List.length_drop] at few
    exact paged.ends (congrArg List.length same) few

end Paging

section Following

variable {sha256 : Sha256} {serde : Serde} {conversation : ConversationId} {limit : Nat}

theorem Shows.bounded {events : List EventRow} {rows : List EventRow}
    {page : List PersistedEvent} (shows : Shows serde rows page) (numbered : Numbered events)
    (inside : rows ⊆ events) {event : PersistedEvent} (member : event ∈ page) :
    event.sequence < 2 ^ 64 := by
  have number : event.sequence ∈ page.map PersistedEvent.sequence := List.mem_map_of_mem member
  rw [shows.sequences] at number
  rcases List.mem_map.mp number with ⟨row, among, same⟩
  have bounded := numbered.bounded row (inside among)
  rw [← same]
  simp only [i64Max] at bounded
  omega

theorem page_last {a k : Nat} {xs : List EventRow} {page : List PersistedEvent}
    {last : PersistedEvent} (dense : Dense (xs.map EventRow.sequence))
    (shows : Shows serde ((xs.drop a).take k) page) (ends : page.getLast? = some last) :
    last.sequence = a + page.length := by
  have numbers : page.map PersistedEvent.sequence = List.range' (a + 1) page.length := by
    rw [shows.sequences, dense.numbers_page, shows.length_eq]
  have final : (page.map PersistedEvent.sequence).getLast? = some last.sequence := by
    rw [List.getLast?_map, ends]
    rfl
  rw [numbers, List.getLast?_range'] at final
  split_ifs at final with none
  have same := Option.some.inj final
  omega

theorem follow_paged (positive : 1 ≤ limit) (meanwhile : List (List Op)) {s : Tables}
    (keys : Keys s) (numbered : Numbered s.events) (after : Option UInt64)
    (readable : ∀ row ∈ (run sha256 serde s meanwhile.flatten).events, row.Readable) :
    ∃ events ended t,
      follow sha256 serde conversation limit after s meanwhile = .ok (events, ended, t) ∧
        Numbered t.events ∧
        Paged serde (after.getD 0).toNat (log conversation s.events) meanwhile.length events ended
          (log conversation t.events) := by
  induction meanwhile generalizing s after with
  | nil =>
      refine ⟨[], false, s, rfl, numbered, List.prefix_refl _, ?_, by simp, by simp⟩
      rw [List.length_nil, List.take_zero]
      exact .nil
  | cons ops meanwhile ih =>
      rw [List.flatten_cons, run_append] at readable
      have grows := @run_grows sha256 serde s keys ops
      have later := @run_grows sha256 serde _ grows.1 meanwhile.flatten
      have inside : ((log conversation s.events).drop (after.getD 0).toNat).take
          (min limit maxReadLimit) ⊆ s.events := by
        intro row member
        exact List.mem_of_mem_filter (List.mem_of_mem_drop (List.mem_of_mem_take member))
      have mine : ∀ row ∈ ((log conversation s.events).drop (after.getD 0).toNat).take
          (min limit maxReadLimit), row.Readable := by
        intro row member
        apply readable row
        exact later.2.events.subset (grows.2.events.subset (inside member))
      rcases @shows_exists serde _ mine with ⟨page, shows⟩
      have read := numbered.readEvents_iff.mpr shows
      cases last : page.getLast? with
      | none =>
          have empty := List.getLast?_eq_none_iff.mp last
          have none := shows.length_eq
          have cap : 1 ≤ min limit maxReadLimit := le_min positive (by decide)
          rw [empty, List.length_take, List.length_drop, List.length_nil] at none
          refine ⟨[], true, s, ?_, numbered, List.prefix_refl _, ?_, ?_, fun _ _ => rfl⟩
          · rw [follow, read, ok_bind, last]
            rfl
          · rw [List.length_nil, List.take_zero]
            exact .nil
          · intro _
            rw [List.length_nil]
            omega
      | some event =>
          have sequence := page_last (numbered.dense conversation) shows last
          have among := List.mem_of_getLast? last
          have fits : (UInt64.ofNat event.sequence).toNat = event.sequence := by
            apply UInt64.toNat_ofNat_of_lt'
            exact shows.bounded numbered inside among
          rcases ih grows.1 (run_numbered keys numbered ops) (some (.ofNat event.sequence)) readable
            with ⟨more, ended, t, followed, numbered', paged⟩
          refine ⟨page ++ more, ended, t, ?_, numbered', ?_⟩
          · rw [follow, read, ok_bind, last]
            simp only [followed, ok_bind]
            rfl
          · rw [Option.getD_some, fits, sequence] at paged
            exact paged.page shows (List.length_pos_of_mem among) (log_grown grows.2.events conversation)

end Following

structure EventLog (sha256 : Sha256) (serde : Serde) (ops : List Op) : Prop where
  dense : ∀ before after, ops = before ++ after → ∀ conversation,
    Dense ((log conversation (run sha256 serde .empty before).events).map EventRow.sequence)
  appends : ∀ before op after reply s', ops = before ++ op :: after →
    exec sha256 serde (run sha256 serde .empty before) op = .ok (reply, s') →
    Emitted serde (run sha256 serde .empty before) op reply s'
  failing : ∀ before op after e, ops = before ++ op :: after →
    exec sha256 serde (run sha256 serde .empty before) op = .error e →
    (run sha256 serde .empty (before ++ [op])).events = (run sha256 serde .empty before).events
  reads : ∀ before meanwhile after, ops = before ++ meanwhile.flatten ++ after →
    ∀ conversation (start : Option UInt64) limit, 1 ≤ limit → ∃ events ended t,
      follow sha256 serde conversation limit start (run sha256 serde .empty before) meanwhile =
          .ok (events, ended, t) ∧
        Followed serde conversation (start.getD 0).toNat (run sha256 serde .empty before)
          meanwhile.length events ended t

section Running

variable {sha256 : Sha256} {serde : Serde} {ops : List Op}

theorem run_readable (shallow : ∀ op ∈ ops, ∀ payload, op.carries payload → Shallow payload) :
    ∀ row ∈ (run sha256 serde .empty ops).events, row.Readable := by
  induction ops using List.reverseRecOn with
  | nil => simp [run, Tables.empty]
  | append_singleton ops op ih =>
      rw [List.forall_mem_append, List.forall_mem_singleton] at shallow
      have before := ih shallow.1
      rw [run_append, run_singleton]
      apply step_keeps (motive := fun t => ∀ row ∈ t.events, row.Readable) before
      intro reply s' ok
      rcases (exec_appends (reachable_keys ⟨ops, rfl⟩) ok).added with ⟨added, same, each⟩
      rw [same, List.forall_mem_append]
      refine ⟨before, fun row member => ?_⟩
      rcases each row member with ⟨_, payload, carried, text⟩
      exact ⟨payload, text, shallow.2 payload carried⟩

theorem reachable_numbered : Numbered (run sha256 serde .empty ops).events :=
  run_numbered keys_empty numbered_empty ops

theorem EventLog.readable (sound : EventLog sha256 serde ops) :
    ∀ row ∈ (run sha256 serde .empty ops).events, row.Readable := by
  intro row member
  have numbered := @reachable_numbered sha256 serde ops
  rcases List.append_of_mem member with ⟨earlier, later, split⟩
  have place : row.sequence = (log row.conversationId earlier).length + 1 := by
    rw [split] at numbered
    exact numbered.sequence_eq
  have bounded := numbered.bounded row member
  have small : (UInt64.ofNat (row.sequence - 1)).toNat =
      (log row.conversationId earlier).length := by
    rw [UInt64.toNat_ofNat_of_lt', place, Nat.add_sub_cancel]
    simp only [i64Max] at bounded
    change row.sequence - 1 < 2 ^ 64
    omega
  -- Only this event is on the page that starts right before it.
  rcases sound.reads ops [[]] [] (by simp) row.conversationId
    (some (UInt64.ofNat (row.sequence - 1))) 1 le_rfl with ⟨events, ended, t, followed, _⟩
  rw [follow] at followed
  rcases bind_ok_iff.mp followed with ⟨page, read, _⟩
  have shows := numbered.readEvents_iff.mp read
  have rows : log row.conversationId (run sha256 serde .empty ops).events =
      log row.conversationId earlier ++ row :: log row.conversationId later := by
    rw [split]
    simp [log]
  rw [Option.getD_some, small, rows, List.drop_left] at shows
  apply (readable_iff (numbered.printed row member)).mp
  rcases List.forall₂_cons_left_iff.mp shows with ⟨event, _, here, _⟩
  exact ⟨event, here⟩

/-- The log is as it should be along a run exactly if every payload stored in it nests no deeper
than the reader reads. -/
theorem eventLog_iff : EventLog sha256 serde ops ↔
    ∀ row ∈ (run sha256 serde .empty ops).events, row.Readable := by
  constructor
  · exact EventLog.readable
  · intro readable
    constructor
    · intro before after _ conversation
      exact reachable_numbered.dense conversation
    · intro before op after reply s' _ ok
      exact exec_emitted (reachable_keys ⟨before, rfl⟩) reachable_numbered ok
    · intro before op after e _ failed
      rw [run_append, run_singleton, step_error failed]
    · intro before meanwhile after split conversation start limit positive
      have keys : Keys (run sha256 serde .empty before) := reachable_keys ⟨before, rfl⟩
      have numbered := @reachable_numbered sha256 serde before
      rw [split, run_append, run_append] at readable
      have middle := (@run_grows sha256 serde _ keys meanwhile.flatten).1
      have grows := (@run_grows sha256 serde _ middle after).2
      rcases follow_paged positive meanwhile keys numbered start
        (fun row member => readable row (grows.events.subset member)) with
        ⟨events, ended, t, followed, numbered', paged⟩
      exact ⟨events, ended, t, followed, paged.followed numbered numbered'⟩

end Running

def deepEvent : List Op :=
  [.createConversation none "v" ⟨1, "e1"⟩,
    .appendEvent ⟨"e2", "v", none, none, .userMessage, eventSchemaVersion, nested 128⟩ 2]

theorem deepEvent_not_readable : ¬ EventLog standardSha256 printedSerde deepEvent := by
  intro sound
  have stored : ∃ row ∈ (run standardSha256 printedSerde .empty deepEvent).events,
      row.payloadJson = (nested 128).text := ⟨_, List.mem_cons_of_mem _ List.mem_cons_self, rfl⟩
  rcases stored with ⟨row, member, text⟩
  rcases sound.readable row member with ⟨payload, same, shallow⟩
  rw [← JsonValue.text_injective (text.symm.trans same), Shallow, nesting_nested] at shallow
  exact absurd shallow (by decide)

end O7Formal.Ledger
