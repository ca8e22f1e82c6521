import O7Formal.Ledger.Growth

/-! Calls under a key, over every later state: a call is replayed or refused, and never makes
anything twice. A replay of an appended event reads its payload back, so it works only for a
payload that the reader gets to the bottom of. -/

namespace O7Formal.Ledger

open Fallible Json Table
open Contracts (nesting readerNesting)
open O7Formal.Run (Sha256 standardSha256)

def CollisionFree (sha256 : Sha256) (requests : List Request) : Prop :=
  ∀ q ∈ requests, ∀ q' ∈ requests, q.scope = q'.scope → q.digest sha256 = q'.digest sha256 →
    q.bytes = q'.bytes

def requestsOf (ops : List Op) : List Request := ops.filterMap fun op => op.keyed.map Prod.snd

theorem made_grows {q : Request} {reference : String} {s s' : Tables} (made : q.Made reference s)
    (grows : Grows s s') : q.Made reference s' := by
  cases q with
  | conversation =>
      apply lookup_ne_none_iff.mpr
      exact (grows.conversations.map _).subset (lookup_ne_none_iff.mp made)
  | run request =>
      exact lookup_ne_none_iff.mpr (grows.runs.subset (lookup_ne_none_iff.mp made))
  | runWithId request runId =>
      exact lookup_ne_none_iff.mpr (grows.runs.subset (lookup_ne_none_iff.mp made))
  | command request =>
      exact lookup_ne_none_iff.mpr (grows.commands.subset (lookup_ne_none_iff.mp made))
  | userMessage owner payload runId =>
      rcases made with ⟨row, found, text⟩
      exact ⟨row, lookup_grown grows.events found, text⟩
  | systemNote owner runId attempt payload =>
      rcases made with ⟨row, found, text⟩
      exact ⟨row, lookup_grown grows.events found, text⟩

theorem persistedEventFromRaw_ok {serde : Serde} {row : EventRow} {p : PersistedEvent} :
    persistedEventFromRaw serde row = .ok p ↔
      ∃ payload, serde.fromStr row.payloadJson = .ok payload ∧ row.withPayload payload = p := by
  simp only [persistedEventFromRaw, bind_ok_iff, mapError_ok_iff, pure_ok_iff]
  exact Iff.rfl

theorem eventOr_ok {serde : Serde} {reference : String} {s : Tables} {p : PersistedEvent} :
    eventOr serde reference s = .ok p ↔ ∃ row, findEvent reference s = some row ∧
      ∃ payload, serde.fromStr row.payloadJson = .ok payload ∧ row.withPayload payload = p := by
  simp only [eventOr, bind_ok_iff, okOr_ok_iff, persistedEventFromRaw_ok]

theorem eventOr_id {serde : Serde} {reference : String} {s : Tables} {p : PersistedEvent}
    (loaded : eventOr serde reference s = .ok p) : p.eventId = reference := by
  rcases eventOr_ok.mp loaded with ⟨row, found, payload, _, rfl⟩
  exact (lookup_mem found).2

theorem eventOr_reads {serde : Serde} {reference : String} {s : Tables} {payload : JsonValue}
    (made : ∃ row, findEvent reference s = some row ∧ row.payloadJson = payload.text) :
    (∃ p, eventOr serde reference s = .ok p) ↔ Shallow payload := by
  rcases made with ⟨row, found, text⟩
  constructor
  · intro loaded
    rcases loaded with ⟨p, loaded⟩
    rcases eventOr_ok.mp loaded with ⟨row', found', read, reads, _⟩
    cases found.symm.trans found'
    by_contra deep
    rcases serde.stops payload (not_le.mp deep) with ⟨e, stopped⟩
    rw [text, stopped] at reads
    cases reads
  · intro shallow
    rcases serde.reads payload shallow with ⟨read, reads⟩
    rw [← text] at reads
    exact ⟨_, eventOr_ok.mpr ⟨row, found, read, reads, rfl⟩⟩

theorem load_resource {serde : Serde} {q : Request} {reference : String} {s : Tables}
    {reply : Reply} (loaded : q.load serde reference s = .ok reply) :
    reply.resource = some reference := by
  cases q with
  | conversation =>
      rcases map_ok_iff.mp loaded with ⟨row, found, rfl⟩
      exact congrArg some (lookup_mem (okOr_ok_iff.mp found)).2
  | run request =>
      rcases map_ok_iff.mp loaded with ⟨row, found, rfl⟩
      exact congrArg some (lookup_mem (runOr_ok.mp found)).2
  | runWithId request runId =>
      rcases map_ok_iff.mp loaded with ⟨row, found, rfl⟩
      exact congrArg some (lookup_mem (runOr_ok.mp found)).2
  | command request =>
      rcases map_ok_iff.mp loaded with ⟨row, found, rfl⟩
      exact congrArg some (lookup_mem (okOr_ok_iff.mp found)).2
  | userMessage owner payload runId =>
      rcases map_ok_iff.mp loaded with ⟨event, found, rfl⟩
      exact congrArg some (eventOr_id found)
  | systemNote owner runId attempt payload =>
      rcases map_ok_iff.mp loaded with ⟨event, found, rfl⟩
      exact congrArg some (eventOr_id found)

theorem load_iff {serde : Serde} {q : Request} {reference : String} {s : Tables}
    (made : q.Made reference s) : (∃ reply, q.load serde reference s = .ok reply) ↔ q.Readable := by
  have loads : ∀ {α : Type} {x : Option α} {error : LedgerError} (reply : α → Reply), x ≠ none →
      ((∃ r, (okOr x error).map reply = .ok r) ↔ True) := by
    intro α x error reply there
    cases x with
    | none => exact absurd rfl there
    | some a => exact iff_of_true ⟨reply a, rfl⟩ trivial
  have maps : ∀ {α : Type} {x : Except LedgerError α} {reply : α → Reply},
      (∃ r, x.map reply = .ok r) ↔ ∃ a, x = .ok a := by
    intro α x reply
    cases x <;> simp [Except.map]
  cases q with
  | conversation => exact loads _ made
  | run request => exact loads _ made
  | runWithId request runId => exact loads _ made
  | command request => exact loads _ made
  | userMessage owner payload runId => exact maps.trans (eventOr_reads made)
  | systemNote owner runId attempt payload => exact maps.trans (eventOr_reads made)

section Call

variable {α : Type} {scope key requestDigest : String}
  {load : String → Tables → Except LedgerError α}
  {make : Tables → Except LedgerError ((α × String) × Tables)} {now : Millis} {s : Tables}
  {row : IdempotencyRecord}

theorem once_recorded (found : findRecord scope key s = some row) :
    once scope (some ⟨key⟩) requestDigest load make now s =
      if row.requestDigest = requestDigest then (load row.resultReference s).map fun a => (a, s)
      else .error (.idempotencyConflict scope key) := by
  rw [once, checkOptional, check]
  simp only [found]
  split_ifs
  · simp only [ok_bind]
    cases load row.resultReference s <;> rfl
  · rfl

end Call

section Calls

variable {sha256 : Sha256} {serde : Serde} {op : Op} {key : String} {q : Request}
  {s s' : Tables} {reply : Reply}

theorem exec_recorded {q' : Request} (keyed : op.keyed = some (key, q')) (scope : q'.scope = q.scope)
    {row : IdempotencyRecord} (found : findRecord q.scope key s = some row) :
    exec sha256 serde s op =
      if row.requestDigest = q'.digest sha256 then
        (q'.load serde row.resultReference s).map fun a => (a, s)
      else .error (.idempotencyConflict q.scope key) := by
  rcases exec_keyed sha256 serde keyed s with ⟨make, now, call, _⟩
  rw [← scope] at found ⊢
  rw [call, once_recorded found]

theorem exec_records (keyed : op.keyed = some (key, q))
    (ok : exec sha256 serde s op = .ok (reply, s')) :
    ∃ row, findRecord q.scope key s' = some row ∧ row.requestDigest = q.digest sha256 ∧
      reply.resource = some row.resultReference ∧
      (s' = s ∨ s'.records = s.records ++ [row] ∧ q.Made row.resultReference s' ∧
        row.scope = q.scope) ∧
      s'.rows ≤ s.rows + 1 ∧ s'.events.length ≤ s.events.length + 1 := by
  rcases exec_keyed sha256 serde keyed s with ⟨make, now, call, makes⟩
  rw [call] at ok
  rcases once_ok ok with ⟨rfl, idem, given, row, found, same, loaded⟩ | ⟨absent, reference, made,
    fresh, rfl⟩
  · cases given
    exact ⟨row, found, same, load_resource loaded, .inl rfl, by omega, by omega⟩
  · have facts := makes reply reference made fresh
    refine ⟨⟨q.scope, key, q.digest sha256, reference, now⟩, ?_, rfl, facts.resource,
      .inr ⟨?_, ?_, rfl⟩, facts.rows, facts.events⟩
    · have none : findRecord q.scope key made = Option.none := by
        rw [findRecord, facts.records]
        exact absent _ rfl
      exact lookup_append_self (r := (⟨q.scope, key, q.digest sha256, reference, now⟩ :
        IdempotencyRecord)) none
    · rw [facts.records]
      rfl
    · have there := facts.there
      cases q <;> exact there

end Calls

/-- Every record is of one of the requests, and names what that request made. -/
def Recorded (sha256 : Sha256) (requests : List Request) (s : Tables) : Prop :=
  ∀ row ∈ s.records, ∃ q ∈ requests, row.scope = q.scope ∧
    row.requestDigest = q.digest sha256 ∧ q.Made row.resultReference s

section Running

variable {sha256 : Sha256} {serde : Serde} {s : Tables}

theorem writes_unkeyed {op : Op} {s' : Tables} (keys : Keys s) (writes : Writes s op s')
    (unkeyed : op.keyed = none) : s'.records = s.records := by
  have none : ∀ {records}, Records op s records → s.records ++ records = s.records := by
    intro records fits
    rcases fits with ⟨scope, idempotency, requestDigest, reference, now, _, given, rfl⟩
    rw [given unkeyed]
    exact List.append_nil _
  cases writes with
  | nothing => rfl
  | conversation c events records _ _ fits => exact none fits
  | run r events records _ _ _ _ fits => exact none fits
  | moved => rfl
  | attempt => rfl
  | closed => rfl
  | resumed r attemptId stamp events t _ _ _ tables =>
      subst tables
      rfl
  | repaired => rfl
  | interrupted runs attempts t _ first second => exact (interrupted_frame first second).2.2
  | session => rfl
  | accepted request commandId now records _ _ fits => exact none fits
  | command => rfl
  | reconciled now repaired _ ok =>
      apply reconcileCompletedCommands_keeps (motive := fun t => t.records = s.records)
        keys.commands rfl _ ok
      exact fun _ _ _ held _ _ => held
  | event conversation events records _ fits => exact none fits

theorem step_recorded {requests : List Request} (keys : Keys s)
    (recorded : Recorded sha256 requests s) (op : Op) :
    Recorded sha256 (requests ++ requestsOf [op]) (step sha256 serde s op) := by
  have kept : ∀ s', Grows s s' → ∀ row ∈ s.records, ∃ q ∈ requests ++ requestsOf [op],
      row.scope = q.scope ∧ row.requestDigest = q.digest sha256 ∧
        q.Made row.resultReference s' := by
    intro s' grows row member
    rcases recorded row member with ⟨q, among, scope, digest, made⟩
    exact ⟨q, List.mem_append_left _ among, scope, digest, made_grows made grows⟩
  apply step_keeps
  · exact kept s (Grows.refl s)
  · intro reply s' ok row member
    have grown := exec_grows keys ok
    cases keyed : op.keyed with
    | none =>
        rw [writes_unkeyed keys (exec_writes keys.commands ok) keyed] at member
        exact kept s' grown.2 row member
    | some call =>
        rcases exec_records keyed ok with ⟨new, _, digest, _, same | ⟨records, made, scope⟩, _⟩
        · rw [same] at member
          exact kept s' grown.2 row member
        · rw [records] at member
          rcases List.mem_append.mp member with old | last
          · exact kept s' grown.2 row old
          · rw [List.mem_singleton.mp last]
            refine ⟨call.2, List.mem_append_right _ ?_, scope, digest, made⟩
            simp [requestsOf, keyed]

theorem run_recorded (ops : List Op) :
    Recorded sha256 (requestsOf ops) (run sha256 serde .empty ops) := by
  induction ops using List.reverseRecOn with
  | nil =>
      intro row member
      cases member
  | append_singleton ops op ih =>
      have split : requestsOf (ops ++ [op]) = requestsOf ops ++ requestsOf [op] :=
        List.filterMap_append
      rw [split, run_append, run_singleton]
      exact step_recorded (reachable_keys ⟨ops, rfl⟩) ih op

structure Idempotent (sha256 : Sha256) (serde : Serde) (key : String) (q : Request)
    (reply : Reply) (s s' : Tables) : Prop where
  /-- The same request again returns the same resource and changes nothing. -/
  replays : ∀ later op, op.keyed = some (key, q) → ∃ again,
    exec sha256 serde (run sha256 serde s' later) op = .ok (again, run sha256 serde s' later) ∧
      again.resource = reply.resource
  /-- Another request is refused. -/
  conflicts : ∀ later op q', op.keyed = some (key, q') → q'.scope = q.scope → q' ≠ q →
    CollisionFree sha256 [q, q'] →
    exec sha256 serde (run sha256 serde s' later) op = .error (.idempotencyConflict q.scope key)
  /-- One row and one event at most were made, and never any more. -/
  creates : s'.rows ≤ s.rows + 1 ∧ s'.events.length ≤ s.events.length + 1 ∧
    ∀ later op q', op.keyed = some (key, q') → q'.scope = q.scope →
      step sha256 serde (run sha256 serde s' later) op = run sha256 serde s' later
  /-- A call that fails records no key. -/
  failing : ∀ t op e, exec sha256 serde t op = .error e → step sha256 serde t op = t

section Answer

variable {before : List Op} {op : Op} {key : String} {q : Request} {reply : Reply} {s' : Tables}

theorem exec_answered (keyed : op.keyed = some (key, q))
    (free : CollisionFree sha256 (requestsOf (before ++ [op])))
    (ok : exec sha256 serde (run sha256 serde .empty before) op = .ok (reply, s')) :
    ∃ row : IdempotencyRecord, row.requestDigest = q.digest sha256 ∧
      reply.resource = some row.resultReference ∧
      ∀ later, findRecord q.scope key (run sha256 serde s' later) = some row ∧
        q.Made row.resultReference (run sha256 serde s' later) := by
  have keys : Keys (run sha256 serde .empty before) := reachable_keys ⟨before, rfl⟩
  have reached : run sha256 serde .empty (before ++ [op]) = s' := by
    rw [run_append, run_singleton, step_ok ok]
  rcases exec_records keyed ok with ⟨row, found, digest, resource, _⟩
  -- No other request of the run has its digest.
  have made : q.Made row.resultReference s' := by
    have recorded := @run_recorded sha256 serde (before ++ [op])
    rw [reached] at recorded
    have held := lookup_mem found
    rcases recorded row held.1 with ⟨q₀, among, scope, digest₀, made⟩
    have mine : q ∈ requestsOf (before ++ [op]) := by
      simp [requestsOf, keyed]
    have sameScope : q₀.scope = q.scope := scope.symm.trans (congrArg Prod.fst held.2)
    have same := free q₀ among q mine sameScope (digest₀.symm.trans digest)
    rw [← bytes_injective sameScope same]
    exact made
  refine ⟨row, digest, resource, fun later => ?_⟩
  have grows := (@run_grows sha256 serde s' (exec_grows keys ok).1 later).2
  exact ⟨lookup_grown grows.records found, made_grows made grows⟩

theorem Idempotent.readable (keyed : op.keyed = some (key, q))
    (free : CollisionFree sha256 (requestsOf (before ++ [op])))
    (ok : exec sha256 serde (run sha256 serde .empty before) op = .ok (reply, s'))
    (idempotent : Idempotent sha256 serde key q reply (run sha256 serde .empty before) s') :
    q.Readable := by
  rcases exec_answered keyed free ok with ⟨row, digest, _, later⟩
  rcases idempotent.replays [] op keyed with ⟨again, replayed, _⟩
  rw [exec_recorded keyed rfl (later []).1, if_pos digest] at replayed
  rcases map_ok_iff.mp replayed with ⟨a, loaded, _⟩
  exact (load_iff (later []).2).mp ⟨a, loaded⟩

/-- A call that succeeded is idempotent exactly if the payload it appended, if any, nests no
deeper than the reader reads. -/
theorem idempotent_iff (keyed : op.keyed = some (key, q))
    (free : CollisionFree sha256 (requestsOf (before ++ [op])))
    (ok : exec sha256 serde (run sha256 serde .empty before) op = .ok (reply, s')) :
    Idempotent sha256 serde key q reply (run sha256 serde .empty before) s' ↔ q.Readable := by
  constructor
  · exact Idempotent.readable keyed free ok
  · intro readable
    rcases exec_answered keyed free ok with ⟨row, digest, resource, later⟩
    rcases exec_records keyed ok with ⟨_, _, _, _, _, rows, events⟩
    constructor
    · intro ops op' keyed'
      rcases (load_iff (later ops).2).mpr readable with ⟨again, loaded⟩
      refine ⟨again, ?_, (load_resource loaded).trans resource.symm⟩
      rw [exec_recorded keyed' rfl (later ops).1, if_pos digest, loaded]
      rfl
    · intro ops op' q' keyed' scope other apart
      rw [exec_recorded keyed' scope (later ops).1, if_neg]
      intro same
      apply other
      apply bytes_injective scope
      apply apart q' (by simp) q (by simp) scope
      exact same.symm.trans digest
    · refine ⟨rows, events, fun ops op' q' keyed' scope => ?_⟩
      apply step_keeps (motive := fun t => t = run sha256 serde s' ops)
      · rfl
      · intro reply' t ok'
        rw [exec_recorded keyed' scope (later ops).1] at ok'
        split_ifs at ok'
        rcases map_ok_iff.mp ok' with ⟨a, _, same⟩
        exact (congrArg Prod.snd same).symm
    · intro t op' e failed
      exact step_error failed

end Answer

end Running

theorem collisionFree_singleton (sha256 : Sha256) (q : Request) : CollisionFree sha256 [q] := by
  intro q₁ first q₂ second _ _
  rw [List.mem_singleton.mp first, List.mem_singleton.mp second]

def nestedTree : Nat → Tree
  | 0 => .null
  | n + 1 => .array [nestedTree n]

theorem nestedTree_everywhere {P : Tree → Prop} (null : P .null) (array : ∀ ts, P (.array ts))
    (n : Nat) : (nestedTree n).Everywhere P := by
  induction n with
  | zero => exact Tree.everywhere_iff.mpr ⟨null, by simp [nestedTree, Tree.children]⟩
  | succ n ih =>
      refine Tree.everywhere_iff.mpr ⟨array _, fun u below => ?_⟩
      rw [List.mem_singleton.mp below]
      exact ih

/-- Arrays in arrays, `n` deep. -/
def nested (n : Nat) : JsonValue where
  tree := nestedTree n
  ordered depth members occurs := by
    have none : (nestedTree n).Everywhere fun part => part ≠ .object members :=
      nestedTree_everywhere (by simp) (by simp) n
    exact absurd rfl (none depth _ occurs)
  printed := nestedTree_everywhere (by simp) (by simp) n

theorem nesting_nested (n : Nat) : nesting (nested n).tree = n := by
  change nesting (nestedTree n) = n
  induction n with
  | zero => rfl
  | succ n ih => simp [nestedTree, nesting, Contracts.nestingElements, ih]

theorem idempotent_iff_message :
    ∃ reply s',
      exec standardSha256 printedSerde
          (run standardSha256 printedSerde .empty [.createConversation none "v" ⟨1, "e1"⟩])
          (.appendUserMessage "v" (nested 127) none (some ⟨"k"⟩) ⟨2, "e2"⟩) = .ok (reply, s') ∧
        Idempotent standardSha256 printedSerde "k" (.userMessage "v" (nested 127) none) reply
          (run standardSha256 printedSerde .empty [.createConversation none "v" ⟨1, "e1"⟩]) s' := by
  have succeeds : ∃ p, exec standardSha256 printedSerde
      (run standardSha256 printedSerde .empty [.createConversation none "v" ⟨1, "e1"⟩])
      (.appendUserMessage "v" (nested 127) none (some ⟨"k"⟩) ⟨2, "e2"⟩) = .ok p := ⟨_, rfl⟩
  rcases succeeds with ⟨⟨reply, s'⟩, ok⟩
  refine ⟨reply, s', ok, ?_⟩
  have free := collisionFree_singleton standardSha256 (.userMessage "v" (nested 127) none)
  have shallow : nesting (nested 127).tree ≤ readerNesting := by
    rw [nesting_nested]
    decide
  exact (idempotent_iff (by rfl) free ok).mpr shallow

def deepMessage : Op :=
  .appendUserMessage "v" (nested 128) none (some ⟨"k"⟩) ⟨2, "e2"⟩

theorem deepMessage_not_idempotent :
    ∃ reply s',
      exec standardSha256 printedSerde
          (run standardSha256 printedSerde .empty [.createConversation none "v" ⟨1, "e1"⟩])
          deepMessage = .ok (reply, s') ∧
        ¬ Idempotent standardSha256 printedSerde "k" (.userMessage "v" (nested 128) none) reply
          (run standardSha256 printedSerde .empty [.createConversation none "v" ⟨1, "e1"⟩]) s' := by
  have succeeds : ∃ p, exec standardSha256 printedSerde
      (run standardSha256 printedSerde .empty [.createConversation none "v" ⟨1, "e1"⟩])
      deepMessage = .ok p := ⟨_, rfl⟩
  rcases succeeds with ⟨⟨reply, s'⟩, ok⟩
  refine ⟨reply, s', ok, fun idempotent => ?_⟩
  have free := collisionFree_singleton standardSha256 (.userMessage "v" (nested 128) none)
  have shallow : nesting (nested 128).tree ≤ readerNesting :=
    Idempotent.readable (by rfl) free ok idempotent
  rw [nesting_nested] at shallow
  exact absurd shallow (by decide)

end O7Formal.Ledger
