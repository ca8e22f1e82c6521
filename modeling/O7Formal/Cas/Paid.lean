import O7Formal.Cas.Session

/-! What a session hands out against what it was charged. An identity is charged once, at the
size first declared for it; an envelope's digest leaves its length open. -/

namespace O7Formal.Cas

open Contracts Fallible
open Run (Sha256 Digest256 standardSha256)

variable {sha256 : Sha256} {reader : Reader}

theorem OpaqueSlot.read_ok {slot : OpaqueSlot} {reference : ArtifactRef} {store : BackingStore}
    {value : ResolvedOpaque} (ok : slot.read sha256 reference store = .ok value) :
    store reference.digest = some value.bytes ∧ digestOf sha256 value.bytes = reference.digest ∧
      value.bytes.len = reference.size.toNat := by
  simp only [read, bind_ok_iff, okOr_ok_iff, refuseIf_ok_iff, pure_ok_iff, not_not] at ok
  rcases ok with ⟨stored, held, _, hashes, _, sized, rfl⟩
  exact ⟨held, hashes, sized⟩

theorem EnvelopeSlot.read_ok {slot : EnvelopeSlot} {reference : ArtifactRef} {store : BackingStore}
    {value : ResolvedEnvelopeStorage} (ok : slot.read sha256 reader reference store = .ok value) :
    value.storedSize = reference.size.toNat := by
  simp only [read, bind_ok_iff, okOr_ok_iff, refuseIf_ok_iff, pure_ok_iff, not_not] at ok
  rcases ok with ⟨_, _, _, _, _, _, _, _, _, _, _, _, _, sized, rfl⟩
  exact sized

theorem EnvelopeSlot.read_stored {slot : EnvelopeSlot} {reference : ArtifactRef}
    {store : BackingStore} {e : EnvelopeV1} {wire payload : Bytes}
    (held : store reference.digest = some wire) (encoded : e.toWireBytes = .ok wire.data)
    (framed : e.framedDigest sha256 = reference.digest)
    (kind : e.fields.messageKind.artifactKind = slot.kind)
    (half : store e.fields.payloadDigest = some payload)
    (bound : e.bindsPayload sha256 payload.data = true)
    (sized : refSize wire.len payload.len = reference.size.toNat) :
    slot.read sha256 reader reference store = .ok ⟨e, reference.digest, payload, wire.len⟩ := by
  simp [read, held, okOr, parseArtifact_encoded reader encoded, Except.mapError, framed, kind, half,
    bound, sized, refuseIf]

theorem Call.read_size {c : Call} {value : Resolved} (ok : c.read sha256 reader = .ok value) :
    value.storedSize = c.declared := by
  cases c with
  | opaqueBytes slot reference store =>
      rcases map_ok_iff.mp ok with ⟨read, done, rfl⟩
      exact (OpaqueSlot.read_ok done).2.2
  | envelopeStorage slot reference store =>
      rcases map_ok_iff.mp ok with ⟨read, done, rfl⟩
      exact EnvelopeSlot.read_ok done

theorem MessageKindV1.artifactKind_typed (kind : MessageKindV1) :
    kind.artifactKind.isTypedArtifact = true := by
  cases kind <;> rfl

theorem expects_apart {slot : OpaqueSlot} {other : EnvelopeSlot} {a b : ArtifactRef}
    (opaqueOk : slot.expects a = .ok ()) (envelopeOk : other.expects b = .ok ()) :
    a.kind ≠ b.kind := by
  simp only [OpaqueSlot.expects, EnvelopeSlot.expects, bind_ok_iff, refuseIf_ok_iff,
    not_not] at opaqueOk envelopeOk
  rcases opaqueOk with ⟨_, kindA, _, _, untyped⟩
  rcases envelopeOk with ⟨_, kindB, _⟩
  intro same
  rw [← kindA, same, kindB] at untyped
  exact untyped (MessageKindV1.artifactKind_typed other.messageKind)

def SizesAgree (calls : List Call) : Prop :=
  ∀ slot a store other b store', Call.envelopeStorage slot a store ∈ calls →
    Call.envelopeStorage other b store' ∈ calls → identityOf a = identityOf b → a.size = b.size

def ObjectsAgree (sha256 : Sha256) (calls : List Call) : Prop :=
  ∀ slot a store other b store', Call.opaqueBytes slot a store ∈ calls →
    Call.opaqueBytes other b store' ∈ calls → a.digest = b.digest →
    ∀ x ∈ store a.digest, ∀ y ∈ store' b.digest, digestOf sha256 x = a.digest →
      digestOf sha256 y = b.digest → x = y

theorem declared_eq {calls : List Call} (sizes : SizesAgree calls)
    (objects : ObjectsAgree sha256 calls) {a b : Call} (memberA : a ∈ calls) (memberB : b ∈ calls)
    (same : a.identity = b.identity) {valueA valueB : Resolved} (expectsA : a.expects = .ok ())
    (expectsB : b.expects = .ok ()) (readA : a.read sha256 reader = .ok valueA)
    (readB : b.read sha256 reader = .ok valueB) : a.declared = b.declared := by
  have kinds : a.reference.kind = b.reference.kind := congrArg Prod.fst same
  have digests : a.reference.digest = b.reference.digest := congrArg Prod.snd same
  cases a with
  | opaqueBytes slot r store =>
      cases b with
      | opaqueBytes other q store' =>
          rcases map_ok_iff.mp readA with ⟨x, doneA, rfl⟩
          rcases map_ok_iff.mp readB with ⟨y, doneB, rfl⟩
          rcases OpaqueSlot.read_ok doneA with ⟨heldA, hashA, sizedA⟩
          rcases OpaqueSlot.read_ok doneB with ⟨heldB, hashB, sizedB⟩
          have one := objects slot r store other q store' memberA memberB digests x.bytes heldA
            y.bytes heldB hashA hashB
          calc
            r.size.toNat = x.bytes.len := sizedA.symm
            _ = y.bytes.len := by rw [one]
            _ = q.size.toNat := sizedB
      | envelopeStorage other q store' => exact absurd kinds (expects_apart expectsA expectsB)
  | envelopeStorage slot r store =>
      cases b with
      | opaqueBytes other q store' => exact absurd kinds.symm (expects_apart expectsB expectsA)
      | envelopeStorage other q store' =>
          exact congrArg UInt64.toNat (sizes slot r store other q store' memberA memberB same)

theorem charge_new {limits : EffectiveLimits} {state : Accounting} {reference : ArtifactRef}
    (new : identityOf reference ∉ state.seen)
    (objects : saturatingAdd32 state.objects 1 ≤ limits.reachableClosureObjects)
    (bytes : saturatingAdd64 state.bytes reference.size.toNat ≤ limits.reachableClosureBytes) :
    charge limits state reference =
      .ok ⟨insert (identityOf reference) state.seen, saturatingAdd64 state.bytes
        reference.size.toNat, saturatingAdd32 state.objects 1, state.poisoned⟩ := by
  simp only [charge, if_neg new, refuseIf, if_neg (not_lt.mpr objects),
    if_neg (not_lt.mpr bytes), ok_bind]
  rfl

namespace ResolutionSession

theorem outcome_nil (session : ResolutionSession) (c : Call) :
    session.outcome sha256 reader [] c = (session.resolve sha256 reader c).1 := rfl

theorem after_one (session : ResolutionSession) (c : Call) :
    session.after sha256 reader [c] = (session.resolve sha256 reader c).2 := rfl

theorem resolve_ok {session : ResolutionSession} {c : Call} {value : Resolved}
    (ok : (session.resolve sha256 reader c).1 = .ok value) :
    session.state.poisoned = false ∧ c.expects = .ok () ∧ c.read sha256 reader = .ok value ∧
      (session.resolve sha256 reader c).2.state.poisoned = false ∧ session.Pays c := by
  cases isOpen : session.state.poisoned with
  | true =>
      rw [resolve_poisoned isOpen] at ok
      cases ok
  | false =>
      rcases resolve_cases sha256 reader isOpen c with refused | went
      · rcases refused with ⟨e, _, turn⟩
        rw [turn] at ok
        cases ok
      · rcases went with ⟨expected, charged, paid, resolved | unread⟩
        · rcases resolved with ⟨_, read, turn⟩
          rw [turn] at ok
          cases ok
          have still : charged.poisoned = false := by
            rcases charge_ok paid with known | charges
            · rw [known.2, isOpen]
            · rw [charges.poisoned, isOpen]
          refine ⟨rfl, expected, read, ?_, isOpen, expected, ?_⟩
          · rw [turn]
            exact still
          · rw [paid]
            rfl
        · rcases unread with ⟨e, _, turn⟩
          rw [turn] at ok
          cases ok

theorem resolve_read {session : ResolutionSession} {c : Call} {value : Resolved}
    {charged : Accounting} (isOpen : session.state.poisoned = false) (expected : c.expects = .ok ())
    (paid : charge session.limits session.state c.reference = .ok charged)
    (read : c.read sha256 reader = .ok value) :
    session.resolve sha256 reader c = (.ok value, { session with state := charged }) := by
  simp [resolve, attempt, isOpen, Call.resolveInner, expected, paid, read]

theorem open_run {session : ResolutionSession} {calls : List Call}
    (isOpen : (session.after sha256 reader calls).state.poisoned = false) {c : Call}
    (member : c ∈ calls) : c.expects = .ok () ∧ ∃ value, c.read sha256 reader = .ok value := by
  induction calls using List.reverseRecOn with
  | nil => cases member
  | append_singleton calls last ih =>
      rw [after_snoc] at isOpen
      cases turn : ((session.after sha256 reader calls).resolve sha256 reader last).1 with
      | error e => cases (poisoned_of_error turn).symm.trans isOpen
      | ok value =>
          rcases resolve_ok turn with ⟨before, expected, read, _, _⟩
          cases List.mem_append.mp member with
          | inl earlier => exact ih before earlier
          | inr here =>
              cases List.mem_singleton.mp here
              exact ⟨expected, value, read⟩

/-- The run resolves the identity, to `size` stored bytes. -/
def Resolves (sha256 : Sha256) (reader : Reader) (session : ResolutionSession) (calls : List Call)
    (id : Identity) (size : Nat) : Prop :=
  ∃ before c later value, calls = before ++ c :: later ∧ c.identity = id ∧
    session.outcome sha256 reader before c = .ok value ∧ value.storedSize = size

theorem firstDeclared_mem {calls : List Call} {id : Identity} (named : ∃ c ∈ calls, c.identity = id) :
    ∃ c ∈ calls, c.identity = id ∧ firstDeclared calls id = c.declared := by
  rcases named with ⟨c, member, same⟩
  have found : (calls.find? fun c => c.identity = id).isSome = true := by
    rw [List.find?_isSome]
    exact ⟨c, member, by simpa using same⟩
  rcases Option.isSome_iff_exists.mp found with ⟨first, here⟩
  refine ⟨first, List.mem_of_find?_eq_some here, by simpa using List.find?_some here, ?_⟩
  rw [firstDeclared, here]
  rfl

theorem resolves_charged {session : ResolutionSession} (fresh : session.state = .fresh)
    {calls : List Call} (sizes : SizesAgree calls) (objects : ObjectsAgree sha256 calls)
    {id : Identity} {size : Nat} (resolves : session.Resolves sha256 reader calls id size) :
    id ∈ (session.after sha256 reader calls).state.seen ∧ size = firstDeclared calls id := by
  rcases resolves with ⟨before, c, later, value, rfl, rfl, ok, rfl⟩
  rcases resolve_ok ok with ⟨_, expected, read, still, pays⟩
  refine ⟨(after_seen fresh _ _).mpr ⟨before, c, later, rfl, rfl, pays⟩, ?_⟩
  have named : ∃ d ∈ before ++ [c], d.identity = c.identity := ⟨c, by simp, rfl⟩
  rw [List.append_cons, firstDeclared_append named]
  rcases firstDeclared_mem named with ⟨first, member, same, declared⟩
  rw [← after_snoc] at still
  rcases open_run still member with ⟨expectedFirst, valueFirst, readFirst⟩
  have members : ∀ d ∈ before ++ [c], d ∈ before ++ c :: later := by
    intro d inside
    rw [List.append_cons]
    exact List.mem_append_left _ inside
  calc
    value.storedSize = c.declared := Call.read_size read
    _ = first.declared := declared_eq sizes objects (members c (by simp)) (members first member)
        same.symm expected expectedFirst read readFirst
    _ = firstDeclared (before ++ [c]) c.identity := declared.symm

/-- Under one size for each envelope identity, what is resolved was paid for in full. -/
theorem no_uncharged_bytes (sha256 : Sha256) (reader : Reader) (policy : BudgetPolicy)
    (session : ResolutionSession) (entered : enter policy = .ok session) (calls : List Call)
    (sizes : SizesAgree calls) (objects : ObjectsAgree sha256 calls) :
    (∀ id size, session.Resolves sha256 reader calls id size →
      id ∈ (session.after sha256 reader calls).state.seen ∧ size = firstDeclared calls id) ∧
    ∀ (resolved : Finset Identity) (stored : Identity → Nat),
      (∀ id ∈ resolved, session.Resolves sha256 reader calls id (stored id)) →
      ∑ id ∈ resolved, stored id ≤ (session.after sha256 reader calls).chargedBytes := by
  have fresh := enter_fresh entered
  constructor
  · intro id size resolves
    exact resolves_charged fresh sizes objects resolves
  · intro resolved stored resolves
    have ledger : Ledger session.limits calls (session.after sha256 reader calls).state :=
      after_ledger fresh calls
    have each : ∀ id ∈ resolved, id ∈ (session.after sha256 reader calls).state.seen ∧
        stored id = firstDeclared calls id := by
      intro id member
      exact resolves_charged fresh sizes objects (resolves id member)
    calc
      ∑ id ∈ resolved, stored id = ∑ id ∈ resolved, firstDeclared calls id :=
        Finset.sum_congr rfl fun id member => (each id member).2
      _ ≤ ∑ id ∈ (session.after sha256 reader calls).state.seen, firstDeclared calls id :=
        Finset.sum_le_sum_of_subset fun id member => (each id member).1
      _ = (session.after sha256 reader calls).chargedBytes := ledger.summed.symm

end ResolutionSession

/-! ### Two spellings of one envelope -/

namespace Sample

theorem zone_bounded : byteLength "2026-08-09T20:00:00+00:00" ≤ maxTimestampBytes := by decide

theorem zone_utc : isRfc3339Utc "2026-08-09T20:00:00+00:00" = true := by decide +kernel

def longerFields : EnvelopeFieldsV1 :=
  { reportFields with createdAt := ⟨"2026-08-09T20:00:00+00:00", zone_bounded, zone_utc⟩ }

theorem longerFields_valid : longerFields.validate = .ok () := by decide

theorem longerFields_length : longerFields.encodedTree.bytes.length = 918 := by decide +kernel

theorem longerFields_encodes : longerFields.encode.isOk = true :=
  EnvelopeRecord.encodes_of_length (by rw [longerFields_length]; decide)

def longer : EnvelopeV1 :=
  ⟨longerFields, longerFields_valid, EnvelopeRecord.encodes_of_isOk longerFields_encodes⟩

theorem longer_preimage : longerFields.framedPreimage = reportFields.framedPreimage := rfl

def textOf (e : EnvelopeV1) : Bytes := (MemoryStore.wireBytes e).toOption.getD empty

theorem textOf_encodes (e : EnvelopeV1) : e.toWireBytes = .ok (textOf e).data := by
  rcases e.encodes with ⟨bytes, encoded⟩
  have short := (EnvelopeRecord.encode_ok_iff.mp encoded).2
  have made : MemoryStore.wireBytes e = .ok ⟨bytes, lt_of_le_of_lt short (by decide)⟩ :=
    MemoryStore.wireBytes_ok_iff.mpr encoded
  rw [textOf, made]
  exact encoded

theorem textOf_length {e : EnvelopeV1}
    (short : e.fields.encodedTree.bytes.length ≤ maxControlArtifactBytes) :
    (textOf e).len = e.fields.encodedTree.bytes.length := by
  have same := Except.ok.inj ((textOf_encodes e).symm.trans (EnvelopeRecord.encode_of_bytes short))
  exact congrArg List.length same

theorem report_length : (textOf report).len = 913 :=
  (textOf_length (by rw [report, reportFields_length]; decide)).trans reportFields_length

theorem longer_length : (textOf longer).len = 918 :=
  (textOf_length (by rw [longer, longerFields_length]; decide)).trans longerFields_length

def reportMediaType : String := "application/vnd.o7.a1.coder_report+json; v=1"

def shortWire : ArtifactRefWire :=
  ⟨.coderReport, reportMediaType, report.framedDigest standardSha256, 913⟩

theorem shortWire_valid : shortWire.validate = .ok () := by decide

def longWire : ArtifactRefWire := { shortWire with size := 918 }

theorem longWire_valid : longWire.validate = .ok () := by decide

/-- A store with the empty payload, and `text` under every other key. -/
def holding (text : Bytes) : BackingStore := fun d =>
  if d = reportFields.payloadDigest then some empty else some text

def shortCall : Call :=
  .envelopeStorage ⟨.coderReport⟩ ⟨shortWire, shortWire_valid⟩ (holding (textOf report))

def longCall : Call :=
  .envelopeStorage ⟨.coderReport⟩ ⟨longWire, longWire_valid⟩ (holding (textOf longer))

def shortValue : ResolvedEnvelopeStorage :=
  ⟨report, report.framedDigest standardSha256, empty, (textOf report).len⟩

def longValue : ResolvedEnvelopeStorage :=
  ⟨longer, report.framedDigest standardSha256, empty, (textOf longer).len⟩

theorem short_size : (Resolved.envelopeStorage shortValue).storedSize = 913 := by
  rw [Resolved.storedSize, ResolvedEnvelopeStorage.storedSize, shortValue, report_length]
  rfl

theorem long_size : (Resolved.envelopeStorage longValue).storedSize = 918 := by
  rw [Resolved.storedSize, ResolvedEnvelopeStorage.storedSize, longValue, longer_length]
  rfl

theorem holding_payload (text : Bytes) : holding text reportFields.payloadDigest = some empty :=
  if_pos rfl

theorem holding_framed (text : Bytes) :
    holding text (report.framedDigest standardSha256) = some text :=
  if_neg digests_differ.symm

theorem report_binds : report.bindsPayload standardSha256 empty.data = true := by
  rw [EnvelopeV1.bindsPayload, decide_eq_true_eq]
  rfl

theorem longer_framed : longer.framedDigest standardSha256 = report.framedDigest standardSha256 :=
  congrArg (Digest256.ofBytes standardSha256) longer_preimage

theorem longer_binds : longer.bindsPayload standardSha256 empty.data = true := by
  rw [EnvelopeV1.bindsPayload, decide_eq_true_eq]
  rfl

theorem short_read : shortCall.read standardSha256 compactReader =
    .ok (.envelopeStorage shortValue) := by
  rw [shortCall, Call.read, map_ok_iff]
  refine ⟨shortValue, ?_, rfl⟩
  refine EnvelopeSlot.read_stored (holding_framed _) (textOf_encodes report) rfl rfl
    (holding_payload _) report_binds ?_
  rw [report_length]
  rfl

theorem long_read : longCall.read standardSha256 compactReader =
    .ok (.envelopeStorage longValue) := by
  rw [longCall, Call.read, map_ok_iff]
  refine ⟨longValue, ?_, rfl⟩
  refine EnvelopeSlot.read_stored (holding_framed _) (textOf_encodes longer) longer_framed rfl
    (holding_payload _) longer_binds ?_
  rw [longer_length]
  rfl

def charged : Accounting :=
  ⟨insert shortCall.identity ∅, saturatingAdd64 0 913, saturatingAdd32 0 1, false⟩

theorem short_paid : charge session.limits session.state shortCall.reference = .ok charged := by
  refine charge_new (Finset.notMem_empty _) ?_ ?_
  · decide
  · decide

theorem short_turn : session.resolve standardSha256 compactReader shortCall =
    (.ok (.envelopeStorage shortValue), { session with state := charged }) :=
  ResolutionSession.resolve_read rfl rfl short_paid short_read

-- The second size is never charged.
theorem long_turn :
    ({ session with state := charged } : ResolutionSession).resolve standardSha256 compactReader
      longCall = (.ok (.envelopeStorage longValue), { session with state := charged }) := by
  refine ResolutionSession.resolve_read rfl rfl ?_ long_read
  exact if_pos (Finset.mem_insert_self _ _)

end Sample

-- The envelope is asked for twice, and charged once.
theorem ResolutionSession.no_uncharged_bytes_report :
    (∀ id size, Sample.session.Resolves standardSha256 compactReader
        [Sample.shortCall, Sample.shortCall] id size →
      id ∈ (Sample.session.after standardSha256 compactReader
        [Sample.shortCall, Sample.shortCall]).state.seen ∧
        size = firstDeclared [Sample.shortCall, Sample.shortCall] id) ∧
    913 ≤ (Sample.session.after standardSha256 compactReader
      [Sample.shortCall, Sample.shortCall]).chargedBytes := by
  have same : ∀ c ∈ [Sample.shortCall, Sample.shortCall], c = Sample.shortCall := by simp
  have sizes : SizesAgree [Sample.shortCall, Sample.shortCall] := by
    intro slot a store other b store' memberA memberB _
    cases same _ memberA
    cases same _ memberB
    rfl
  have objects : ObjectsAgree standardSha256 [Sample.shortCall, Sample.shortCall] := by
    intro slot a store other b store' memberA
    cases same _ memberA
  have facts := no_uncharged_bytes standardSha256 compactReader Sample.policy Sample.session
    Sample.session_entered [Sample.shortCall, Sample.shortCall] sizes objects
  refine ⟨facts.1, ?_⟩
  have outcome : Sample.session.outcome standardSha256 compactReader [] Sample.shortCall =
      .ok (.envelopeStorage Sample.shortValue) := by
    rw [outcome_nil, Sample.short_turn]
  have total := facts.2 {Sample.shortCall.identity} (fun _ => 913) (by
    intro id member
    exact ⟨[], Sample.shortCall, [Sample.shortCall], _, rfl,
      (Finset.mem_singleton.mp member).symm, outcome, Sample.short_size⟩)
  rwa [Finset.sum_singleton] at total

/-- Two spellings of one envelope, declared with their own sizes: the longer one is resolved
against the charge of the shorter one. -/
theorem ResolutionSession.uncharged_bytes :
    ¬ ∀ (reader : Reader) (policy : BudgetPolicy) (session : ResolutionSession),
      enter policy = .ok session → ∀ calls : List Call,
      (∀ id size, session.Resolves standardSha256 reader calls id size →
        id ∈ (session.after standardSha256 reader calls).state.seen ∧
          size = firstDeclared calls id) ∧
      ∀ (resolved : Finset Identity) (stored : Identity → Nat),
        (∀ id ∈ resolved, session.Resolves standardSha256 reader calls id (stored id)) →
        ∑ id ∈ resolved, stored id ≤ (session.after standardSha256 reader calls).chargedBytes := by
  intro charges
  have facts := charges compactReader Sample.policy Sample.session Sample.session_entered
    [Sample.shortCall, Sample.longCall]
  have first : Sample.session.after standardSha256 compactReader [Sample.shortCall] =
      { Sample.session with state := Sample.charged } := by
    rw [after_one, Sample.short_turn]
  have second : Sample.session.after standardSha256 compactReader
      [Sample.shortCall, Sample.longCall] = { Sample.session with state := Sample.charged } := by
    have last := after_snoc standardSha256 compactReader Sample.session [Sample.shortCall]
      Sample.longCall
    rw [first, Sample.long_turn] at last
    exact last
  have outcome : Sample.session.outcome standardSha256 compactReader [Sample.shortCall]
      Sample.longCall = .ok (.envelopeStorage Sample.longValue) := by
    rw [ResolutionSession.outcome, first, Sample.long_turn]
  have total := facts.2 {Sample.longCall.identity} (fun _ => 918) (by
    intro id member
    exact ⟨[Sample.shortCall], Sample.longCall, [], _, rfl, (Finset.mem_singleton.mp member).symm,
      outcome, Sample.long_size⟩)
  rw [second, Finset.sum_singleton] at total
  exact absurd total (by decide)

end O7Formal.Cas
