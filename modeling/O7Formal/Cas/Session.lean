import O7Formal.Cas.Store

/-! The resolution session: every reference is charged its declared size once, before it is
read, and the first failure ends the session. -/

namespace O7Formal.Cas

open Contracts Fallible
open Run (Sha256 standardSha256)

def maxReachableClosureBytes : Nat := 256 * 2 ^ 20
def maxReachableClosureObjects : Nat := 2048

structure BudgetPolicy where
  maxProviderTurns : UInt32
  maxWallTimeSeconds : UInt32
  evidenceBudgetBytes : UInt64
  closureObjectBudget : UInt32
  deriving DecidableEq

inductive BudgetPolicyError where
  | zeroProviderTurns
  | zeroWallTime
  | evidenceBudgetTooLarge (actual : Nat)
  | closureObjectBudgetTooLarge (actual : Nat)
  deriving DecidableEq, Repr

namespace BudgetPolicy

def validate (p : BudgetPolicy) : Except BudgetPolicyError Unit := do
  refuseIf (p.maxProviderTurns < 1) .zeroProviderTurns
  refuseIf (p.maxWallTimeSeconds < 1) .zeroWallTime
  refuseIf (p.evidenceBudgetBytes.toNat > maxReachableClosureBytes)
    (.evidenceBudgetTooLarge p.evidenceBudgetBytes.toNat)
  refuseIf (p.closureObjectBudget.toNat > maxReachableClosureObjects)
    (.closureObjectBudgetTooLarge p.closureObjectBudget.toNat)

def effectiveClosureBytes (p : BudgetPolicy) : Nat :=
  min p.evidenceBudgetBytes.toNat maxReachableClosureBytes

def effectiveClosureObjects (p : BudgetPolicy) : Nat :=
  min p.closureObjectBudget.toNat maxReachableClosureObjects

theorem effectiveClosureBytes_hard (p : BudgetPolicy) :
    p.effectiveClosureBytes ≤ maxReachableClosureBytes :=
  Nat.min_le_right _ _

theorem effectiveClosureObjects_hard (p : BudgetPolicy) :
    p.effectiveClosureObjects ≤ maxReachableClosureObjects :=
  Nat.min_le_right _ _

end BudgetPolicy

/-- Built by `enter` alone, and never above the hard maxima. -/
structure EffectiveLimits where
  reachableClosureBytes : Nat
  reachableClosureObjects : Nat
  bytesHard : reachableClosureBytes ≤ maxReachableClosureBytes
  objectsHard : reachableClosureObjects ≤ maxReachableClosureObjects
  deriving DecidableEq

structure OpaqueSlot where
  kind : ArtifactKindV1
  mediaType : String

structure EnvelopeSlot where
  messageKind : MessageKindV1

def EnvelopeSlot.kind (slot : EnvelopeSlot) : ArtifactKindV1 := slot.messageKind.artifactKind

def EnvelopeSlot.mediaType (slot : EnvelopeSlot) : String :=
  typedMediaType slot.kind messageKindVersionV1

inductive ResolveError where
  | wrongKindForSlot (expected : String)
  | wrongMediaTypeForSlot (kind : String)
  | notOpaque (kind : String)
  | objectMissing
  | digestMismatch
  | sizeMismatch (declared stored : Nat)
  | closureBytesExceeded (actual max : Nat)
  | closureObjectsExceeded (actual max : Nat)
  | envelopeInadmissible (reason : ParseError)
  | framedDigestMismatch
  | envelopeKindMismatch (expected actual : String)
  | payloadMissing
  | payloadDigestMismatch
  | halvesSizeMismatch (declared stored : Nat)
  | sessionPoisoned
  deriving DecidableEq

def ResolveError.isLimit : ResolveError → Bool
  | closureBytesExceeded _ _ => true
  | closureObjectsExceeded _ _ => true
  | _ => false

structure ResolvedOpaque where
  kind : ArtifactKindV1
  mediaType : String
  digest : WireDigest
  bytes : Bytes

structure ResolvedEnvelopeStorage where
  envelope : EnvelopeV1
  framedDigest : WireDigest
  payload : Bytes
  envelopeBytes : Nat

def ResolvedEnvelopeStorage.storedSize (r : ResolvedEnvelopeStorage) : Nat :=
  saturatingAdd64 r.envelopeBytes r.payload.len

def BackingStore := WireDigest → Option Bytes

abbrev Identity := ArtifactKindV1 × WireDigest

def identityOf (reference : ArtifactRef) : Identity := (reference.kind, reference.digest)

structure Accounting where
  seen : Finset Identity
  bytes : Nat
  objects : Nat
  poisoned : Bool
  deriving DecidableEq

def Accounting.fresh : Accounting := ⟨∅, 0, 0, false⟩

def Accounting.poison (state : Accounting) : Accounting := { state with poisoned := true }

/-- `u32::saturating_add` -/
def saturatingAdd32 (a b : Nat) : Nat := min (a + b) (2 ^ 32 - 1)

def charge (limits : EffectiveLimits) (state : Accounting) (reference : ArtifactRef) :
    Except ResolveError Accounting :=
  if identityOf reference ∈ state.seen then .ok state
  else do
    let objects := saturatingAdd32 state.objects 1
    refuseIf (objects > limits.reachableClosureObjects)
      (.closureObjectsExceeded objects limits.reachableClosureObjects)
    let bytes := saturatingAdd64 state.bytes reference.size.toNat
    refuseIf (bytes > limits.reachableClosureBytes)
      (.closureBytesExceeded bytes limits.reachableClosureBytes)
    return { state with seen := insert (identityOf reference) state.seen, objects, bytes }

def OpaqueSlot.expects (slot : OpaqueSlot) (reference : ArtifactRef) :
    Except ResolveError Unit := do
  refuseIf (reference.kind ≠ slot.kind) (.wrongKindForSlot slot.kind.name)
  refuseIf (reference.mediaType ≠ slot.mediaType) (.wrongMediaTypeForSlot slot.kind.name)
  refuseIf (slot.kind.isTypedArtifact = true) (.notOpaque slot.kind.name)

def EnvelopeSlot.expects (slot : EnvelopeSlot) (reference : ArtifactRef) :
    Except ResolveError Unit := do
  refuseIf (reference.kind ≠ slot.kind) (.wrongKindForSlot slot.kind.name)
  refuseIf (reference.mediaType ≠ slot.mediaType) (.wrongMediaTypeForSlot slot.kind.name)

variable (sha256 : Sha256) (reader : Reader) (limits : EffectiveLimits)

def OpaqueSlot.read (slot : OpaqueSlot) (reference : ArtifactRef) (store : BackingStore) :
    Except ResolveError ResolvedOpaque := do
  let stored ← okOr (store reference.digest) .objectMissing
  refuseIf (digestOf sha256 stored ≠ reference.digest) .digestMismatch
  refuseIf (stored.len ≠ reference.size.toNat) (.sizeMismatch reference.size.toNat stored.len)
  return ⟨slot.kind, slot.mediaType, reference.digest, stored⟩

def EnvelopeSlot.read (slot : EnvelopeSlot) (reference : ArtifactRef) (store : BackingStore) :
    Except ResolveError ResolvedEnvelopeStorage := do
  let storedEnvelope ← okOr (store reference.digest) .objectMissing
  let envelope ← (parseArtifact reader storedEnvelope.data).mapError .envelopeInadmissible
  let framed := envelope.framedDigest sha256
  refuseIf (framed ≠ reference.digest) .framedDigestMismatch
  let actual := envelope.fields.messageKind.artifactKind
  refuseIf (actual ≠ slot.kind) (.envelopeKindMismatch slot.kind.name actual.name)
  let storedPayload ← okOr (store envelope.fields.payloadDigest) .payloadMissing
  refuseIf (¬ envelope.bindsPayload sha256 storedPayload.data = true) .payloadDigestMismatch
  let stored := refSize storedEnvelope.len storedPayload.len
  refuseIf (stored ≠ reference.size.toNat) (.halvesSizeMismatch reference.size.toNat stored)
  return ⟨envelope, framed, storedPayload, storedEnvelope.len⟩

inductive Call where
  | opaqueBytes (slot : OpaqueSlot) (reference : ArtifactRef) (store : BackingStore)
  | envelopeStorage (slot : EnvelopeSlot) (reference : ArtifactRef) (store : BackingStore)

inductive Resolved where
  | opaqueBytes (value : ResolvedOpaque)
  | envelopeStorage (value : ResolvedEnvelopeStorage)

def Resolved.storedSize : Resolved → Nat
  | .opaqueBytes value => value.bytes.len
  | .envelopeStorage value => value.storedSize

namespace Call

def reference : Call → ArtifactRef
  | opaqueBytes _ reference _ => reference
  | envelopeStorage _ reference _ => reference

def identity (c : Call) : Identity := identityOf c.reference

def declared (c : Call) : Nat := c.reference.size.toNat

def expects : Call → Except ResolveError Unit
  | opaqueBytes slot reference _ => slot.expects reference
  | envelopeStorage slot reference _ => slot.expects reference

def read : Call → Except ResolveError Resolved
  | opaqueBytes slot reference store => (slot.read sha256 reference store).map .opaqueBytes
  | envelopeStorage slot reference store =>
      (slot.read sha256 reader reference store).map .envelopeStorage

/-- `resolve_opaque_inner` and `resolve_envelope_storage_inner` -/
def resolveInner (c : Call) (state : Accounting) : Except ResolveError Resolved × Accounting :=
  match c.expects with
  | .error e => (.error e, state)
  | .ok () =>
      match charge limits state c.reference with
      | .error e => (.error e, state)
      | .ok charged => (c.read sha256 reader, charged)

end Call

def attempt {α : Type} (f : Accounting → Except ResolveError α × Accounting) (state : Accounting) :
    Except ResolveError α × Accounting :=
  if state.poisoned then (.error .sessionPoisoned, state)
  else
    match f state with
    | (.error e, after) => (.error e, after.poison)
    | (.ok value, after) => (.ok value, after)

structure ResolutionSession where
  limits : EffectiveLimits
  state : Accounting

namespace ResolutionSession

def enter (policy : BudgetPolicy) : Except BudgetPolicyError ResolutionSession := do
  policy.validate
  return ⟨⟨policy.effectiveClosureBytes, policy.effectiveClosureObjects,
    policy.effectiveClosureBytes_hard, policy.effectiveClosureObjects_hard⟩, .fresh⟩

/-- `resolve_opaque` and `resolve_envelope_storage` -/
def resolve (session : ResolutionSession) (c : Call) :
    Except ResolveError Resolved × ResolutionSession :=
  let turn := attempt (c.resolveInner sha256 reader session.limits) session.state
  (turn.1, { session with state := turn.2 })

def after (session : ResolutionSession) (calls : List Call) : ResolutionSession :=
  calls.foldl (fun s c => (s.resolve sha256 reader c).2) session

section Runs

variable (session : ResolutionSession) (before later : List Call) (c : Call)

theorem after_append : session.after sha256 reader (before ++ later) =
    (session.after sha256 reader before).after sha256 reader later :=
  List.foldl_append

theorem after_snoc : session.after sha256 reader (before ++ [c]) =
    ((session.after sha256 reader before).resolve sha256 reader c).2 := by
  rw [after_append]
  rfl

theorem after_limits : (session.after sha256 reader before).limits = session.limits := by
  induction before using List.reverseRecOn with
  | nil => rfl
  | append_singleton calls c ih =>
      rw [after_snoc]
      exact ih

end Runs

def chargedBytes (session : ResolutionSession) : Nat := session.state.bytes

def chargedObjects (session : ResolutionSession) : Nat := session.state.objects

end ResolutionSession

variable {sha256 reader limits}

structure Charges (limits : EffectiveLimits) (reference : ArtifactRef)
    (state charged : Accounting) : Prop where
  new : identityOf reference ∉ state.seen
  seen : charged.seen = insert (identityOf reference) state.seen
  objects : charged.objects = saturatingAdd32 state.objects 1
  objectsBounded : charged.objects ≤ limits.reachableClosureObjects
  bytes : charged.bytes = saturatingAdd64 state.bytes reference.size.toNat
  bytesBounded : charged.bytes ≤ limits.reachableClosureBytes
  poisoned : charged.poisoned = state.poisoned

theorem charge_ok {state charged : Accounting} {reference : ArtifactRef}
    (ok : charge limits state reference = .ok charged) :
    (identityOf reference ∈ state.seen ∧ charged = state) ∨
      Charges limits reference state charged := by
  unfold charge at ok
  split_ifs at ok with known
  · exact .inl ⟨known, (Except.ok.inj ok).symm⟩
  · simp only [bind_ok_iff, refuseIf_ok_iff, pure_ok_iff, not_lt] at ok
    rcases ok with ⟨_, objects, _, bytes, rfl⟩
    exact .inr ⟨known, rfl, rfl, objects, rfl, bytes, rfl⟩

theorem OpaqueSlot.read_within (slot : OpaqueSlot) (reference : ArtifactRef)
    (store : BackingStore) :
    FailsWithin (fun e => e.isLimit = false) (slot.read sha256 reference store) := by
  refine failsWithin_bind (failsWithin_okOr rfl) fun stored => ?_
  refine failsWithin_bind (failsWithin_refuseIf rfl) fun _ => ?_
  refine failsWithin_bind (failsWithin_refuseIf rfl) fun _ => ?_
  exact failsWithin_pure _

theorem EnvelopeSlot.read_within (slot : EnvelopeSlot) (reference : ArtifactRef)
    (store : BackingStore) :
    FailsWithin (fun e => e.isLimit = false) (slot.read sha256 reader reference store) := by
  refine failsWithin_bind (failsWithin_okOr rfl) fun storedEnvelope => ?_
  refine failsWithin_bind (failsWithin_mapError fun _ => rfl) fun envelope => ?_
  refine failsWithin_bind (failsWithin_refuseIf rfl) fun _ => ?_
  refine failsWithin_bind (failsWithin_refuseIf rfl) fun _ => ?_
  refine failsWithin_bind (failsWithin_okOr rfl) fun storedPayload => ?_
  refine failsWithin_bind (failsWithin_refuseIf rfl) fun _ => ?_
  refine failsWithin_bind (failsWithin_refuseIf rfl) fun _ => ?_
  exact failsWithin_pure _

theorem Call.read_within (c : Call) :
    FailsWithin (fun e => e.isLimit = false) (c.read sha256 reader) := by
  intro e failed
  cases c with
  | opaqueBytes slot reference store =>
      exact slot.read_within reference store e (map_error_iff.mp failed)
  | envelopeStorage slot reference store =>
      exact slot.read_within reference store e (map_error_iff.mp failed)

theorem Charges.objects_exact {reference : ArtifactRef} {state charged : Accounting}
    (charges : Charges limits reference state charged) :
    charged.objects = state.objects + 1 := by
  have bounded := charges.objectsBounded
  have hard := limits.objectsHard
  have added := charges.objects
  unfold saturatingAdd32 at added
  unfold maxReachableClosureObjects at hard
  omega

theorem Charges.bytes_exact {reference : ArtifactRef} {state charged : Accounting}
    (charges : Charges limits reference state charged) :
    charged.bytes = state.bytes + reference.size.toNat := by
  have bounded := charges.bytesBounded
  have hard := limits.bytesHard
  have added := charges.bytes
  unfold saturatingAdd64 at added
  unfold maxReachableClosureBytes at hard
  omega

namespace ResolutionSession

variable {session : ResolutionSession}

theorem resolve_poisoned (poisoned : session.state.poisoned = true) (c : Call) :
    session.resolve sha256 reader c = (.error .sessionPoisoned, session) := by
  simp [resolve, attempt, poisoned]

theorem resolve_cases (sha256 : Sha256) (reader : Reader) (isOpen : session.state.poisoned = false)
    (c : Call) :
    (∃ e, (c.expects = .error e ∨ charge session.limits session.state c.reference = .error e) ∧
      session.resolve sha256 reader c =
        (.error e, { session with state := session.state.poison })) ∨
    (c.expects = .ok () ∧ ∃ charged,
      charge session.limits session.state c.reference = .ok charged ∧
      ((∃ value, c.read sha256 reader = .ok value ∧
        session.resolve sha256 reader c = (.ok value, { session with state := charged })) ∨
      ∃ e, c.read sha256 reader = .error e ∧ session.resolve sha256 reader c =
        (.error e, { session with state := charged.poison }))) := by
  simp only [resolve, attempt, isOpen, Call.resolveInner]
  cases expected : c.expects with
  | error e => exact .inl ⟨e, .inl rfl, rfl⟩
  | ok u =>
      cases charged : charge session.limits session.state c.reference with
      | error e => exact .inl ⟨e, .inr rfl, rfl⟩
      | ok next =>
          refine .inr ⟨rfl, next, rfl, ?_⟩
          cases outcome : c.read sha256 reader with
          | ok value => exact .inl ⟨value, rfl, rfl⟩
          | error e => exact .inr ⟨e, rfl, rfl⟩

end ResolutionSession

def firstDeclared (calls : List Call) (id : Identity) : Nat :=
  ((calls.find? fun c => c.identity = id).map Call.declared).getD 0

theorem firstDeclared_append {calls : List Call} {id : Identity}
    (named : ∃ c ∈ calls, c.identity = id) (later : List Call) :
    firstDeclared (calls ++ later) id = firstDeclared calls id := by
  rcases named with ⟨c, member, same⟩
  have found : (calls.find? fun c => c.identity = id).isSome = true := by
    rw [List.find?_isSome]
    exact ⟨c, member, by simpa using same⟩
  rcases Option.isSome_iff_exists.mp found with ⟨first, here⟩
  simp [firstDeclared, List.find?_append, here]

theorem firstDeclared_new {calls : List Call} {c : Call}
    (new : ∀ earlier ∈ calls, earlier.identity ≠ c.identity) :
    firstDeclared (calls ++ [c]) c.identity = c.declared := by
  have missing : (calls.find? fun earlier => earlier.identity = c.identity) = none := by
    rw [List.find?_eq_none]
    intro earlier member
    simpa using new earlier member
  simp [firstDeclared, List.find?_append, missing]

structure Ledger (limits : EffectiveLimits) (calls : List Call) (state : Accounting) : Prop where
  counted : state.objects = state.seen.card
  objectsBounded : state.objects ≤ limits.reachableClosureObjects
  summed : state.bytes = ∑ id ∈ state.seen, firstDeclared calls id
  bytesBounded : state.bytes ≤ limits.reachableClosureBytes
  named : ∀ id ∈ state.seen, ∃ c ∈ calls, c.identity = id
  recorded : state.poisoned = false → ∀ c ∈ calls, c.identity ∈ state.seen

namespace Ledger

variable {calls : List Call} {state : Accounting}

theorem fresh (limits : EffectiveLimits) : Ledger limits [] .fresh where
  counted := rfl
  objectsBounded := Nat.zero_le _
  summed := rfl
  bytesBounded := Nat.zero_le _
  named := by simp [Accounting.fresh]
  recorded := by simp

theorem quiet (ledger : Ledger limits calls state) (c : Call) (poisoned : Bool)
    (kept : poisoned = false → state.poisoned = false ∧ c.identity ∈ state.seen) :
    Ledger limits (calls ++ [c]) { state with poisoned := poisoned } where
  counted := ledger.counted
  objectsBounded := ledger.objectsBounded
  summed := by
    rw [ledger.summed]
    apply Finset.sum_congr rfl
    intro id seen
    exact (firstDeclared_append (ledger.named id seen) [c]).symm
  bytesBounded := ledger.bytesBounded
  named := by
    intro id seen
    rcases ledger.named id seen with ⟨earlier, member, same⟩
    exact ⟨earlier, List.mem_append_left _ member, same⟩
  recorded := by
    intro still earlier member
    rcases kept still with ⟨wasOpen, known⟩
    cases List.mem_append.mp member with
    | inl before => exact ledger.recorded wasOpen earlier before
    | inr last =>
        rw [List.mem_singleton.mp last]
        exact known

theorem charged (ledger : Ledger limits calls state) {c : Call} {next : Accounting}
    (isOpen : state.poisoned = false) (charges : Charges limits c.reference state next)
    (poisoned : Bool) : Ledger limits (calls ++ [c]) { next with poisoned := poisoned } where
  counted := by
    change next.objects = next.seen.card
    rw [charges.objects_exact, charges.seen, Finset.card_insert_of_notMem charges.new,
      ledger.counted]
  objectsBounded := charges.objectsBounded
  summed := by
    have unnamed : ∀ earlier ∈ calls, earlier.identity ≠ c.identity := by
      intro earlier member same
      have seen := ledger.recorded isOpen earlier member
      rw [same] at seen
      exact charges.new seen
    have earlier : ∑ id ∈ state.seen, firstDeclared (calls ++ [c]) id = state.bytes := by
      rw [ledger.summed]
      apply Finset.sum_congr rfl
      intro id seen
      exact firstDeclared_append (ledger.named id seen) [c]
    change next.bytes = ∑ id ∈ next.seen, firstDeclared (calls ++ [c]) id
    rw [charges.bytes_exact, charges.seen, Finset.sum_insert charges.new, earlier]
    have first : firstDeclared (calls ++ [c]) (identityOf c.reference) = c.reference.size.toNat :=
      firstDeclared_new unnamed
    rw [first, Nat.add_comm]
  bytesBounded := charges.bytesBounded
  named := by
    intro id seen
    change id ∈ next.seen at seen
    rw [charges.seen, Finset.mem_insert] at seen
    cases seen with
    | inl new => exact ⟨c, by simp, new.symm⟩
    | inr old =>
        rcases ledger.named id old with ⟨earlier, member, same⟩
        exact ⟨earlier, List.mem_append_left _ member, same⟩
  recorded := by
    intro _ earlier member
    change earlier.identity ∈ next.seen
    rw [charges.seen, Finset.mem_insert]
    cases List.mem_append.mp member with
    | inl before => exact .inr (ledger.recorded isOpen earlier before)
    | inr last =>
        rw [List.mem_singleton.mp last]
        exact .inl rfl

end Ledger

namespace ResolutionSession

theorem resolve_ledger (sha256 : Sha256) (reader : Reader) {session : ResolutionSession}
    {calls : List Call} (c : Call) (ledger : Ledger session.limits calls session.state) :
    Ledger session.limits (calls ++ [c]) (session.resolve sha256 reader c).2.state := by
  cases isOpen : session.state.poisoned with
  | true =>
      rw [resolve_poisoned isOpen]
      exact ledger.quiet c session.state.poisoned (by simp [isOpen])
  | false =>
      rcases resolve_cases sha256 reader isOpen c with refused | went
      · rcases refused with ⟨e, _, turn⟩
        rw [turn]
        exact ledger.quiet c true (by simp)
      · rcases went with ⟨_, charged, paid, outcome⟩
        have after : ∀ poisoned,
            Ledger session.limits (calls ++ [c]) { charged with poisoned := poisoned } := by
          intro poisoned
          rcases charge_ok paid with known | charges
          · rcases known with ⟨seen, rfl⟩
            exact ledger.quiet c poisoned fun _ => ⟨isOpen, seen⟩
          · exact ledger.charged isOpen charges poisoned
        rcases outcome with resolved | failed
        · rcases resolved with ⟨value, _, turn⟩
          rw [turn]
          exact after charged.poisoned
        · rcases failed with ⟨e, _, turn⟩
          rw [turn]
          exact after true

theorem after_ledger {session : ResolutionSession} (fresh : session.state = .fresh)
    (calls : List Call) :
    Ledger session.limits calls (session.after sha256 reader calls).state := by
  induction calls using List.reverseRecOn with
  | nil =>
      change Ledger session.limits [] session.state
      rw [fresh]
      exact Ledger.fresh session.limits
  | append_singleton calls c ih =>
      rw [after_snoc, ← after_limits sha256 reader session calls] at *
      exact resolve_ledger sha256 reader c ih

def Pays (session : ResolutionSession) (c : Call) : Prop :=
  session.state.poisoned = false ∧ c.expects = .ok () ∧
    (charge session.limits session.state c.reference).isOk = true

theorem resolve_seen (sha256 : Sha256) (reader : Reader) (session : ResolutionSession) (c : Call)
    (id : Identity) : id ∈ (session.resolve sha256 reader c).2.state.seen ↔
      id ∈ session.state.seen ∨ (session.Pays c ∧ c.identity = id) := by
  cases isOpen : session.state.poisoned with
  | true =>
      rw [resolve_poisoned isOpen]
      simp [Pays, isOpen]
  | false =>
      rcases resolve_cases sha256 reader isOpen c with refused | went
      · rcases refused with ⟨e, unpaid, turn⟩
        have free : ¬ session.Pays c := by
          intro pays
          rcases unpaid with slot | limit
          · cases slot.symm.trans pays.2.1
          · rw [Pays, limit] at pays
            cases pays.2.2
        rw [turn]
        simp [free, Accounting.poison]
      · rcases went with ⟨expected, charged, paid, outcome⟩
        have pays : session.Pays c := ⟨isOpen, expected, by rw [paid]; rfl⟩
        have seen : id ∈ charged.seen ↔ id ∈ session.state.seen ∨ c.identity = id := by
          rcases charge_ok paid with known | charges
          · rcases known with ⟨here, rfl⟩
            constructor
            · exact .inl
            · intro either
              cases either with
              | inl old => exact old
              | inr same => exact same ▸ here
          · rw [charges.seen, Finset.mem_insert, or_comm, eq_comm]
            rfl
        rcases outcome with resolved | unread
        · rcases resolved with ⟨value, _, turn⟩
          rw [turn]
          simpa [pays] using seen
        · rcases unread with ⟨e, _, turn⟩
          rw [turn]
          simpa [pays, Accounting.poison] using seen

theorem after_seen {session : ResolutionSession} (fresh : session.state = .fresh)
    (calls : List Call) (id : Identity) :
    id ∈ (session.after sha256 reader calls).state.seen ↔ ∃ before c later,
      calls = before ++ c :: later ∧ c.identity = id ∧
        (session.after sha256 reader before).Pays c := by
  induction calls using List.reverseRecOn with
  | nil =>
      change id ∈ session.state.seen ↔ _
      rw [fresh]
      simp [Accounting.fresh]
  | append_singleton calls last ih =>
      rw [after_snoc, resolve_seen, ih]
      constructor
      · intro either
        rcases either with earlier | now
        · rcases earlier with ⟨before, c, later, rfl, same, pays⟩
          exact ⟨before, c, later ++ [last], by simp, same, pays⟩
        · exact ⟨calls, last, [], rfl, now.2, now.1⟩
      · intro facts
        rcases facts with ⟨before, c, later, split, same, pays⟩
        rcases List.eq_nil_or_concat later with rfl | ⟨rest, final, rfl⟩
        · rcases List.append_inj' split rfl with ⟨rfl, tail⟩
          cases tail
          exact .inr ⟨pays, same⟩
        · rw [List.concat_eq_append, ← List.cons_append, ← List.append_assoc] at split
          rcases List.append_inj' split rfl with ⟨here, _⟩
          exact .inl ⟨before, c, rest, here, same, pays⟩

theorem after_poisoned {session : ResolutionSession} (poisoned : session.state.poisoned = true)
    (calls : List Call) : session.after sha256 reader calls = session := by
  induction calls using List.reverseRecOn with
  | nil => rfl
  | append_singleton calls c ih => rw [after_snoc, ih, resolve_poisoned poisoned]

theorem poisoned_of_error {session : ResolutionSession} {c : Call} {e : ResolveError}
    (failed : (session.resolve sha256 reader c).1 = .error e) :
    (session.resolve sha256 reader c).2.state.poisoned = true := by
  cases isOpen : session.state.poisoned with
  | true => rw [resolve_poisoned isOpen, isOpen]
  | false =>
      rcases resolve_cases sha256 reader isOpen c with refused | went
      · rcases refused with ⟨e, _, turn⟩
        rw [turn]
        rfl
      · rcases went with ⟨_, charged, _, resolved | unread⟩
        · rcases resolved with ⟨value, _, turn⟩
          rw [turn] at failed
          cases failed
        · rcases unread with ⟨e, _, turn⟩
          rw [turn]
          rfl

theorem refused_by_limit {session : ResolutionSession} {c : Call} {e : ResolveError}
    (failed : (session.resolve sha256 reader c).1 = .error e) (limit : e.isLimit = true) :
    (session.resolve sha256 reader c).2.state = session.state.poison := by
  cases isOpen : session.state.poisoned with
  | true =>
      rw [resolve_poisoned isOpen] at failed
      cases failed
      cases limit
  | false =>
      rcases resolve_cases sha256 reader isOpen c with refused | went
      · rcases refused with ⟨_, _, turn⟩
        rw [turn]
      · rcases went with ⟨_, charged, _, resolved | unread⟩
        · rcases resolved with ⟨value, _, turn⟩
          rw [turn] at failed
          cases failed
        · rcases unread with ⟨other, outcome, turn⟩
          rw [turn] at failed
          cases failed
          cases limit.symm.trans (Call.read_within c e outcome)

def outcome (sha256 : Sha256) (reader : Reader) (session : ResolutionSession)
    (before : List Call) (c : Call) : Except ResolveError Resolved :=
  ((session.after sha256 reader before).resolve sha256 reader c).1

theorem after_failure {session : ResolutionSession} {before : List Call} {c : Call}
    {e : ResolveError} (failed : session.outcome sha256 reader before c = .error e)
    (later : List Call) :
    session.after sha256 reader (before ++ c :: later) =
      session.after sha256 reader (before ++ [c]) ∧
    ∀ next, session.outcome sha256 reader (before ++ c :: later) next = .error .sessionPoisoned := by
  have poisoned : (session.after sha256 reader (before ++ [c])).state.poisoned = true := by
    rw [after_snoc]
    exact poisoned_of_error failed
  have ended : session.after sha256 reader (before ++ c :: later) =
      session.after sha256 reader (before ++ [c]) := by
    rw [List.append_cons, after_append]
    exact after_poisoned poisoned later
  refine ⟨ended, ?_⟩
  intro next
  rw [outcome, ended, resolve_poisoned poisoned]

theorem enter_fresh {policy : BudgetPolicy} {session : ResolutionSession}
    (entered : enter policy = .ok session) : session.state = .fresh := by
  simp only [enter, bind_ok_iff, pure_ok_iff] at entered
  rcases entered with ⟨_, _, rfl⟩
  rfl

/-- Both counters after any run, and what a failure does to them. -/
theorem session_accounting (sha256 : Sha256) (reader : Reader) (policy : BudgetPolicy)
    (session : ResolutionSession) (entered : enter policy = .ok session) (calls : List Call) :
    let final := session.after sha256 reader calls
    (final.chargedObjects = final.state.seen.card ∧
      final.chargedObjects ≤ session.limits.reachableClosureObjects) ∧
    (final.chargedBytes = ∑ id ∈ final.state.seen, firstDeclared calls id ∧
      final.chargedBytes ≤ session.limits.reachableClosureBytes) ∧
    (∀ id, id ∈ final.state.seen ↔ ∃ before c later, calls = before ++ c :: later ∧
      c.identity = id ∧ (session.after sha256 reader before).Pays c) ∧
    ∀ before c later e, calls = before ++ c :: later →
      session.outcome sha256 reader before c = .error e →
      let ended := session.after sha256 reader (before ++ [c])
      let start := session.after sha256 reader before
      final.chargedObjects = ended.chargedObjects ∧ final.chargedBytes = ended.chargedBytes ∧
      (∀ middle next rest, later = middle ++ next :: rest →
        session.outcome sha256 reader (before ++ c :: middle) next = .error .sessionPoisoned) ∧
      (e.isLimit = true → ended.chargedObjects = start.chargedObjects ∧
        ended.chargedBytes = start.chargedBytes ∧ ended.state.seen = start.state.seen) := by
  have fresh := enter_fresh entered
  have ledger : Ledger session.limits calls (session.after sha256 reader calls).state :=
    after_ledger fresh calls
  refine ⟨⟨ledger.counted, ledger.objectsBounded⟩, ⟨ledger.summed, ledger.bytesBounded⟩,
    after_seen fresh calls, ?_⟩
  intro before c later e split failed
  subst split
  rcases after_failure failed later with ⟨same, _⟩
  refine ⟨by rw [same], by rw [same], ?_, ?_⟩
  · intro middle next _ _
    exact (after_failure failed middle).2 next
  · intro limit
    have state := refused_by_limit failed limit
    rw [after_snoc, chargedObjects, chargedBytes, state]
    exact ⟨rfl, rfl, rfl⟩

end ResolutionSession

namespace Sample

def policy : BudgetPolicy := ⟨1, 1, 1000, 1⟩

def session : ResolutionSession :=
  ⟨⟨policy.effectiveClosureBytes, policy.effectiveClosureObjects,
    policy.effectiveClosureBytes_hard, policy.effectiveClosureObjects_hard⟩, .fresh⟩

theorem session_entered : ResolutionSession.enter policy = .ok session := by rfl

def diffSlot : OpaqueSlot := ⟨.diff, "text/x-diff"⟩

def missing : Call := .opaqueBytes diffSlot Contracts.Sample.diff fun _ => none

end Sample

theorem ResolutionSession.session_accounting_missing :
    let calls := [Sample.missing, Sample.missing]
    let final := Sample.session.after standardSha256 compactReader calls
    (final.chargedObjects = final.state.seen.card ∧
      final.chargedObjects ≤ Sample.session.limits.reachableClosureObjects) ∧
    (final.chargedBytes = ∑ id ∈ final.state.seen, firstDeclared calls id ∧
      final.chargedBytes ≤ Sample.session.limits.reachableClosureBytes) ∧
    final.chargedBytes = (Sample.session.after standardSha256 compactReader
      [Sample.missing]).chargedBytes ∧
    Sample.session.outcome standardSha256 compactReader [Sample.missing] Sample.missing =
      .error .sessionPoisoned := by
  have facts := session_accounting standardSha256 compactReader Sample.policy Sample.session
    Sample.session_entered [Sample.missing, Sample.missing]
  have failed : Sample.session.outcome standardSha256 compactReader [] Sample.missing =
      .error .objectMissing := rfl
  rcases facts with ⟨objects, bytes, _, failure⟩
  have ended := failure [] Sample.missing [Sample.missing] .objectMissing rfl failed
  exact ⟨objects, bytes, ended.2.1, ended.2.2.1 [] Sample.missing [] rfl⟩

end O7Formal.Cas
