import O7Formal.Cas.Paid
import O7Formal.Contracts.Identity

/-! From a write to a resolution. The store keeps the first accepted envelope of an identity,
and the reference that a write reports leads a fresh session to that envelope and to the
payload. -/

namespace O7Formal.Cas

open Contracts Fallible
open EnvelopeRecord (encode_ok_iff)
open Run (Sha256 standardSha256)

theorem text_fits (e : EnvelopeV1) :
    (Utf8.utf8 e.fields.encodedTree.compact).length ≤ maxControlArtifactBytes := by
  rcases e.encodes with ⟨bytes, encoded⟩
  rcases encode_ok_iff.mp encoded with ⟨rfl, bounded⟩
  exact bounded

def textOf (e : EnvelopeV1) : Bytes :=
  ⟨Utf8.utf8 e.fields.encodedTree.compact, lt_of_le_of_lt (text_fits e) (by decide)⟩

theorem toWireBytes_textOf (e : EnvelopeV1) : e.toWireBytes = .ok (textOf e).data :=
  encode_ok_iff.mpr ⟨rfl, text_fits e⟩

theorem textOf_len (e : EnvelopeV1) : (textOf e).len ≤ maxControlArtifactBytes := text_fits e

theorem eq_textOf {e : EnvelopeV1} {wire : Bytes} (encoded : e.toWireBytes = .ok wire.data) :
    wire = textOf e :=
  Bytes.data_injective (Except.ok.inj (encoded.symm.trans (toWireBytes_textOf e)))

namespace MemoryStore

def Write.accepted (sha256 : Sha256) : Write → Option EnvelopeV1
  | .put _ => none
  | .putEnvelope e payload => if e.bindsPayload sha256 payload.data then some e else none

def SameIdentity (e first : EnvelopeV1) : Prop :=
  first.fields.framedPreimage = e.fields.framedPreimage

instance (e : EnvelopeV1) : DecidablePred (SameIdentity e) := fun first =>
  inferInstanceAs (Decidable (first.fields.framedPreimage = e.fields.framedPreimage))

/-- The first envelope accepted with the identity of `e`. -/
def firstAccepted (sha256 : Sha256) (writes : List Write) (e : EnvelopeV1) : Option EnvelopeV1 :=
  (writes.filterMap (Write.accepted sha256)).find? fun first => decide (SameIdentity e first)

/-- What a redelivery of `e` finds in place: `e` itself when it is the first. -/
def original (sha256 : Sha256) (writes : List Write) (e : EnvelopeV1) : EnvelopeV1 :=
  (firstAccepted sha256 writes e).getD e

variable {sha256 : Sha256} {writes : List Write} {w v : Write} {e : EnvelopeV1}

theorem firstAccepted_snoc (before : List Write) :
    firstAccepted sha256 (before ++ [v]) e = (firstAccepted sha256 before e).or
      ((v.accepted sha256).filter fun first => decide (SameIdentity e first)) := by
  rw [firstAccepted, List.filterMap_append, List.find?_append, firstAccepted]
  congr 1
  cases shape : v.accepted sha256 with
  | none => simp [shape]
  | some first =>
      by_cases same : SameIdentity e first <;> simp [shape, same, Option.filter]

theorem accepted_putEnvelope {payload : Bytes}
    (binds : (Write.putEnvelope e payload).Bound sha256) :
    (Write.putEnvelope e payload).accepted sha256 = some e :=
  if_pos binds

theorem firstAccepted_own {before : List Write} {payload : Bytes}
    (binds : (Write.putEnvelope e payload).Bound sha256) :
    firstAccepted sha256 (before ++ [.putEnvelope e payload]) e =
      some (original sha256 before e) := by
  rw [firstAccepted_snoc, accepted_putEnvelope binds, original]
  have own : decide (SameIdentity e e) = true := decide_eq_true rfl
  cases firstAccepted sha256 before e with
  | none => simp [Option.filter, own]
  | some first => rfl

theorem original_identity (before : List Write) :
    (original sha256 before e).fields.framedPreimage = e.fields.framedPreimage := by
  unfold original
  cases found : firstAccepted sha256 before e with
  | none => rfl
  | some first =>
      have same : decide (SameIdentity e first) = true := by
        unfold firstAccepted at found
        simpa using List.find?_some found
      exact of_decide_eq_true same

section First

variable (collisionFree : CollisionFree sha256 writes) (apart : Apart sha256 writes)

include collisionFree apart

theorem step_first (member : w ∈ writes) (other : v ∈ writes) (bound : w.Bound sha256)
    (carries : e ∈ w.envelope) (s : MemoryStore) :
    (s.step sha256 v).2.objects (e.framedDigest sha256) =
      (s.objects (e.framedDigest sha256)).or
        (((v.accepted sha256).filter fun first => decide (SameIdentity e first)).map textOf) := by
  cases v with
  | put c =>
      have elsewhere : e.framedDigest sha256 ≠ digestOf sha256 c :=
        (not_preimage collisionFree apart other member trivial bound carries).symm
      rw [step, put, insert_objects, if_neg elsewhere]
      simp [Write.accepted]
  | putEnvelope first payload =>
      rw [step]
      cases placed : s.putEnvelope sha256 first payload with
      | error failure =>
          have refused : (Write.putEnvelope first payload).accepted sha256 = none := by
            unfold putEnvelope at placed
            split_ifs at placed with binds
            · rw [show wireBytes first = .ok (textOf first) from
                wireBytes_ok_iff.mpr (toWireBytes_textOf first)] at placed
              cases placed
            · exact if_neg binds
          simp [refused]
      | ok result =>
          rcases result with ⟨⟨digest, size⟩, stored⟩
          rcases putEnvelope_ok_iff.mp placed with ⟨binds, rfl, wire, encoded, rfl, _⟩
          have accepted : (Write.putEnvelope first payload).Bound sha256 := decide_eq_true binds
          have elsewhere : e.framedDigest sha256 ≠ first.fields.payloadDigest := by
            rw [← binds]
            exact (not_preimage collisionFree apart other member accepted bound carries).symm
          rw [accepted_putEnvelope accepted, eq_textOf encoded]
          dsimp only
          rw [orInsert_objects, orInsert_objects, if_neg elsewhere]
          by_cases same : SameIdentity e first
          · have key : e.framedDigest sha256 = first.framedDigest sha256 :=
              congrArg (Run.Digest256.ofBytes sha256) same.symm
            rw [if_pos key]
            cases s.objects (e.framedDigest sha256) <;> simp [Option.filter, same]
          · have key : e.framedDigest sha256 ≠ first.framedDigest sha256 := by
              intro clash
              refine same ?_
              exact (collisionFree _ (List.mem_flatMap.mpr ⟨w, member, w.preimage_hashed carries⟩)
                _ (List.mem_flatMap.mpr ⟨_, other, Write.preimage_hashed _ rfl⟩) clash).symm
            rw [if_neg key]
            simp [Option.filter, same]

theorem run_first (member : w ∈ writes) (bound : w.Bound sha256) (carries : e ∈ w.envelope)
    {before : List Write} (among : ∀ v ∈ before, v ∈ writes) :
    (run sha256 before).objects (e.framedDigest sha256) =
      (firstAccepted sha256 before e).map textOf := by
  induction before using List.reverseRecOn with
  | nil => rfl
  | append_singleton before v ih =>
      have earlier := ih fun u early => among u (List.mem_append_left _ early)
      rw [run_snoc, step_first collisionFree apart member (among v (by simp)) bound carries,
        earlier, firstAccepted_snoc]
      cases firstAccepted sha256 before e <;> rfl

end First

end MemoryStore

def nameOf (e : EnvelopeV1) (d : WireDigest) (size : Nat) : ArtifactRefWire :=
  let kind := e.fields.messageKind.artifactKind
  ⟨kind, typedMediaType kind messageKindVersionV1, d, UInt64.ofNat size⟩

theorem artifactKind_envelopeBearing (kind : MessageKindV1) :
    kind.artifactKind.isEnvelopeBearing = true := by
  cases kind <;> rfl

theorem typedMediaType_bounds (kind : MessageKindV1) :
    typedMediaType kind.artifactKind messageKindVersionV1 ≠ "" ∧
      byteLength (typedMediaType kind.artifactKind messageKindVersionV1) ≤ maxStringBytes := by
  have each : ∀ k ∈ MessageKindV1.all,
      typedMediaType k.artifactKind messageKindVersionV1 ≠ "" ∧
        (ByteCodec.storedBytes (typedMediaType k.artifactKind messageKindVersionV1)).length ≤
          maxStringBytes := by
    decide +kernel
  rw [byteLength, ByteCodec.utf8Bytes_eq_stored]
  exact each kind kind.mem_all

section Name

variable {e : EnvelopeV1} {d : WireDigest} {size : Nat}

theorem nameOf_maxSize : (nameOf e d size).maxSize = maxControlArtifactBytes * 2 :=
  if_pos (artifactKind_envelopeBearing e.fields.messageKind)

theorem nameOf_size (word : size < 2 ^ 64) : (nameOf e d size).size.toNat = size :=
  UInt64.toNat_ofNat_of_lt' word

theorem nameOf_validate (word : size < 2 ^ 64) :
    (nameOf e d size).validate =
      if size > maxControlArtifactBytes * 2 then
        .error (.sizeAboveBound e.fields.messageKind.artifactKind.name size
          (maxControlArtifactBytes * 2))
      else .ok () := by
  rcases typedMediaType_bounds e.fields.messageKind with ⟨nonempty, short⟩
  have media : ¬ byteLength (typedMediaType (nameOf e d size).kind messageKindVersionV1) >
      maxStringBytes := not_lt.mpr short
  have named : ¬ typedMediaType (nameOf e d size).kind messageKindVersionV1 = "" := nonempty
  have expected : (nameOf e d size).mediaType =
      typedMediaType (nameOf e d size).kind messageKindVersionV1 := rfl
  unfold ArtifactRefWire.validate
  simp only [refuseIf, nameOf_maxSize, nameOf_size word, expected, if_neg named, if_neg media, ne_eq,
    not_true_eq_false, and_false, if_false, ok_bind]
  rfl

theorem new_named (word : size < 2 ^ 64) (bounded : size ≤ maxControlArtifactBytes * 2) :
    ∃ reference, ArtifactRef.new (nameOf e d size) = .ok reference := by
  have valid : (nameOf e d size).validate = .ok () := by
    rw [nameOf_validate word, if_neg (by omega)]
  exact ⟨⟨nameOf e d size, valid⟩, ArtifactRef.new_self ⟨nameOf e d size, valid⟩⟩

theorem new_refused (word : size < 2 ^ 64) (above : maxControlArtifactBytes * 2 < size) :
    ArtifactRef.new (nameOf e d size) =
      .error (.sizeAboveBound e.fields.messageKind.artifactKind.name size
        (maxControlArtifactBytes * 2)) := by
  have refused := nameOf_validate (e := e) (d := d) word
  rw [if_pos above] at refused
  unfold ArtifactRef.new
  split
  · rename_i valid
    cases valid.symm.trans refused
  · rename_i failure failed
    rw [Except.error.inj (failed.symm.trans refused)]

end Name

variable {sha256 : Sha256} {reader : Reader}

theorem ResolutionSession.resolve_paid {session : ResolutionSession} {c : Call} {value : Resolved}
    (isOpen : session.state.poisoned = false) (expected : c.expects = .ok ())
    (read : c.read sha256 reader = .ok value) :
    (session.resolve sha256 reader c).1 =
      (charge session.limits session.state c.reference).map fun _ => value := by
  cases paid : charge session.limits session.state c.reference with
  | ok charged =>
      rw [resolve_read isOpen expected paid read]
      rfl
  | error refusal =>
      simp only [resolve, attempt, isOpen, Call.resolveInner, expected, paid]
      rfl

namespace MemoryStore

section Placed

variable {before after : List Write} {e : EnvelopeV1} {payload : Bytes} {d : WireDigest}
  {size : Nat}
  (collisionFree : CollisionFree sha256 (before ++ .putEnvelope e payload :: after))
  (apart : Apart sha256 (before ++ .putEnvelope e payload :: after))
  (placed : ((run sha256 before).step sha256 (.putEnvelope e payload)).1 = .placed d size)

include collisionFree apart placed

theorem placed_first :
    (run sha256 (before ++ .putEnvelope e payload :: after)).objects d =
      some (textOf (original sha256 before e)) ∧
    (textOf (original sha256 before e)).len + payload.len = size := by
  rcases step_placed placed with ⟨bound, framed, _⟩
  have binds : (Write.putEnvelope e payload).Bound sha256 := decide_eq_true bound
  rcases text_stays rfl collisionFree apart placed with ⟨wire, held, atPlacement, sized⟩
  have among : ∀ v ∈ before ++ [.putEnvelope e payload],
      v ∈ before ++ .putEnvelope e payload :: after := by
    intro v early
    rw [List.append_cons]
    exact List.mem_append_left _ early
  have first := run_first collisionFree apart (by simp) binds rfl among
  rw [framed, atPlacement, firstAccepted_own binds] at first
  cases Option.some.inj first
  exact ⟨held, sized⟩

theorem placed_word : size < 2 ^ 64 := by
  have sized := (placed_first collisionFree apart placed).2
  have text := textOf_len (original sha256 before e)
  have payloadFits := payload.fits
  unfold maxControlArtifactBytes at text
  unfold Bytes.len at sized text
  omega

theorem placed_resolves (reader : Reader) {reference : ArtifactRef}
    (named : ArtifactRef.new (nameOf e d size) = .ok reference) {session : ResolutionSession}
    (isOpen : session.state.poisoned = false) :
    (session.resolve sha256 reader (.envelopeStorage ⟨e.fields.messageKind⟩ reference
      (run sha256 (before ++ .putEnvelope e payload :: after)).get)).1 =
      (charge session.limits session.state reference).map fun _ =>
        .envelopeStorage ⟨original sha256 before e, d, payload,
          (textOf (original sha256 before e)).len⟩ := by
  rcases step_placed placed with ⟨bound, framed, _⟩
  rcases placed_first collisionFree apart placed with ⟨held, sized⟩
  have identity : (original sha256 before e).fields.framedPreimage = e.fields.framedPreimage :=
    original_identity before
  rcases framedPreimage_halves identity with ⟨kind, digest⟩
  have wire := ArtifactRef.new_wire named
  have declared : reference.size.toNat = size := by
    rw [wire, nameOf_size (placed_word collisionFree apart placed)]
  have key : reference.digest = d := by
    rw [wire]
    rfl
  have read : EnvelopeSlot.read sha256 reader ⟨e.fields.messageKind⟩ reference
      (run sha256 (before ++ .putEnvelope e payload :: after)).get =
      .ok ⟨original sha256 before e, reference.digest, payload,
        (textOf (original sha256 before e)).len⟩ := by
    apply EnvelopeSlot.read_stored
    · rw [key]
      exact held
    · exact toWireBytes_textOf _
    · rw [key, ← framed]
      exact congrArg (Run.Digest256.ofBytes sha256) identity
    · rw [kind]
      rfl
    · rw [digest]
      exact payload_stays rfl collisionFree apart placed
    · exact decide_eq_true (by rw [digest]; exact bound)
    · rw [declared, refSize_exact]
      exact sized
  refine ResolutionSession.resolve_paid isOpen ?_ ?_
  · have slotKind : reference.kind = (EnvelopeSlot.mk e.fields.messageKind).kind := by
      rw [wire]
      rfl
    have slotMedia : reference.mediaType = (EnvelopeSlot.mk e.fields.messageKind).mediaType := by
      rw [wire]
      rfl
    simp only [Call.expects, EnvelopeSlot.expects, slotKind, slotMedia, refuseIf, ne_eq,
      not_true_eq_false, if_false, ok_bind]
  · simp only [Call.read, read, key]
    rfl

end Placed

/-- What a write reports leads back to it. The reference made of the report is refused exactly when
both halves together are above its bound, and else every open session that can pay for it reads the
payload and the first envelope accepted under this identity, whatever is written before and
after. -/
theorem write_resolves (sha256 : Sha256) (reader : Reader) (before after : List Write)
    (e : EnvelopeV1) (payload : Bytes) (d : WireDigest) (size : Nat)
    (collisionFree : CollisionFree sha256 (before ++ .putEnvelope e payload :: after))
    (apart : Apart sha256 (before ++ .putEnvelope e payload :: after))
    (placed : ((run sha256 before).step sha256 (.putEnvelope e payload)).1 = .placed d size) :
    (original sha256 before e).fields.framedPreimage = e.fields.framedPreimage ∧
    (size ≤ maxControlArtifactBytes * 2 →
      ∃ reference, ArtifactRef.new (nameOf e d size) = .ok reference ∧
        ∀ session : ResolutionSession, session.state.poisoned = false →
          (session.resolve sha256 reader (.envelopeStorage ⟨e.fields.messageKind⟩ reference
            (run sha256 (before ++ .putEnvelope e payload :: after)).get)).1 =
            (charge session.limits session.state reference).map fun _ =>
              .envelopeStorage ⟨original sha256 before e, d, payload,
                (textOf (original sha256 before e)).len⟩) ∧
    (maxControlArtifactBytes * 2 < size → ArtifactRef.new (nameOf e d size) =
      .error (.sizeAboveBound e.fields.messageKind.artifactKind.name size
        (maxControlArtifactBytes * 2))) := by
  have word := placed_word collisionFree apart placed
  refine ⟨original_identity before, ?_, new_refused word⟩
  intro bounded
  rcases new_named word bounded with ⟨reference, named⟩
  refine ⟨reference, named, ?_⟩
  intro session isOpen
  exact placed_resolves collisionFree apart placed reader named isOpen

end MemoryStore

theorem Sample.placing_collisionFree :
    MemoryStore.CollisionFree standardSha256 [Sample.placing] := by
  apply Sample.collisionFree
  intro a member
  simpa [Sample.placing, MemoryStore.Write.hashed, MemoryStore.Write.content,
    MemoryStore.Write.envelope, Sample.empty, Sample.report] using member

theorem Sample.placing_apart : MemoryStore.Apart standardSha256 [Sample.placing] := by
  intro w member _ v other _ e carries same
  cases List.mem_singleton.mp member
  cases List.mem_singleton.mp other
  cases carries
  have lengths : 0 = 565 := (congrArg List.length same).trans Sample.preimage_length
  cases lengths

theorem Sample.session_pays {reference : ArtifactRef} (size : reference.size.toNat = 913) :
    ∃ charged, charge Sample.session.limits Sample.session.state reference = .ok charged := by
  refine ⟨_, charge_new (Finset.notMem_empty _) (by decide) ?_⟩
  rw [size]
  decide

theorem MemoryStore.write_resolves_report :
    ∃ reference, ArtifactRef.new (nameOf Sample.report
        (Sample.report.framedDigest standardSha256) 913) = .ok reference ∧
      (Sample.session.resolve standardSha256 compactReader (.envelopeStorage ⟨.coderReport⟩
        reference (run standardSha256 [Sample.placing]).get)).1 =
        .ok (.envelopeStorage ⟨Sample.report, Sample.report.framedDigest standardSha256,
          Sample.empty, (textOf Sample.report).len⟩) := by
  have found := (write_resolves standardSha256 compactReader [] [] Sample.report Sample.empty _ _
    Sample.placing_collisionFree Sample.placing_apart Sample.placed).2.1 (by decide)
  rcases found with ⟨reference, named, resolves⟩
  refine ⟨reference, named, (resolves Sample.session rfl).trans ?_⟩
  rcases Sample.session_pays (show reference.size.toNat = 913 by
    rw [ArtifactRef.new_wire named]
    rfl) with ⟨charged, paid⟩
  rw [paid]
  rfl

end O7Formal.Cas
