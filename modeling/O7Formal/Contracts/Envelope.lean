import O7Formal.Contracts.Kind
import O7Formal.Contracts.Scalars
import O7Formal.Lib.JsonTree

/-! References, the envelope, its wire text and its identity.

`ArtifactRef` and `EnvelopeV1` carry the checks of their constructors, so a value of either
type is an admitted one. -/

namespace O7Formal.Contracts

open ByteCodec Fallible PrefixCode Utf8
open Json (Tree)

def envelopeVersionV1 : Nat := 1

def messageKindVersionV1 : Nat := 1

structure FrozenVersion (v : Nat) where
  deriving DecidableEq

def FrozenVersion.get {v : Nat} (_ : FrozenVersion v) : Nat := v

inductive RefError where
  | emptyMediaType
  | mediaTypeTooLong (actual : Nat)
  | sizeAboveBound (kind : String) (actual max : Nat)
  | wrongMediaType (kind expected : String)
  deriving DecidableEq, Repr

def RefError.text : RefError → String
  | .emptyMediaType => "media_type must be non-empty"
  | .mediaTypeTooLong actual =>
      "media_type must be <= " ++ toString maxStringBytes ++ " bytes, got " ++ toString actual
  | .sizeAboveBound kind actual max =>
      "declared size " ++ toString actual ++ " exceeds the FD-1.4 maximum " ++ toString max ++
        " for " ++ kind
  | .wrongMediaType kind expected =>
      "a typed " ++ kind ++ " artifact must declare media_type \"" ++ expected ++ "\" (FD-1.7)"

def typedMediaType (kind : ArtifactKindV1) (version : Nat) : String :=
  "application/vnd.o7.a1." ++ kind.name ++ "+json; v=" ++ toString version

/-- The fields of a reference before they are checked. -/
structure ArtifactRefWire where
  kind : ArtifactKindV1
  mediaType : String
  digest : WireDigest
  size : UInt64
  deriving DecidableEq

namespace ArtifactRefWire

def maxSize (r : ArtifactRefWire) : Nat :=
  if r.kind.isEnvelopeBearing then maxControlArtifactBytes * 2
  else if r.kind.hasControlSizeBound then maxControlArtifactBytes
  else maxEvidenceBlobBytes

def validate (r : ArtifactRefWire) : Except RefError Unit := do
  refuseIf (r.mediaType = "") .emptyMediaType
  refuseIf (byteLength r.mediaType > maxStringBytes) (.mediaTypeTooLong (byteLength r.mediaType))
  let expected := typedMediaType r.kind messageKindVersionV1
  refuseIf (r.kind.isTypedArtifact = true ∧ r.mediaType ≠ expected)
    (.wrongMediaType r.kind.name expected)
  refuseIf (r.size.toNat > r.maxSize) (.sizeAboveBound r.kind.name r.size.toNat r.maxSize)

end ArtifactRefWire

@[ext]
structure ArtifactRef extends ArtifactRefWire where
  valid : toArtifactRefWire.validate = .ok ()
  deriving DecidableEq

def ArtifactRef.new (r : ArtifactRefWire) : Except RefError ArtifactRef :=
  match valid : r.validate with
  | .ok () => .ok ⟨r, valid⟩
  | .error e => .error e

@[simp] theorem ArtifactRef.new_self (r : ArtifactRef) :
    ArtifactRef.new r.toArtifactRefWire = .ok r := by
  unfold ArtifactRef.new
  split
  · rfl
  · rename_i e failed
    rw [r.valid] at failed
    cases failed

theorem ArtifactRef.bounds (r : ArtifactRef) :
    r.mediaType ≠ "" ∧ byteLength r.mediaType ≤ maxStringBytes ∧ r.size.toNat ≤ r.maxSize := by
  have valid := r.valid
  simp only [ArtifactRefWire.validate, bind_ok_iff, refuseIf_ok_iff, exists_const] at valid
  exact ⟨valid.1, by omega, by omega⟩

inductive EnvelopeError where
  | missingProviderField (field role : String)
  | forbiddenProviderField (field role : String)
  | wrongProducerRole (kind expected actual : String)
  | badRef (index : Nat) (source : RefError)
  | badReceiptRef (source : RefError)
  | aboveByteCeiling (actual max : Nat)
  | unserializable
  deriving DecidableEq, Repr

def EnvelopeError.text : EnvelopeError → String
  | .missingProviderField field role => field ++ " is required for producer_role " ++ role
  | .forbiddenProviderField field role => field ++ " is forbidden for producer_role " ++ role
  | .wrongProducerRole kind expected actual =>
      "message_kind " ++ kind ++ " is authored by producer_role " ++ expected ++ ", not " ++ actual
  | .badRef index source => "artifact_refs[" ++ toString index ++ "] is invalid: " ++ source.text
  | .badReceiptRef source => "provider_execution_receipt_ref is invalid: " ++ source.text
  | .aboveByteCeiling actual max =>
      "the serialized envelope is " ++ toString actual ++
        " bytes, exceeding the FD-1.4 maximum " ++ toString max
  | .unserializable => "the envelope could not be serialized to check its size"

/-- The fields of an envelope over one type of reference: the wire form holds unchecked
references, every other form checked ones. -/
@[ext]
structure EnvelopeRecord (ρ : Type) where
  envelopeVersion : FrozenVersion envelopeVersionV1
  messageKind : MessageKindV1
  messageKindVersion : FrozenVersion messageKindVersionV1
  messageId : Id
  rootGoalId : Id
  taskId : Id
  campaignId : Id
  roundId : Option Id
  causationId : Option Id
  correlationId : Id
  producerRole : ProducerRole
  producerExecutionId : Id
  producerAdapterVersion : AdapterVersion
  modelIdentity : Option ModelIdentity
  promptDigest : Option WireDigest
  toolPolicyDigest : Option WireDigest
  contractDigest : WireDigest
  expectedInputHead : Option CommitId
  payloadDigest : WireDigest
  artifactRefs : BoundedVec ρ maxArtifactRefs
  providerExecutionReceiptRef : Option ρ
  createdAt : Timestamp
  deriving DecidableEq

abbrev EnvelopeWireV1 := EnvelopeRecord ArtifactRefWire

abbrev EnvelopeFieldsV1 := EnvelopeRecord ArtifactRef

namespace EnvelopeRecord

def checkProviderField (role : ProducerRole) (field : String) (present : Bool) :
    Except EnvelopeError Unit := do
  refuseIf (role.isProviderRole = true ∧ present = false) (.missingProviderField field role.name)
  refuseIf (role.isProviderRole = false ∧ present = true) (.forbiddenProviderField field role.name)

/-- The references are valid by their type; the checks on them are made again all the same. -/
def checkRefs : Nat → List ArtifactRef → Except EnvelopeError Unit
  | _, [] => .ok ()
  | index, r :: rest => do
      r.validate.mapError (EnvelopeError.badRef index)
      checkRefs (index + 1) rest

def validate (e : EnvelopeFieldsV1) : Except EnvelopeError Unit := do
  let role := e.producerRole
  checkProviderField role "model_identity" e.modelIdentity.isSome
  checkProviderField role "prompt_digest" e.promptDigest.isSome
  checkProviderField role "tool_policy_digest" e.toolPolicyDigest.isSome
  checkProviderField role "provider_execution_receipt_ref" e.providerExecutionReceiptRef.isSome
  let expected := e.messageKind.authorizedProducerRole
  refuseIf (role ≠ expected) (.wrongProducerRole e.messageKind.name expected.name role.name)
  checkRefs 0 e.artifactRefs.items
  match e.providerExecutionReceiptRef with
  | some r => r.validate.mapError EnvelopeError.badReceiptRef
  | none => .ok ()

def natural (n : Nat) : Tree := .number (.integer n)

def refTree (r : ArtifactRefWire) : Tree :=
  .object [("kind", .string r.kind.name), ("media_type", .string r.mediaType),
    ("digest", .string r.digest.asStr), ("size", natural r.size.toNat)]

/-- The fields in the order they are written; an absent optional is left out. -/
def encodedFields (e : EnvelopeFieldsV1) : List (String × Option Tree) :=
  [("envelope_version", some (natural e.envelopeVersion.get)),
    ("message_kind", some (.string e.messageKind.name)),
    ("message_kind_version", some (natural e.messageKindVersion.get)),
    ("message_id", some (.string e.messageId.asStr)),
    ("root_goal_id", some (.string e.rootGoalId.asStr)),
    ("task_id", some (.string e.taskId.asStr)),
    ("campaign_id", some (.string e.campaignId.asStr)),
    ("round_id", e.roundId.map fun id => .string id.asStr),
    ("causation_id", e.causationId.map fun id => .string id.asStr),
    ("correlation_id", some (.string e.correlationId.asStr)),
    ("producer_role", some (.string e.producerRole.name)),
    ("producer_execution_id", some (.string e.producerExecutionId.asStr)),
    ("producer_adapter_version", some (.string e.producerAdapterVersion.asStr)),
    ("model_identity", e.modelIdentity.map fun text => .string text.asStr),
    ("prompt_digest", e.promptDigest.map fun digest => .string digest.asStr),
    ("tool_policy_digest", e.toolPolicyDigest.map fun digest => .string digest.asStr),
    ("contract_digest", some (.string e.contractDigest.asStr)),
    ("expected_input_head", e.expectedInputHead.map fun id => .string id.asStr),
    ("payload_digest", some (.string e.payloadDigest.asStr)),
    ("artifact_refs",
      some (.array (e.artifactRefs.items.map fun r => refTree r.toArtifactRefWire))),
    ("provider_execution_receipt_ref",
      e.providerExecutionReceiptRef.map fun r => refTree r.toArtifactRefWire),
    ("created_at", some (.string e.createdAt.asStr))]

def encodedTree (e : EnvelopeFieldsV1) : Tree :=
  .object (e.encodedFields.filterMap fun field => field.2.map fun t => (field.1, t))

/-- The compact text, refused above the byte ceiling. No field of the encoder can fail to
serialize: an absent optional is never handed to the serializer. -/
def encode (e : EnvelopeFieldsV1) : Except EnvelopeError (List UInt8) :=
  let encoded := utf8 e.encodedTree.compact
  if encoded.length > maxControlArtifactBytes then
    .error (.aboveByteCeiling encoded.length maxControlArtifactBytes)
  else .ok encoded

theorem encode_ok_iff {e : EnvelopeFieldsV1} {bytes : List UInt8} :
    e.encode = .ok bytes ↔
      utf8 e.encodedTree.compact = bytes ∧ bytes.length ≤ maxControlArtifactBytes := by
  simp only [encode]
  split_ifs with long
  · simp only [false_iff, not_and]
    intro same
    rw [← same]
    omega
  · simp only [Except.ok.injEq]
    exact ⟨fun same => ⟨same, by rw [← same]; omega⟩, fun both => both.1⟩

theorem encodes_of_isOk {e : EnvelopeFieldsV1} (ok : e.encode.isOk = true) :
    ∃ bytes, e.encode = .ok bytes := by
  cases encoded : e.encode with
  | error failure => rw [encoded] at ok; cases ok
  | ok bytes => exact ⟨bytes, rfl⟩

theorem encode_of_bytes {e : EnvelopeFieldsV1}
    (short : e.encodedTree.bytes.length ≤ maxControlArtifactBytes) :
    e.encode = .ok e.encodedTree.bytes :=
  encode_ok_iff.mpr ⟨Json.utf8_compact _, short⟩

theorem encodes_of_length {e : EnvelopeFieldsV1}
    (short : e.encodedTree.bytes.length ≤ maxControlArtifactBytes) : e.encode.isOk = true := by
  rw [encode_of_bytes short]
  rfl

def frameStr (s : String) : List UInt8 := frame (utf8Bytes s)

def frameOptionalStr (s : Option String) : List UInt8 := frameStr (s.getD "")

def frameU32 (n : Nat) : List UInt8 := frame (leBytes 4 n)

def frameU64 (n : Nat) : List UInt8 := frame (leBytes 8 n)

def frameRef (r : ArtifactRefWire) : List UInt8 :=
  frameStr r.kind.name ++ (frameStr r.mediaType ++ (frameStr r.digest.asStr ++
    frameU64 r.size.toNat))

def envelopeDomain : List UInt8 := utf8Bytes "o7-a1-envelope\x00v1\x00"

def framedPreimage (e : EnvelopeFieldsV1) : List UInt8 :=
  envelopeDomain ++
  (frameU32 e.envelopeVersion.get ++
  (frameStr e.messageKind.name ++
  (frameU32 e.messageKindVersion.get ++
  (frameStr e.messageId.asStr ++
  (frameStr e.rootGoalId.asStr ++
  (frameStr e.taskId.asStr ++
  (frameStr e.campaignId.asStr ++
  (frameOptionalStr (e.roundId.map Id.asStr) ++
  (frameOptionalStr (e.causationId.map Id.asStr) ++
  (frameStr e.correlationId.asStr ++
  (frameStr e.producerRole.name ++
  (frameStr e.producerExecutionId.asStr ++
  (frameStr e.producerAdapterVersion.asStr ++
  (frameOptionalStr (e.modelIdentity.map BoundedText.asStr) ++
  (frameOptionalStr (e.promptDigest.map Run.Digest256.asStr) ++
  (frameOptionalStr (e.toolPolicyDigest.map Run.Digest256.asStr) ++
  (frameStr e.contractDigest.asStr ++
  (frameOptionalStr (e.expectedInputHead.map CommitId.asStr) ++
  (frameStr e.payloadDigest.asStr ++
  (frameOptionalStr (e.providerExecutionReceiptRef.map fun r => r.digest.asStr) ++
  (frameU64 e.artifactRefs.items.length ++
    e.artifactRefs.items.flatMap fun r => frameRef r.toArtifactRefWire)))))))))))))))))))))

end EnvelopeRecord

structure EnvelopeV1 where
  fields : EnvelopeFieldsV1
  valid : fields.validate = .ok ()
  encodes : ∃ bytes, fields.encode = .ok bytes
  deriving DecidableEq

namespace EnvelopeV1

open EnvelopeRecord

def new (f : EnvelopeFieldsV1) : Except EnvelopeError EnvelopeV1 :=
  match valid : f.validate with
  | .error e => .error e
  | .ok () =>
      match encoded : f.encode with
      | .error e => .error e
      | .ok bytes => .ok ⟨f, valid, bytes, encoded⟩

def toWireBytes (e : EnvelopeV1) : Except EnvelopeError (List UInt8) := e.fields.encode

def framedDigest (sha256 : Run.Sha256) (e : EnvelopeV1) : WireDigest :=
  .ofBytes sha256 e.fields.framedPreimage

def bindsPayload (sha256 : Run.Sha256) (e : EnvelopeV1) (payload : List UInt8) : Bool :=
  Run.Digest256.ofBytes sha256 payload = e.fields.payloadDigest

theorem new_ok {f : EnvelopeFieldsV1} {e : EnvelopeV1} (made : new f = .ok e) : e.fields = f := by
  unfold new at made
  split at made
  · cases made
  · split at made
    · cases made
    · cases made
      rfl

theorem new_fields (e : EnvelopeV1) : new e.fields = .ok e := by
  have valid := e.valid
  rcases e.encodes with ⟨bytes, encodes⟩
  unfold new
  split
  · rename_i failed
    rw [valid] at failed
    cases failed
  · split
    · rename_i failed
      rw [encodes] at failed
      cases failed
    · rfl

end EnvelopeV1

end O7Formal.Contracts
