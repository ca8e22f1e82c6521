import O7Formal.Contracts.Identity
import O7Formal.Contracts.Walk

/-! The inbound door: the structural scan, the typed reader of an envelope and its checks.

The fields are read from the tree a text denotes. A field list refuses a name it does not
know and a name it meets twice, whatever else is in the document. -/

namespace O7Formal.Contracts

open ByteCodec Fallible Utf8 Json EnvelopeRecord

def readText {α : Type} (parse : String → Except ScalarError α) : Tree → Option α
  | .string s => (parse s).toOption
  | _ => none

def readName {α : Type} (ofName : String → Option α) : Tree → Option α
  | .string s => ofName s
  | _ => none

def readVersion (v : Nat) : Tree → Option (FrozenVersion v)
  | .number (.integer n) => if n = v then some ⟨⟩ else none
  | _ => none

def readU64 : Tree → Option UInt64
  | .number (.integer n) => if 0 ≤ n ∧ n < 2 ^ 64 then some (UInt64.ofNat n.toNat) else none
  | _ => none

/-- The members of an object whose fields are `names`, none of them met twice. -/
def readMembers (names : List String) (members : List (String × Tree)) :
    Option (List (String × Tree)) :=
  if (members.map Prod.fst).Nodup ∧ ∀ member ∈ members, member.1 ∈ names then some members
  else none

def required {α : Type} (read : Tree → Option α) (members : List (String × Tree)) (name : String) :
    Option α :=
  (members.lookup name).bind read

/-- An optional field is absent or carries a value; `null` is no value of any type here. -/
def optional {α : Type} (read : Tree → Option α) (members : List (String × Tree)) (name : String) :
    Option (Option α) :=
  match members.lookup name with
  | none => some none
  | some t => (read t).map some

def readRef : Tree → Option ArtifactRefWire
  | .object members => do
      let members ← readMembers ["kind", "media_type", "digest", "size"] members
      let kind ← required (readName ArtifactKindV1.ofName) members "kind"
      let mediaType ← required (readText .ok) members "media_type"
      let digest ← required (readText WireDigest.parse) members "digest"
      let size ← required readU64 members "size"
      return ⟨kind, mediaType, digest, size⟩
  | .array [kind, mediaType, digest, size] => do
      let kind ← readName ArtifactKindV1.ofName kind
      let mediaType ← readText .ok mediaType
      let digest ← readText WireDigest.parse digest
      let size ← readU64 size
      return ⟨kind, mediaType, digest, size⟩
  | _ => none

def readRefs : Tree → Option (BoundedVec ArtifactRefWire maxArtifactRefs)
  | .array items =>
      if items.length ≤ min maxArtifactRefs maxArrayLen then
        (items.mapM readRef).bind fun refs => (BoundedVec.new maxArtifactRefs refs).toOption
      else none
  | _ => none

def envelopeNames : List String :=
  ["envelope_version", "message_kind", "message_kind_version", "message_id", "root_goal_id",
    "task_id", "campaign_id", "round_id", "causation_id", "correlation_id", "producer_role",
    "producer_execution_id", "producer_adapter_version", "model_identity", "prompt_digest",
    "tool_policy_digest", "contract_digest", "expected_input_head", "payload_digest",
    "artifact_refs", "provider_execution_receipt_ref", "created_at"]

/-- The wire form of an envelope. The scan has refused every document but an object. -/
def readEnvelope : Tree → Option EnvelopeWireV1
  | .object members => do
      let members ← readMembers envelopeNames members
      return {
        envelopeVersion := ← required (readVersion _) members "envelope_version"
        messageKind := ← required (readName MessageKindV1.ofName) members "message_kind"
        messageKindVersion := ← required (readVersion _) members "message_kind_version"
        messageId := ← required (readText Id.parse) members "message_id"
        rootGoalId := ← required (readText Id.parse) members "root_goal_id"
        taskId := ← required (readText Id.parse) members "task_id"
        campaignId := ← required (readText Id.parse) members "campaign_id"
        roundId := ← optional (readText Id.parse) members "round_id"
        causationId := ← optional (readText Id.parse) members "causation_id"
        correlationId := ← required (readText Id.parse) members "correlation_id"
        producerRole := ← required (readName ProducerRole.ofName) members "producer_role"
        producerExecutionId := ← required (readText Id.parse) members "producer_execution_id"
        producerAdapterVersion :=
          ← required (readText (BoundedText.parse _)) members "producer_adapter_version"
        modelIdentity := ← optional (readText (BoundedText.parse _)) members "model_identity"
        promptDigest := ← optional (readText WireDigest.parse) members "prompt_digest"
        toolPolicyDigest := ← optional (readText WireDigest.parse) members "tool_policy_digest"
        contractDigest := ← required (readText WireDigest.parse) members "contract_digest"
        expectedInputHead := ← optional (readText CommitId.parse) members "expected_input_head"
        payloadDigest := ← required (readText WireDigest.parse) members "payload_digest"
        artifactRefs := ← required readRefs members "artifact_refs"
        providerExecutionReceiptRef :=
          ← optional readRef members "provider_execution_receipt_ref"
        createdAt := ← required (readText Timestamp.parse) members "created_at" }
  | _ => none

def EnvelopeRecord.withRefs {ρ σ : Type} (w : EnvelopeRecord ρ)
    (artifactRefs : BoundedVec σ maxArtifactRefs) (receiptRef : Option σ) : EnvelopeRecord σ where
  envelopeVersion := w.envelopeVersion
  messageKind := w.messageKind
  messageKindVersion := w.messageKindVersion
  messageId := w.messageId
  rootGoalId := w.rootGoalId
  taskId := w.taskId
  campaignId := w.campaignId
  roundId := w.roundId
  causationId := w.causationId
  correlationId := w.correlationId
  producerRole := w.producerRole
  producerExecutionId := w.producerExecutionId
  producerAdapterVersion := w.producerAdapterVersion
  modelIdentity := w.modelIdentity
  promptDigest := w.promptDigest
  toolPolicyDigest := w.toolPolicyDigest
  contractDigest := w.contractDigest
  expectedInputHead := w.expectedInputHead
  payloadDigest := w.payloadDigest
  artifactRefs := artifactRefs
  providerExecutionReceiptRef := receiptRef
  createdAt := w.createdAt

def readReceiptRef : Option ArtifactRefWire → Except EnvelopeError (Option ArtifactRef)
  | some w => ((ArtifactRef.new w).mapError EnvelopeError.badReceiptRef).map some
  | none => .ok none

def fieldsOfWire (w : EnvelopeWireV1) : Except EnvelopeError EnvelopeFieldsV1 := do
  let refs ← w.artifactRefs.tryMapInto
    fun index r => (ArtifactRef.new r).mapError (EnvelopeError.badRef index)
  let receiptRef ← readReceiptRef w.providerExecutionReceiptRef
  return w.withRefs refs receiptRef

/-- `from_bytes`: the typed reader, the conversion and the constructor. -/
def fromBytes (reader : Reader) (bytes : List UInt8) : Except ParseError EnvelopeV1 := do
  let wire ← match (reader.parse bytes).toOption.bind readEnvelope with
    | some wire => Except.ok wire
    | none => Except.error (ParseError.schemaMismatch (reader.mismatch bytes))
  let fields ← (fieldsOfWire wire).mapError fun e => ParseError.invalid e.text
  (EnvelopeV1.new fields).mapError fun e => ParseError.invalid e.text

def Halt.error : Halt → ParseError
  | .refused e => e
  | .exhausted => .notJson "eof" 0 0

def admitDocument (bytes : List UInt8) (maxBytes : Nat) : Except ParseError Unit := do
  refuseIf (bytes.length > maxBytes) (.payloadTooLarge bytes.length maxBytes)
  match fromUtf8 bytes with
  | none => .error .notUtf8
  | some text =>
      refuseIf (text.toList.head? = some '\ufeff') .leadingBom
      (Scanner.new text).run.mapError Halt.error

/-- `parse_artifact` for envelopes. -/
def parseArtifact (reader : Reader) (bytes : List UInt8) : Except ParseError EnvelopeV1 := do
  admitDocument bytes maxControlArtifactBytes
  let parsed ← fromBytes reader bytes
  parsed.fields.validate.mapError fun e => ParseError.invalid e.text
  return parsed

theorem lookup_present {fields : List (String × Option Tree)}
    (distinct : (fields.map Prod.fst).Nodup) (name : String) :
    (fields.filterMap fun field => field.2.map fun t => (field.1, t)).lookup name =
      (fields.lookup name).join := by
  induction fields with
  | nil => rfl
  | cons field rest ih =>
      rcases field with ⟨key, value⟩
      rw [List.map_cons, List.nodup_cons] at distinct
      have others := ih distinct.2
      by_cases same : name = key
      · subst same
        have missing : rest.lookup name = none := by
          rw [List.lookup_eq_none_iff]
          intro p member
          rw [bne_iff_ne]
          intro clash
          have found : p.1 ∈ rest.map Prod.fst := List.mem_map_of_mem member
          rw [← clash] at found
          exact distinct.1 found
        cases value with
        | none =>
            rw [missing] at others
            simpa using others
        | some t => simp
      · have other : (name == key) = false := beq_eq_false_iff_ne.mpr same
        cases value with
        | none => simpa [List.lookup_cons, other] using others
        | some t => simpa [List.lookup_cons, other] using others

theorem readText_string {α : Type} {parse : String → Except ScalarError α} {text : α → String}
    (reads : ∀ a, parse (text a) = .ok a) (a : α) : readText parse (.string (text a)) = some a := by
  rw [readText, reads]
  rfl

theorem readName_string {α : Type} {ofName : String → Option α} {name : α → String}
    (reads : ∀ a, ofName (name a) = some a) (a : α) :
    readName ofName (.string (name a)) = some a := by
  rw [readName, reads]

theorem readU64_natural (n : UInt64) : readU64 (natural n.toNat) = some n := by
  have bound := n.toNat_lt
  rw [natural, readU64, if_pos ⟨by omega, by omega⟩]
  simp

theorem required_of_lookup {α : Type} {read : Tree → Option α} {members : List (String × Tree)}
    {name : String} {t : Tree} (found : members.lookup name = some t) :
    required read members name = read t := by
  rw [required, found]
  rfl

theorem readRef_refTree (r : ArtifactRefWire) : readRef (refTree r) = some r := by
  let members : List (String × Tree) :=
    [("kind", .string r.kind.name), ("media_type", .string r.mediaType),
      ("digest", .string r.digest.asStr), ("size", natural r.size.toNat)]
  have listed : readMembers ["kind", "media_type", "digest", "size"] members = some members :=
    if_pos (by simp [members])
  have kind : required (readName ArtifactKindV1.ofName) members "kind" = some r.kind :=
    (required_of_lookup rfl).trans (readName_string ArtifactKindV1.ofName_name r.kind)
  have mediaType : required (readText .ok) members "media_type" = some r.mediaType :=
    (required_of_lookup rfl).trans (@readText_string String _ id (fun _ => rfl) r.mediaType)
  have digest : required (readText WireDigest.parse) members "digest" = some r.digest :=
    (required_of_lookup rfl).trans (readText_string WireDigest.parse_asStr r.digest)
  have size : required readU64 members "size" = some r.size :=
    (required_of_lookup rfl).trans (readU64_natural r.size)
  rw [refTree, readRef, listed]
  simp only [Option.bind_eq_bind, Option.bind_some, kind, mediaType, digest, size]
  rfl

theorem readRefs_map (v : BoundedVec ArtifactRef maxArtifactRefs) :
    readRefs (.array (v.items.map fun r => refTree r.toArtifactRefWire)) =
      some (v.map ArtifactRef.toArtifactRefWire) := by
  have each : (v.items.map fun r => refTree r.toArtifactRefWire).mapM readRef =
      some (v.items.map ArtifactRef.toArtifactRefWire) := by
    induction v.items with
    | nil => rfl
    | cons r rest ih => simp [List.mapM_cons, readRef_refTree, ih]
  rw [readRefs, if_pos (by rw [List.length_map]; exact v.bounded), each, Option.bind_some]
  rw [BoundedVec.new, dif_pos (by rw [List.length_map]; exact v.bounded)]
  rfl

def wireOf (e : EnvelopeFieldsV1) : EnvelopeWireV1 :=
  e.withRefs (e.artifactRefs.map ArtifactRef.toArtifactRefWire)
    (e.providerExecutionReceiptRef.map ArtifactRef.toArtifactRefWire)

theorem encodedFields_names (e : EnvelopeFieldsV1) :
    e.encodedFields.map Prod.fst = envelopeNames := rfl

theorem envelopeNames_nodup : envelopeNames.Nodup := by decide

section Fields

variable (e : EnvelopeFieldsV1)

def encodedMembers : List (String × Tree) :=
  e.encodedFields.filterMap fun field => field.2.map fun t => (field.1, t)

theorem encodedMembers_sublist :
    ((encodedMembers e).map Prod.fst).Sublist envelopeNames := by
  rw [← encodedFields_names e, encodedMembers]
  induction e.encodedFields with
  | nil => exact .slnil
  | cons field rest ih =>
      rcases field with ⟨name, value⟩
      cases value with
      | none => exact ih.cons name
      | some t => exact ih.cons_cons name

theorem readMembers_encoded :
    readMembers envelopeNames (encodedMembers e) = some (encodedMembers e) := by
  have names := encodedMembers_sublist e
  refine if_pos ⟨envelopeNames_nodup.sublist names, ?_⟩
  intro member listed
  exact names.subset (List.mem_map_of_mem listed)

theorem required_encoded {α β : Type} {read : Tree → Option α} {name : String} {t : Tree} {a : α}
    {next : α → Option β} {b : β} (field : e.encodedFields.lookup name = some (some t))
    (reads : read t = some a) (rest : next a = some b) :
    (required read (encodedMembers e) name).bind next = some b := by
  have found : (encodedMembers e).lookup name = some t := by
    rw [encodedMembers, lookup_present (encodedFields_names e ▸ envelopeNames_nodup), field]
    rfl
  rw [required_of_lookup found, reads]
  exact rest

theorem optional_encoded {α β : Type} {read : Tree → Option α} {name : String} {o : Option α}
    {write : α → Tree} {next : Option α → Option β} {b : β}
    (field : e.encodedFields.lookup name = some (o.map write))
    (reads : ∀ a, read (write a) = some a) (rest : next o = some b) :
    (optional read (encodedMembers e) name).bind next = some b := by
  have present : optional read (encodedMembers e) name = some o := by
    rw [optional, encodedMembers, lookup_present (encodedFields_names e ▸ envelopeNames_nodup),
      field]
    cases o with
    | none => rfl
    | some a =>
        simp only [Option.map_some, Option.join_some]
        rw [reads]
        rfl
  rw [present]
  exact rest

end Fields

theorem readEnvelope_encodedTree (e : EnvelopeFieldsV1) :
    readEnvelope e.encodedTree = some (wireOf e) := by
  have version : ∀ v : Nat, readVersion v (natural v) = some ⟨⟩ := by
    intro v
    rw [natural, readVersion, if_pos rfl]
  have ids : ∀ id : Id, readText Id.parse (.string id.asStr) = some id :=
    readText_string Id.parse_asStr
  have texts : ∀ max (text : BoundedText max),
      readText (BoundedText.parse max) (.string text.asStr) = some text := by
    intro max
    exact readText_string BoundedText.parse_asStr
  have digests : ∀ d : WireDigest, readText WireDigest.parse (.string d.asStr) = some d :=
    readText_string WireDigest.parse_asStr
  have receipts : ∀ o : Option ArtifactRef, (o.map fun r => refTree r.toArtifactRefWire) =
      (o.map ArtifactRef.toArtifactRefWire).map refTree := by
    intro o
    cases o <;> rfl
  have members : e.encodedTree = .object (encodedMembers e) := rfl
  rw [members, readEnvelope, readMembers_encoded, Option.bind_eq_bind, Option.bind_some]
  refine required_encoded e rfl (version _) ?_
  refine required_encoded e rfl (readName_string MessageKindV1.ofName_name _) ?_
  refine required_encoded e rfl (version _) ?_
  refine required_encoded e rfl (ids _) ?_
  refine required_encoded e rfl (ids _) ?_
  refine required_encoded e rfl (ids _) ?_
  refine required_encoded e rfl (ids _) ?_
  refine optional_encoded e rfl ids ?_
  refine optional_encoded e rfl ids ?_
  refine required_encoded e rfl (ids _) ?_
  refine required_encoded e rfl (readName_string ProducerRole.ofName_name _) ?_
  refine required_encoded e rfl (ids _) ?_
  refine required_encoded e rfl (texts _ _) ?_
  refine optional_encoded e rfl (texts _) ?_
  refine optional_encoded e rfl digests ?_
  refine optional_encoded e rfl digests ?_
  refine required_encoded e rfl (digests _) ?_
  refine optional_encoded e rfl (readText_string CommitId.parse_asStr) ?_
  refine required_encoded e rfl (digests _) ?_
  refine required_encoded e rfl (readRefs_map _) ?_
  refine optional_encoded e (congrArg some (receipts _)) readRef_refTree ?_
  refine required_encoded e rfl (readText_string Timestamp.parse_asStr _) ?_
  rfl

theorem fieldsOfWire_wireOf (e : EnvelopeFieldsV1) : fieldsOfWire (wireOf e) = .ok e := by
  have refs : (e.artifactRefs.map ArtifactRef.toArtifactRefWire).tryMapInto
      (fun index r => (ArtifactRef.new r).mapError (EnvelopeError.badRef index)) =
      .ok e.artifactRefs := by
    apply BoundedVec.tryMapInto_map
    intro index r
    rw [ArtifactRef.new_self]
    rfl
  have receipt : readReceiptRef (e.providerExecutionReceiptRef.map ArtifactRef.toArtifactRefWire) =
      .ok e.providerExecutionReceiptRef := by
    cases e.providerExecutionReceiptRef with
    | none => rfl
    | some r =>
        rw [Option.map_some, readReceiptRef, ArtifactRef.new_self]
        rfl
  rw [fieldsOfWire]
  change (e.artifactRefs.map ArtifactRef.toArtifactRefWire).tryMapInto _ >>= _ = _
  rw [refs, ok_bind]
  change readReceiptRef (e.providerExecutionReceiptRef.map ArtifactRef.toArtifactRefWire) >>= _ = _
  rw [receipt]
  rfl

/-- A tree fit to stand as a field of an envelope. -/
structure Plain (t : Tree) : Prop where
  integral : t.integral = true
  shallow : nesting t ≤ 2
  clean : ∀ rule, ¬ Breaks 1 t rule

theorem clean_string {s : String} (short : byteLength s ≤ maxStringBytes) {frames : Nat}
    (room : frames + 1 ≤ maxJsonDepth) : ∀ rule, ¬ Breaks frames (.string s) rule := by
  rw [not_breaks_iff, ownFault, if_neg (by omega)]
  exact ⟨room, rfl, fun u member => absurd member List.not_mem_nil⟩

theorem clean_natural (n : Nat) {frames : Nat} (room : frames + 1 ≤ maxJsonDepth) :
    ∀ rule, ¬ Breaks frames (natural n) rule := by
  rw [not_breaks_iff]
  exact ⟨room, rfl, fun u member => absurd member List.not_mem_nil⟩

theorem plain_string {s : String} (short : byteLength s ≤ maxStringBytes) : Plain (.string s) :=
  ⟨rfl, Nat.zero_le _, clean_string short (by decide)⟩

theorem plain_natural {n : Nat} (small : n < 2 ^ 64) : Plain (natural n) := by
  refine ⟨?_, Nat.zero_le _, clean_natural n (by decide)⟩
  simp only [natural, Tree.integral, Bool.and_eq_true, decide_eq_true_eq]
  omega

theorem Id.plain (id : Id) : Plain (.string id.asStr) :=
  plain_string (id.bounded.trans (by decide))

theorem BoundedText.plain {max : Nat} (text : BoundedText max) : Plain (.string text.asStr) :=
  plain_string (text.bounded.trans (Nat.min_le_right _ _))

theorem WireDigest.plain (d : WireDigest) : Plain (.string d.asStr) :=
  plain_string (by rw [WireDigest.asStr_length]; decide)

theorem CommitId.plain (id : CommitId) : Plain (.string id.asStr) := by
  have full := id.full
  simp only [isFullCommitId, Bool.and_eq_true, Bool.or_eq_true, beq_iff_eq] at full
  have cap : maxStringBytes = 65536 := rfl
  exact plain_string (by omega)

theorem Timestamp.plain (t : Timestamp) : Plain (.string t.asStr) :=
  plain_string (t.bounded.trans (by decide))

theorem MessageKindV1.plain (kind : MessageKindV1) : Plain (.string kind.name) :=
  plain_string (kind.name_short.trans (by decide))

theorem ProducerRole.plain (role : ProducerRole) : Plain (.string role.name) :=
  plain_string (role.name_short.trans (by decide))

theorem ArtifactKindV1.plain (kind : ArtifactKindV1) : byteLength kind.name ≤ maxStringBytes :=
  kind.name_short.trans (by decide)

theorem ref_integral (r : ArtifactRefWire) : (refTree r).integral = true := by
  have size : (natural r.size.toNat).integral = true := (plain_natural r.size.toNat_lt).integral
  simp [refTree, Tree.integral, integralMembers, size]

theorem ref_nesting (r : ArtifactRefWire) : nesting (refTree r) = 1 := by
  simp [refTree, nesting, nestingMembers, natural]

theorem ref_clean (r : ArtifactRef) {frames : Nat} (room : frames + 2 ≤ maxJsonDepth) :
    ∀ rule, ¬ Breaks frames (refTree r.toArtifactRefWire) rule := by
  rw [not_breaks_iff]
  refine ⟨by omega, rfl, ?_⟩
  simp only [refTree, Tree.children, List.map_cons, List.map_nil, List.forall_mem_cons]
  refine ⟨clean_string (ArtifactKindV1.plain r.kind) (by omega), clean_string r.bounds.2.1 (by omega),
    clean_string (by rw [WireDigest.asStr_length]; decide) (by omega),
    clean_natural _ (by omega), ?_⟩
  intro u member
  cases member

theorem ref_plain (r : ArtifactRef) : Plain (refTree r.toArtifactRefWire) :=
  ⟨ref_integral _, by rw [ref_nesting]; decide, ref_clean r (by decide)⟩

theorem nestingElements_le {elements : List Tree} {n : Nat}
    (bound : ∀ t ∈ elements, nesting t ≤ n) : nestingElements elements ≤ n := by
  induction elements with
  | nil => exact Nat.zero_le n
  | cons t rest ih =>
      rw [List.forall_mem_cons] at bound
      exact max_le bound.1 (ih bound.2)

theorem nestingMembers_le {members : List (String × Tree)} {n : Nat}
    (bound : ∀ p ∈ members, nesting p.2 ≤ n) : nestingMembers members ≤ n := by
  induction members with
  | nil => exact Nat.zero_le n
  | cons p rest ih =>
      rw [List.forall_mem_cons] at bound
      exact max_le bound.1 (ih bound.2)

theorem refs_plain (v : BoundedVec ArtifactRef maxArtifactRefs) :
    Plain (.array (v.items.map fun r => refTree r.toArtifactRefWire)) := by
  constructor
  · rw [Tree.integral, integralElements_iff, List.forall_mem_map]
    exact fun r _ => ref_integral _
  · rw [nesting]
    apply Nat.succ_le_succ
    apply nestingElements_le
    rw [List.forall_mem_map]
    exact fun r _ => (ref_nesting _).le
  · rw [not_breaks_iff, ownFault, List.length_map, if_neg]
    · refine ⟨by decide, rfl, ?_⟩
      rw [Tree.children, List.forall_mem_map]
      exact fun r _ => ref_clean r (by decide)
    · exact Nat.not_lt.mpr (v.bounded.trans (Nat.min_le_right _ _))

theorem option_plain {α : Type} {write : α → Tree} (plain : ∀ a, Plain (write a)) (o : Option α) :
    ∀ t ∈ o.map write, Plain t := by
  intro t present
  rcases Option.map_eq_some_iff.mp present with ⟨a, _, same⟩
  rw [← same]
  exact plain a

theorem some_plain {t : Tree} (plain : Plain t) : ∀ u ∈ some t, Plain u := by
  intro u same
  rwa [← Option.some.inj same]

theorem encodedFields_plain (e : EnvelopeFieldsV1) :
    ∀ field ∈ e.encodedFields, ∀ t ∈ field.2, Plain t := by
  simp only [encodedFields, List.forall_mem_cons]
  have one : (1 : Nat) < 2 ^ 64 := by decide
  exact ⟨some_plain (plain_natural one), some_plain e.messageKind.plain,
    some_plain (plain_natural one), some_plain e.messageId.plain,
    some_plain e.rootGoalId.plain, some_plain e.taskId.plain, some_plain e.campaignId.plain,
    option_plain Id.plain _, option_plain Id.plain _, some_plain e.correlationId.plain,
    some_plain e.producerRole.plain, some_plain e.producerExecutionId.plain,
    some_plain e.producerAdapterVersion.plain, option_plain BoundedText.plain _,
    option_plain WireDigest.plain _, option_plain WireDigest.plain _,
    some_plain (WireDigest.plain _), option_plain CommitId.plain _, some_plain (WireDigest.plain _),
    some_plain (refs_plain _), option_plain ref_plain _, some_plain e.createdAt.plain,
    fun field member => absurd member List.not_mem_nil⟩

theorem encodedMembers_plain (e : EnvelopeFieldsV1) : ∀ member ∈ encodedMembers e, Plain member.2 := by
  intro member listed
  rcases List.mem_filterMap.mp listed with ⟨field, present, same⟩
  rcases Option.map_eq_some_iff.mp same with ⟨t, value, made⟩
  rw [← made]
  exact encodedFields_plain e field present t value

theorem encodedTree_integral (e : EnvelopeFieldsV1) : e.encodedTree.integral = true :=
  integralMembers_iff.mpr fun member listed => (encodedMembers_plain e member listed).integral

theorem encodedTree_nesting (e : EnvelopeFieldsV1) : nesting e.encodedTree ≤ readerNesting := by
  have inner : nestingMembers (encodedMembers e) ≤ 2 :=
    nestingMembers_le fun member listed => (encodedMembers_plain e member listed).shallow
  have outer : nesting e.encodedTree = nestingMembers (encodedMembers e) + 1 := rfl
  have limit : readerNesting = 127 := rfl
  omega

theorem encodedTree_clean (e : EnvelopeFieldsV1) : ∀ rule, ¬ Breaks 0 e.encodedTree rule := by
  rw [not_breaks_iff]
  refine ⟨by decide, rfl, ?_⟩
  intro u below
  rcases List.mem_map.mp below with ⟨member, listed, same⟩
  rw [← same]
  exact (encodedMembers_plain e member listed).clean

theorem compact_object_lead (members : List (String × Tree)) :
    (Tree.object members).compact.head? = some '{' := by
  cases members <;> rfl

theorem admitDocument_encoded {e : EnvelopeFieldsV1} {bytes : List UInt8}
    (encodes : e.encode = .ok bytes) : admitDocument bytes maxControlArtifactBytes = .ok () := by
  rcases encode_ok_iff.mp encodes with ⟨same, short⟩
  rcases compact_document e.encodedTree (encodedTree_integral e) with ⟨v, document, denotes⟩
  let text := String.ofList e.encodedTree.compact
  have chars : text.toList = e.encodedTree.compact := String.toList_ofList
  have lead : text.toList.head? = some '{' := by
    rw [chars]
    exact compact_object_lead _
  have scanned : (Scanner.new text).run = .ok () := by
    rw [← chars] at document
    rw [Scanner.run_ok_iff document, ← isObject_tree denotes, admissible_tree denotes]
    exact ⟨rfl, encodedTree_clean e⟩
  have decoded : fromUtf8 bytes = some text := by rw [← same, fromUtf8_utf8]
  rw [admitDocument, refuseIf, if_neg (by omega), ok_bind, decoded]
  simp only [lead, refuseIf, scanned]
  rfl

theorem fromBytes_encoded (reader : Reader) {e : EnvelopeV1} {bytes : List UInt8}
    (encodes : e.fields.encode = .ok bytes) : fromBytes reader bytes = .ok e := by
  have same := (encode_ok_iff.mp encodes).1
  have parsed : reader.parse bytes = .ok e.fields.encodedTree := by
    rw [← same]
    exact reader.reads _ (encodedTree_integral _) (encodedTree_nesting _)
  have wire : (reader.parse bytes).toOption.bind readEnvelope = some (wireOf e.fields) := by
    rw [parsed]
    exact readEnvelope_encodedTree e.fields
  rw [fromBytes, wire]
  simp only [ok_bind, fieldsOfWire_wireOf, Except.mapError, EnvelopeV1.new_fields]

theorem parseArtifact_encoded (reader : Reader) {e : EnvelopeV1} {bytes : List UInt8}
    (encodes : e.fields.encode = .ok bytes) : parseArtifact reader bytes = .ok e := by
  rw [parseArtifact, admitDocument_encoded encodes, ok_bind, fromBytes_encoded reader encodes,
    ok_bind, e.valid]
  rfl

/-- What the producer writes, the inbound door reads back as the same envelope. -/
theorem parseArtifact_toWireBytes (reader : Reader) (f : EnvelopeFieldsV1) (e : EnvelopeV1)
    (made : EnvelopeV1.new f = .ok e) :
    e.fields = f ∧ ∃ bytes, e.toWireBytes = .ok bytes ∧ bytes.length ≤ maxControlArtifactBytes ∧
      parseArtifact reader bytes = .ok e := by
  rcases e.encodes with ⟨bytes, encodes⟩
  exact ⟨EnvelopeV1.new_ok made, bytes, encodes, (encode_ok_iff.mp encodes).2,
    parseArtifact_encoded reader encodes⟩

theorem parseArtifact_toWireBytes_coderReport :
    Sample.receiptReport.fields = Sample.coderReport Sample.receipt ∧ ∃ bytes, Sample.receiptReport.toWireBytes = .ok bytes ∧
      bytes.length ≤ maxControlArtifactBytes ∧
      parseArtifact compactReader bytes = .ok Sample.receiptReport :=
  parseArtifact_toWireBytes compactReader (Sample.coderReport Sample.receipt) Sample.receiptReport
    (EnvelopeV1.new_fields Sample.receiptReport)

end O7Formal.Contracts
