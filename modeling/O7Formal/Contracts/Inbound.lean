import O7Formal.Contracts.Wire
import O7Formal.Lib.JsonOrder
import O7Formal.Lib.JsonWidth

/-! The inbound door against the encoder. An admitted envelope is encoded again, and its encoding
takes what the compact text of its document takes, but for the references that the document writes
as arrays: those are encoded as objects. -/

namespace O7Formal.Contracts

open ByteCodec Fallible Utf8 Json EnvelopeRecord

def fieldWidth (field : String × Option Tree) : Nat :=
  (field.2.map fun t => memberWidth (field.1, t)).getD 0

def present (fields : List (String × Option Tree)) : List (String × Tree) :=
  fields.filterMap fun field => field.2.map fun t => (field.1, t)

theorem present_width (fields : List (String × Option Tree)) :
    ((present fields).map memberWidth).sum = (fields.map fieldWidth).sum := by
  induction fields with
  | nil => rfl
  | cons field rest ih =>
      rcases field with ⟨name, value⟩
      unfold present at ih ⊢
      cases value with
      | none => simpa [fieldWidth] using ih
      | some t => simpa [fieldWidth] using ih

def fieldsOf (names : List String) (members : List (String × Tree)) :
    List (String × Option Tree) :=
  names.map fun name => (name, members.lookup name)

theorem lookup_of_mem {members : List (String × Tree)} (distinct : (members.map Prod.fst).Nodup)
    {p : String × Tree} (member : p ∈ members) : members.lookup p.1 = some p.2 := by
  cases found : members.lookup p.1 with
  | none => exact absurd (List.mem_map_of_mem member) (lookup_none_iff.mp found)
  | some t => rw [member_unique distinct (lookup_mem found) member]

theorem readMembers_perm {names : List String} {members listed : List (String × Tree)}
    (nodup : names.Nodup) (read : readMembers names members = some listed) :
    listed = members ∧ members.Perm (present (fieldsOf names members)) := by
  unfold readMembers at read
  split_ifs at read with known
  refine ⟨(Option.some.inj read).symm, ?_⟩
  have named : (present (fieldsOf names members)).Nodup := by
    refine (nodup.map (f := fun name => (name, members.lookup name)) ?_).filterMap ?_
    · intro a b same
      exact congrArg Prod.fst same
    · intro a b p left right
      rcases Option.map_eq_some_iff.mp left with ⟨t, here, rfl⟩
      rcases Option.map_eq_some_iff.mp right with ⟨u, there, same⟩
      exact Prod.ext (congrArg Prod.fst same).symm
        (here.trans ((congrArg some (congrArg Prod.snd same).symm).trans there.symm))
  refine (List.perm_ext_iff_of_nodup (List.Nodup.of_map _ known.1) named).mpr ?_
  intro p
  simp only [present, fieldsOf, List.mem_filterMap, List.mem_map, exists_exists_and_eq_and,
    Option.map_eq_some_iff]
  constructor
  · intro member
    exact ⟨p.1, known.2 p member, p.2, lookup_of_mem known.1 member, rfl⟩
  · rintro ⟨name, _, t, found, rfl⟩
    exact lookup_mem found

theorem readMembers_width {names : List String} {members listed : List (String × Tree)}
    (nodup : names.Nodup) (read : readMembers names members = some listed) (some : members ≠ []) :
    (Tree.object members).bytes.length = ((fieldsOf names members).map fieldWidth).sum + 1 := by
  have same := ((readMembers_perm nodup read).2.map memberWidth).sum_eq
  rw [object_length some, same, present_width]

theorem readText_eq {α : Type} {parse : String → Except ScalarError α} {text : α → String}
    (keeps : ∀ s a, parse s = .ok a → text a = s) {t : Tree} {a : α}
    (read : readText parse t = some a) : t = .string (text a) := by
  cases t with
  | string s =>
      rw [readText] at read
      cases parsed : parse s with
      | error e =>
          rw [parsed] at read
          cases read
      | ok b =>
          rw [parsed] at read
          cases read
          rw [keeps s _ parsed]
  | _ => cases read

theorem byName_eq {α : Type} {all : List α} {name : α → String} (s : String) (a : α)
    (found : byName all name s = some a) : name a = s := by
  have same := List.find?_some (p := fun candidate => name candidate == s) found
  exact eq_of_beq same

theorem readName_eq {α : Type} {ofName : String → Option α} {name : α → String}
    (keeps : ∀ s a, ofName s = some a → name a = s) {t : Tree} {a : α}
    (read : readName ofName t = some a) : t = .string (name a) := by
  cases t with
  | string s => rw [keeps s a read]
  | _ => cases read

theorem readVersion_eq {v : Nat} {t : Tree} {a : FrozenVersion v} (read : readVersion v t = some a) :
    t = natural a.get := by
  cases t with
  | number n =>
      cases n with
      | integer n =>
          rw [readVersion] at read
          split_ifs at read with same
          rw [same]
          rfl
      | float literal => cases read
  | _ => cases read

theorem readU64_eq {t : Tree} {n : UInt64} (read : readU64 t = some n) : t = natural n.toNat := by
  cases t with
  | number m =>
      cases m with
      | integer m =>
          rw [readU64] at read
          split_ifs at read with range
          cases read
          rw [natural, UInt64.toNat_ofNat_of_lt' (by change m.toNat < 2 ^ 64; omega),
            Int.toNat_of_nonneg range.1]
      | float literal => cases read
  | _ => cases read

theorem required_eq {α : Type} {read : Tree → Option α} {write : α → Tree}
    (keeps : ∀ t a, read t = some a → t = write a) {members : List (String × Tree)} {name : String}
    {a : α} (found : required read members name = some a) :
    members.lookup name = some (write a) := by
  rcases Option.bind_eq_some_iff.mp found with ⟨t, listed, isRead⟩
  rw [listed, keeps t a isRead]

theorem optional_eq {α : Type} {read : Tree → Option α} {write : α → Tree}
    (keeps : ∀ t a, read t = some a → t = write a) {members : List (String × Tree)} {name : String}
    {o : Option α} (found : optional read members name = some o) :
    members.lookup name = o.map write := by
  unfold optional at found
  cases listed : members.lookup name with
  | none =>
      rw [listed] at found
      cases found
      rfl
  | some t =>
      rw [listed] at found
      rcases Option.map_eq_some_iff.mp found with ⟨a, isRead, rfl⟩
      rw [keeps t a isRead]
      rfl

theorem ArtifactKindV1.ofName_eq (s : String) (kind : ArtifactKindV1)
    (found : ofName s = some kind) : kind.name = s :=
  byName_eq s kind found

theorem MessageKindV1.ofName_eq (s : String) (kind : MessageKindV1)
    (found : ofName s = some kind) : kind.name = s :=
  byName_eq s kind found

theorem ProducerRole.ofName_eq (s : String) (role : ProducerRole)
    (found : ofName s = some role) : role.name = s :=
  byName_eq s role found

theorem Id.parse_eq (s : String) (id : Id) (parsed : Id.parse s = .ok id) : id.asStr = s := by
  unfold Id.parse at parsed
  split_ifs at parsed
  cases parsed
  rfl

theorem BoundedText.parse_eq {max : Nat} (s : String) (text : BoundedText max)
    (parsed : BoundedText.parse max s = .ok text) : text.asStr = s := by
  unfold BoundedText.parse at parsed
  split_ifs at parsed
  cases parsed
  rfl

theorem CommitId.parse_eq (s : String) (id : CommitId) (parsed : CommitId.parse s = .ok id) :
    id.asStr = s := by
  unfold CommitId.parse at parsed
  split_ifs at parsed
  cases parsed
  rfl

theorem Timestamp.parse_eq (s : String) (time : Timestamp) (parsed : Timestamp.parse s = .ok time) :
    time.asStr = s := by
  unfold Timestamp.parse at parsed
  split_ifs at parsed
  cases parsed
  rfl

theorem WireDigest.parse_eq (s : String) (d : WireDigest) (parsed : WireDigest.parse s = .ok d) :
    d.asStr = s := by
  unfold WireDigest.parse at parsed
  split_ifs at parsed
  cases parsed
  rfl

def isPositional : Tree → Bool
  | .array _ => true
  | _ => false

def refNames : List String := ["kind", "media_type", "digest", "size"]

def refFields (r : ArtifactRefWire) : List (String × Option Tree) :=
  [("kind", some (.string r.kind.name)), ("media_type", some (.string r.mediaType)),
    ("digest", some (.string r.digest.asStr)), ("size", some (natural r.size.toNat))]

theorem refTree_length (r : ArtifactRefWire) :
    (refTree r).bytes.length = ((refFields r).map fieldWidth).sum + 1 := by
  rw [refTree, object_length (List.cons_ne_nil _ _)]
  rfl

theorem mediaType_eq (s text : String) (same : (Except.ok s : Except ScalarError String) = .ok text) :
    id text = s := (Except.ok.inj same).symm

theorem readRef_width {t : Tree} {r : ArtifactRefWire} (read : readRef t = some r) :
    (refTree r).bytes.length = t.bytes.length + if isPositional t then 36 else 0 := by
  rw [refTree_length]
  unfold readRef at read
  split at read
  · rename_i members
    simp only [Option.bind_eq_bind, Option.bind_eq_some_iff, Option.pure_def, Option.some.injEq]
      at read
    rcases read with ⟨listed, known, kind, hasKind, mediaType, hasMedia, digest, hasDigest, size,
      hasSize, rfl⟩
    rcases (readMembers_perm (by decide) known).1 with rfl
    have fields : fieldsOf refNames listed = refFields ⟨kind, mediaType, digest, size⟩ := by
      simp only [fieldsOf, refNames, List.map_cons, List.map_nil, refFields,
        required_eq (fun _ _ => readName_eq ArtifactKindV1.ofName_eq) hasKind,
        required_eq (fun _ _ => readText_eq mediaType_eq) hasMedia,
        required_eq (fun _ _ => readText_eq WireDigest.parse_eq) hasDigest,
        required_eq (fun _ _ => readU64_eq) hasSize, id]
    have some : listed ≠ [] := by
      rintro rfl
      cases hasKind
    have width := readMembers_width (by decide) known some
    rw [← refNames, fields] at width
    exact width.symm
  · rename_i kindTree mediaTree digestTree sizeTree
    simp only [Option.bind_eq_bind, Option.bind_eq_some_iff, Option.pure_def, Option.some.injEq]
      at read
    rcases read with ⟨kind, hasKind, mediaType, hasMedia, digest, hasDigest, size, hasSize, rfl⟩
    rw [array_length (List.cons_ne_nil _ _), readName_eq ArtifactKindV1.ofName_eq hasKind,
      readText_eq mediaType_eq hasMedia, readText_eq WireDigest.parse_eq hasDigest,
      readU64_eq hasSize]
    have names : (quoteBytes "kind").length = 6 ∧ (quoteBytes "media_type").length = 12 ∧
        (quoteBytes "digest").length = 8 ∧ (quoteBytes "size").length = 6 := by decide +kernel
    simp only [refFields, fieldWidth, memberWidth, elementWidth, Option.map_some, Option.getD_some,
      List.map_cons, List.map_nil, List.sum_cons, List.sum_nil, names, isPositional, if_true, id]
    omega
  · cases read

def positionalRefs : Option Tree → Nat
  | some (.array items) => items.countP isPositional
  | _ => 0

def positional : Tree → Nat
  | .object members =>
      positionalRefs (members.lookup "artifact_refs") +
        if (members.lookup "provider_execution_receipt_ref").any isPositional then 1 else 0
  | _ => 0

theorem mapM_readRef_width {items : List Tree} {refs : List ArtifactRefWire}
    (read : items.mapM readRef = some refs) :
    ((refs.map refTree).map elementWidth).sum =
      (items.map elementWidth).sum + 36 * items.countP isPositional := by
  induction items generalizing refs with
  | nil =>
      cases read
      rfl
  | cons t rest ih =>
      simp only [List.mapM_cons, Option.bind_eq_bind, Option.bind_eq_some_iff, Option.pure_def,
        Option.some.injEq] at read
      rcases read with ⟨r, here, others, later, rfl⟩
      have first := readRef_width here
      have below := ih later
      simp only [List.map_cons, List.sum_cons, elementWidth, List.countP_cons] at below ⊢
      split_ifs at first ⊢ <;> omega

theorem readRefs_width {t : Tree} {refs : BoundedVec ArtifactRefWire maxArtifactRefs}
    (read : readRefs t = some refs) :
    (Tree.array (refs.items.map refTree)).bytes.length =
      t.bytes.length + 36 * positionalRefs (some t) := by
  unfold readRefs at read
  split at read
  · rename_i items
    split_ifs at read
    rcases Option.bind_eq_some_iff.mp read with ⟨listed, mapped, bounded⟩
    have same : refs.items = listed := by
      unfold BoundedVec.new at bounded
      split_ifs at bounded
      · cases bounded
        rfl
      · cases bounded
    have width := mapM_readRef_width mapped
    rw [same, positionalRefs]
    cases items with
    | nil =>
        cases mapped
        rfl
    | cons first rest =>
        have some : listed.map refTree ≠ [] := by
          intro none
          rw [none, List.map_nil, List.sum_nil, List.map_cons, List.sum_cons, elementWidth] at width
          omega
        rw [array_length some, array_length (List.cons_ne_nil _ _), width]
        omega
  · cases read

theorem encodedTree_length (e : EnvelopeFieldsV1) :
    e.encodedTree.bytes.length = (e.encodedFields.map fieldWidth).sum + 1 := by
  have some : encodedMembers e ≠ [] := List.cons_ne_nil _ _
  calc e.encodedTree.bytes.length
      = (Tree.object (encodedMembers e)).bytes.length := rfl
    _ = ((encodedMembers e).map memberWidth).sum + 1 := object_length some
    _ = (e.encodedFields.map fieldWidth).sum + 1 := congrArg (· + 1) (present_width _)

theorem WireDigest.quoteBytes_length (d : WireDigest) : (quoteBytes d.asStr).length = 66 := by
  have canonical := d.canonical
  simp only [Run.isCanonicalHex, Bool.and_eq_true, List.all_eq_true] at canonical
  have unescaped : ∀ c ∈ d.asStr.toList, escape c = [c] := by
    intro c member
    apply escape_unescaped
    by_cases low : IsAscii c
    · have byte : c.toUInt8 ∈ utf8Bytes d.asStr := by
        refine List.mem_flatMap.mpr ⟨c, member, ?_⟩
        rw [utf8EncodeChar_ascii low]
        exact List.mem_singleton_self _
      have hex := canonical.2 _ byte
      revert hex
      exact ascii_forall (motive := fun c => isHexByte c.toUInt8 = true → Unescaped c)
        (by unfold Unescaped; decide +kernel) low
    · have high : 0x80 ≤ c.toNat := Nat.le_of_not_lt low
      refine ⟨by omega, ?_, ?_⟩
      · rintro rfl
        exact absurd high (by decide)
      · rintro rfl
        exact absurd high (by decide)
  have length := WireDigest.asStr_length d
  rw [Json.quoteBytes_length unescaped]
  exact congrArg (· + 2) length

theorem encodedTree_payloadDigest (e : EnvelopeFieldsV1) (d : WireDigest) :
    ({ e with payloadDigest := d } : EnvelopeFieldsV1).encodedTree.bytes.length =
      e.encodedTree.bytes.length := by
  rw [encodedTree_length, encodedTree_length]
  simp only [encodedFields, List.map_cons, List.sum_cons, fieldWidth, memberWidth, Option.map_some,
    Option.getD_some, Tree.bytes, WireDigest.quoteBytes_length]

theorem framedPreimage_payloadDigest (e : EnvelopeFieldsV1) (d : WireDigest) :
    ({ e with payloadDigest := d } : EnvelopeFieldsV1).framedPreimage.length =
      e.framedPreimage.length := by
  have digests : ∀ d : WireDigest, (frameStr d.asStr).length = 72 := by
    intro d
    have length : (utf8Bytes d.asStr).length = 64 := WireDigest.asStr_length d
    rw [frameStr, frame, List.length_append, leBytes_length, length]
  simp only [framedPreimage, List.length_append, digests]

structure Reads (members : List (String × Tree)) (w : EnvelopeWireV1) : Prop where
  names : readMembers envelopeNames members = some members
  envelopeVersion : members.lookup "envelope_version" = some (natural w.envelopeVersion.get)
  messageKind : members.lookup "message_kind" = some (.string w.messageKind.name)
  messageKindVersion :
    members.lookup "message_kind_version" = some (natural w.messageKindVersion.get)
  messageId : members.lookup "message_id" = some (.string w.messageId.asStr)
  rootGoalId : members.lookup "root_goal_id" = some (.string w.rootGoalId.asStr)
  taskId : members.lookup "task_id" = some (.string w.taskId.asStr)
  campaignId : members.lookup "campaign_id" = some (.string w.campaignId.asStr)
  roundId : members.lookup "round_id" = w.roundId.map fun id => .string id.asStr
  causationId : members.lookup "causation_id" = w.causationId.map fun id => .string id.asStr
  correlationId : members.lookup "correlation_id" = some (.string w.correlationId.asStr)
  producerRole : members.lookup "producer_role" = some (.string w.producerRole.name)
  producerExecutionId :
    members.lookup "producer_execution_id" = some (.string w.producerExecutionId.asStr)
  producerAdapterVersion :
    members.lookup "producer_adapter_version" = some (.string w.producerAdapterVersion.asStr)
  modelIdentity :
    members.lookup "model_identity" = w.modelIdentity.map fun text => .string text.asStr
  promptDigest :
    members.lookup "prompt_digest" = w.promptDigest.map fun digest => .string digest.asStr
  toolPolicyDigest :
    members.lookup "tool_policy_digest" = w.toolPolicyDigest.map fun digest => .string digest.asStr
  contractDigest : members.lookup "contract_digest" = some (.string w.contractDigest.asStr)
  expectedInputHead :
    members.lookup "expected_input_head" = w.expectedInputHead.map fun id => .string id.asStr
  payloadDigest : members.lookup "payload_digest" = some (.string w.payloadDigest.asStr)
  artifactRefs : required readRefs members "artifact_refs" = some w.artifactRefs
  providerExecutionReceiptRef : optional readRef members "provider_execution_receipt_ref" =
    some w.providerExecutionReceiptRef
  createdAt : members.lookup "created_at" = some (.string w.createdAt.asStr)

theorem readEnvelope_reads {t : Tree} {w : EnvelopeWireV1} (read : readEnvelope t = some w) :
    ∃ members, t = .object members ∧ Reads members w := by
  unfold readEnvelope at read
  split at read
  · rename_i members
    rcases Option.bind_eq_some_iff.mp read with ⟨listed, known, read⟩
    rcases Option.bind_eq_some_iff.mp read with ⟨version, hasVersion, read⟩
    rcases Option.bind_eq_some_iff.mp read with ⟨kind, hasKind, read⟩
    rcases Option.bind_eq_some_iff.mp read with ⟨kindVersion, hasKindVersion, read⟩
    rcases Option.bind_eq_some_iff.mp read with ⟨messageId, hasMessage, read⟩
    rcases Option.bind_eq_some_iff.mp read with ⟨goal, hasGoal, read⟩
    rcases Option.bind_eq_some_iff.mp read with ⟨task, hasTask, read⟩
    rcases Option.bind_eq_some_iff.mp read with ⟨campaign, hasCampaign, read⟩
    rcases Option.bind_eq_some_iff.mp read with ⟨round, hasRound, read⟩
    rcases Option.bind_eq_some_iff.mp read with ⟨causation, hasCausation, read⟩
    rcases Option.bind_eq_some_iff.mp read with ⟨correlation, hasCorrelation, read⟩
    rcases Option.bind_eq_some_iff.mp read with ⟨role, hasRole, read⟩
    rcases Option.bind_eq_some_iff.mp read with ⟨execution, hasExecution, read⟩
    rcases Option.bind_eq_some_iff.mp read with ⟨adapter, hasAdapter, read⟩
    rcases Option.bind_eq_some_iff.mp read with ⟨model, hasModel, read⟩
    rcases Option.bind_eq_some_iff.mp read with ⟨prompt, hasPrompt, read⟩
    rcases Option.bind_eq_some_iff.mp read with ⟨policy, hasPolicy, read⟩
    rcases Option.bind_eq_some_iff.mp read with ⟨contract, hasContract, read⟩
    rcases Option.bind_eq_some_iff.mp read with ⟨head, hasHead, read⟩
    rcases Option.bind_eq_some_iff.mp read with ⟨payload, hasPayload, read⟩
    rcases Option.bind_eq_some_iff.mp read with ⟨refs, hasRefs, read⟩
    rcases Option.bind_eq_some_iff.mp read with ⟨receipt, hasReceipt, read⟩
    rcases Option.bind_eq_some_iff.mp read with ⟨time, hasTime, read⟩
    cases read
    rcases (readMembers_perm envelopeNames_nodup known).1 with rfl
    have ids : ∀ (t : Tree) (id : Id), readText Id.parse t = some id → t = .string id.asStr :=
      fun _ _ => readText_eq Id.parse_eq
    have texts : ∀ (max : Nat) (t : Tree) (text : BoundedText max),
        readText (BoundedText.parse max) t = some text → t = .string text.asStr :=
      fun _ _ _ => readText_eq BoundedText.parse_eq
    have digests : ∀ (t : Tree) (d : WireDigest),
        readText WireDigest.parse t = some d → t = .string d.asStr :=
      fun _ _ => readText_eq WireDigest.parse_eq
    exact ⟨listed, rfl, {
      names := known
      envelopeVersion := required_eq (fun _ _ => readVersion_eq) hasVersion
      messageKind := required_eq (fun _ _ => readName_eq MessageKindV1.ofName_eq) hasKind
      messageKindVersion := required_eq (fun _ _ => readVersion_eq) hasKindVersion
      messageId := required_eq ids hasMessage
      rootGoalId := required_eq ids hasGoal
      taskId := required_eq ids hasTask
      campaignId := required_eq ids hasCampaign
      roundId := optional_eq ids hasRound
      causationId := optional_eq ids hasCausation
      correlationId := required_eq ids hasCorrelation
      producerRole := required_eq (fun _ _ => readName_eq ProducerRole.ofName_eq) hasRole
      producerExecutionId := required_eq ids hasExecution
      producerAdapterVersion := required_eq (texts _) hasAdapter
      modelIdentity := optional_eq (texts _) hasModel
      promptDigest := optional_eq digests hasPrompt
      toolPolicyDigest := optional_eq digests hasPolicy
      contractDigest := required_eq digests hasContract
      expectedInputHead := optional_eq (fun _ _ => readText_eq CommitId.parse_eq) hasHead
      payloadDigest := required_eq digests hasPayload
      artifactRefs := hasRefs
      providerExecutionReceiptRef := hasReceipt
      createdAt := required_eq (fun _ _ => readText_eq Timestamp.parse_eq) hasTime }⟩
  · cases read

theorem ArtifactRef.new_wire {r : ArtifactRefWire} {reference : ArtifactRef}
    (made : ArtifactRef.new r = .ok reference) : reference.toArtifactRefWire = r := by
  unfold ArtifactRef.new at made
  split at made
  · cases made
    rfl
  · cases made

theorem tryMapFrom_back {α β ε : Type} {convert : Nat → α → Except ε β} {back : β → α}
    (keeps : ∀ index a b, convert index a = .ok b → back b = a) {items : List α} {out : List β}
    {index : Nat} (mapped : tryMapFrom convert index items = .ok out) : out.map back = items := by
  induction items generalizing index out with
  | nil =>
      cases mapped
      rfl
  | cons item rest ih =>
      simp only [tryMapFrom, bind_ok_iff, pure_ok_iff] at mapped
      rcases mapped with ⟨first, here, others, later, rfl⟩
      rw [List.map_cons, keeps index item first here, ih later]

theorem BoundedVec.tryMapInto_back {α β ε : Type} {max : Nat} {convert : Nat → α → Except ε β}
    {back : β → α} (keeps : ∀ index a b, convert index a = .ok b → back b = a)
    {v : BoundedVec α max} {out : BoundedVec β max} (mapped : v.tryMapInto convert = .ok out) :
    out.items.map back = v.items := by
  unfold tryMapInto at mapped
  split at mapped
  · rename_i items ran
    cases mapped
    exact tryMapFrom_back keeps ran
  · cases mapped

theorem readReceiptRef_back {o : Option ArtifactRefWire} {receipt : Option ArtifactRef}
    (read : readReceiptRef o = .ok receipt) : receipt.map ArtifactRef.toArtifactRefWire = o := by
  cases o with
  | none =>
      cases read
      rfl
  | some w =>
      rcases map_ok_iff.mp read with ⟨reference, made, rfl⟩
      exact congrArg some (ArtifactRef.new_wire (mapError_ok_iff.mp made))

theorem fieldsOfWire_ok {w : EnvelopeWireV1} {f : EnvelopeFieldsV1}
    (converted : fieldsOfWire w = .ok f) :
    f = w.withRefs f.artifactRefs f.providerExecutionReceiptRef ∧
      f.artifactRefs.items.map ArtifactRef.toArtifactRefWire = w.artifactRefs.items ∧
      f.providerExecutionReceiptRef.map ArtifactRef.toArtifactRefWire =
        w.providerExecutionReceiptRef := by
  rcases bind_ok_iff.mp converted with ⟨refs, mapped, rest⟩
  rcases bind_ok_iff.mp rest with ⟨receipt, read, same⟩
  cases same
  refine ⟨rfl, BoundedVec.tryMapInto_back ?_ mapped, readReceiptRef_back read⟩
  intro index r reference made
  exact ArtifactRef.new_wire (mapError_ok_iff.mp made)

theorem refs_width {members : List (String × Tree)} {w : EnvelopeWireV1} (reads : Reads members w) :
    fieldWidth ("artifact_refs", some (.array (w.artifactRefs.items.map refTree))) =
      fieldWidth ("artifact_refs", members.lookup "artifact_refs") +
        36 * positionalRefs (members.lookup "artifact_refs") := by
  rcases Option.bind_eq_some_iff.mp reads.artifactRefs with ⟨t, listed, read⟩
  have width := readRefs_width read
  rw [listed]
  simp only [fieldWidth, Option.map_some, Option.getD_some, memberWidth]
  omega

theorem receipt_width {members : List (String × Tree)} {w : EnvelopeWireV1}
    (reads : Reads members w) :
    fieldWidth ("provider_execution_receipt_ref", w.providerExecutionReceiptRef.map refTree) =
      fieldWidth ("provider_execution_receipt_ref",
          members.lookup "provider_execution_receipt_ref") +
        if (members.lookup "provider_execution_receipt_ref").any isPositional then 36 else 0 := by
  have read := reads.providerExecutionReceiptRef
  unfold optional at read
  cases listed : members.lookup "provider_execution_receipt_ref" with
  | none =>
      rw [listed] at read
      rw [← Option.some.inj read]
      rfl
  | some t =>
      rw [listed] at read
      rcases Option.map_eq_some_iff.mp read with ⟨r, isRead, same⟩
      have width := readRef_width isRead
      rw [← same]
      simp only [fieldWidth, Option.map_some, Option.getD_some, memberWidth, Option.any_some]
      omega

theorem encodedTree_width {t : Tree} {w : EnvelopeWireV1} {f : EnvelopeFieldsV1}
    (read : readEnvelope t = some w) (converted : fieldsOfWire w = .ok f) :
    f.encodedTree.bytes.length = t.bytes.length + 36 * positional t := by
  rcases readEnvelope_reads read with ⟨members, rfl, reads⟩
  rcases fieldsOfWire_ok converted with ⟨same, refs, receipt⟩
  have someRead : members ≠ [] := by
    rintro rfl
    cases reads.createdAt
  have refsTree : (f.artifactRefs.items.map fun r => refTree r.toArtifactRefWire) =
      w.artifactRefs.items.map refTree := by
    rw [← refs, List.map_map]
    rfl
  have receiptTree : (f.providerExecutionReceiptRef.map fun r => refTree r.toArtifactRefWire) =
      w.providerExecutionReceiptRef.map refTree := by
    rw [← receipt, Option.map_map]
    rfl
  have refsWidth := refs_width reads
  have receiptWidth := receipt_width reads
  rw [encodedTree_length, readMembers_width envelopeNames_nodup reads.names someRead, positional]
  simp only [encodedFields, refsTree, receiptTree]
  rw [same]
  simp only [fieldsOf, envelopeNames, List.map_cons, List.map_nil, List.sum_cons, List.sum_nil,
    EnvelopeRecord.withRefs, reads.envelopeVersion, reads.messageKind, reads.messageKindVersion,
    reads.messageId, reads.rootGoalId, reads.taskId, reads.campaignId, reads.roundId,
    reads.causationId, reads.correlationId, reads.producerRole, reads.producerExecutionId,
    reads.producerAdapterVersion, reads.modelIdentity, reads.promptDigest, reads.toolPolicyDigest,
    reads.contractDigest, reads.expectedInputHead, reads.payloadDigest, reads.createdAt, refsWidth,
    receiptWidth]
  split_ifs <;> omega

theorem compact_le (reader : Reader) {bytes : List UInt8} {t : Tree} {max : Nat}
    (admitted : admitDocument bytes max = .ok ()) (parsed : reader.parse bytes = .ok t) :
    t.bytes.length ≤ bytes.length := by
  rcases bind_ok_iff.mp admitted with ⟨_, _, scanned⟩
  cases decoded : fromUtf8 bytes with
  | none =>
      rw [decoded] at scanned
      cases scanned
  | some text =>
      have same := fromUtf8_some decoded
      rw [same] at parsed
      rcases reader.sound text.toList t parsed with ⟨v, document, denotes⟩
      rw [same]
      exact document.bytes_le denotes

theorem new_ok_iff {f : EnvelopeFieldsV1} (valid : f.validate = .ok ()) :
    (∃ e, EnvelopeV1.new f = .ok e) ↔ f.encodedTree.bytes.length ≤ maxControlArtifactBytes := by
  constructor
  · rintro ⟨e, made⟩
    rcases e.encodes with ⟨bytes, encoded⟩
    rw [EnvelopeV1.new_ok made] at encoded
    rcases encode_ok_iff.mp encoded with ⟨rfl, short⟩
    rwa [utf8_compact] at short
  · intro short
    have encoded := encode_of_bytes short
    exact ⟨⟨f, valid, _, encoded⟩, EnvelopeV1.new_fields ⟨f, valid, _, encoded⟩⟩

/-- A document that passes every check of its content is refused only for the length of its
encoding: the compact text of the document, with every reference spelled as an object. Where the
references of the document are objects, it is never refused. -/
theorem parseArtifact_admits (reader : Reader) {bytes : List UInt8} {t : Tree}
    {wire : EnvelopeWireV1} {f : EnvelopeFieldsV1}
    (admitted : admitDocument bytes maxControlArtifactBytes = .ok ())
    (parsed : reader.parse bytes = .ok t) (typed : readEnvelope t = some wire)
    (converted : fieldsOfWire wire = .ok f) (valid : f.validate = .ok ()) :
    ((∃ e, parseArtifact reader bytes = .ok e) ↔
      t.bytes.length + 36 * positional t ≤ maxControlArtifactBytes) ∧
      t.bytes.length ≤ bytes.length ∧
      (positional t = 0 → ∃ e, parseArtifact reader bytes = .ok e) ∧
      ∀ e, parseArtifact reader bytes = .ok e → e.fields = f := by
  have opened : parseArtifact reader bytes = (do
      let parsed ← (EnvelopeV1.new f).mapError fun e => ParseError.invalid e.text
      parsed.fields.validate.mapError fun e => ParseError.invalid e.text
      return parsed) := by
    rw [parseArtifact, admitted, ok_bind, fromBytes, parsed]
    simp only [Except.toOption, Option.bind_some, typed, ok_bind, converted, Except.mapError]
  have fields : ∀ e, parseArtifact reader bytes = .ok e → EnvelopeV1.new f = .ok e := by
    intro e done
    rw [opened] at done
    rcases bind_ok_iff.mp done with ⟨e', made, rest⟩
    rcases bind_ok_iff.mp rest with ⟨_, _, same⟩
    cases same
    exact mapError_ok_iff.mp made
  have short : t.bytes.length ≤ bytes.length := compact_le reader admitted parsed
  have accepts : (∃ e, parseArtifact reader bytes = .ok e) ↔
      t.bytes.length + 36 * positional t ≤ maxControlArtifactBytes := by
    rw [← encodedTree_width typed converted, ← new_ok_iff valid]
    constructor
    · rintro ⟨e, done⟩
      exact ⟨e, fields e done⟩
    · rintro ⟨e, made⟩
      refine ⟨e, ?_⟩
      rw [opened, made]
      simp only [Except.mapError, ok_bind, e.valid]
      rfl
  refine ⟨accepts, short, fun named => ?_, fun e done => EnvelopeV1.new_ok (fields e done)⟩
  rcases bind_ok_iff.mp admitted with ⟨_, sized, _⟩
  have within := not_lt.mp (refuseIf_ok_iff.mp sized)
  rw [accepts, named]
  omega

theorem EnvelopeV1.encode_compact (e : EnvelopeV1) :
    e.fields.encode = .ok (utf8 e.fields.encodedTree.compact) := by
  rcases e.encodes with ⟨bytes, encodes⟩
  rw [(encode_ok_iff.mp encodes).1]
  exact encodes

theorem parseArtifact_admits_coderReport :
    ((∃ e, parseArtifact compactReader
        (utf8 Sample.receiptReport.fields.encodedTree.compact) = .ok e) ↔
      Sample.receiptReport.fields.encodedTree.bytes.length +
        36 * positional Sample.receiptReport.fields.encodedTree ≤ maxControlArtifactBytes) ∧
    Sample.receiptReport.fields.encodedTree.bytes.length ≤
      (utf8 Sample.receiptReport.fields.encodedTree.compact).length ∧
    (positional Sample.receiptReport.fields.encodedTree = 0 → ∃ e, parseArtifact compactReader
      (utf8 Sample.receiptReport.fields.encodedTree.compact) = .ok e) ∧
    ∀ e, parseArtifact compactReader (utf8 Sample.receiptReport.fields.encodedTree.compact) =
      .ok e → e.fields = Sample.receiptReport.fields :=
  parseArtifact_admits compactReader
    (admitDocument_encoded Sample.receiptReport.encode_compact)
    (compactReader.reads _ (encodedTree_integral _) (encodedTree_nesting _))
    (readEnvelope_encodedTree _) (fieldsOfWire_wireOf _) Sample.receiptReport.valid

end O7Formal.Contracts
