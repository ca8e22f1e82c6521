import O7Formal.Contracts.Envelope

/-! What the identity of an envelope commits to: every field but the time it was created,
of a receipt reference only the digest. -/

namespace O7Formal.Contracts

open ByteCodec Fallible PrefixCode EnvelopeRecord

section Frames

variable {α : Type} {text : α → String}

theorem decodes_frameStr (separates : Function.Injective text)
    (short : ∀ a, byteLength (text a) < 2 ^ 64) :
    Decodes (fun _ : α => True) (fun a => frameStr (text a)) := by
  intro a b r t _ _ same
  rcases decodes_frame_utf8 (short a) (short b) same with ⟨texts, rest⟩
  exact ⟨separates texts, rest⟩

theorem decodes_frameOptionalStr (separates : Function.Injective text)
    (short : ∀ a, byteLength (text a) < 2 ^ 64) (nonempty : ∀ a, text a ≠ "") :
    Decodes (fun _ : Option α => True) (fun o => frameOptionalStr (o.map text)) := by
  have injective : Function.Injective (fun o : Option α => (o.map text).getD "") := by
    intro o p same
    cases o with
    | none =>
        cases p with
        | none => rfl
        | some b => exact absurd same.symm (nonempty b)
    | some a =>
        cases p with
        | none => exact absurd same (nonempty a)
        | some b => exact congrArg some (separates same)
  apply decodes_frameStr injective
  intro o
  cases o with
  | none => exact (by decide : byteLength "" < 2 ^ 64)
  | some a => exact short a

end Frames

theorem decodes_frameU64 : Decodes (fun n => n < 2 ^ 64) frameU64 := by
  have wide : (256 : Nat) ^ 8 = 2 ^ 64 := by norm_num
  rw [← wide]
  exact decodes_frame_leBytes 8 (by norm_num)

theorem Id.short (id : Id) : byteLength id.asStr < 2 ^ 64 :=
  lt_of_le_of_lt id.bounded (by norm_num [maxIdBytes])

theorem BoundedText.short {max : Nat} (text : BoundedText max) : byteLength text.asStr < 2 ^ 64 := by
  have bounded := text.bounded
  have cap : min max maxStringBytes ≤ maxStringBytes := Nat.min_le_right _ _
  exact lt_of_le_of_lt (bounded.trans cap) (by norm_num [maxStringBytes])

theorem CommitId.short (id : CommitId) : byteLength id.asStr < 2 ^ 64 := by
  have full := id.full
  simp only [isFullCommitId, Bool.and_eq_true, Bool.or_eq_true, beq_iff_eq] at full
  rcases full.1 with forty | sixtyFour
  · rw [forty]
    norm_num
  · rw [sixtyFour]
    norm_num

theorem WireDigest.short (d : WireDigest) : byteLength d.asStr < 2 ^ 64 := by
  rw [WireDigest.asStr_length]
  norm_num

theorem decodes_frameId : Decodes (fun _ => True) (fun id : Id => frameStr id.asStr) :=
  decodes_frameStr Id.asStr_injective Id.short

theorem decodes_frameOptionalId :
    Decodes (fun _ => True) (fun o : Option Id => frameOptionalStr (o.map Id.asStr)) :=
  decodes_frameOptionalStr Id.asStr_injective Id.short Id.nonempty

theorem decodes_frameDigest :
    Decodes (fun _ => True) (fun d : WireDigest => frameStr d.asStr) :=
  decodes_frameStr Run.Digest256.asStr_injective WireDigest.short

theorem decodes_frameOptionalDigest :
    Decodes (fun _ => True)
      (fun o : Option WireDigest => frameOptionalStr (o.map Run.Digest256.asStr)) :=
  decodes_frameOptionalStr Run.Digest256.asStr_injective WireDigest.short WireDigest.asStr_ne_empty

theorem decodes_frameCommit :
    Decodes (fun _ => True)
      (fun o : Option CommitId => frameOptionalStr (o.map CommitId.asStr)) :=
  decodes_frameOptionalStr CommitId.asStr_injective CommitId.short CommitId.asStr_ne_empty

theorem decodes_frameText (max : Nat) :
    Decodes (fun _ => True) (fun text : BoundedText max => frameStr text.asStr) :=
  decodes_frameStr (BoundedText.asStr_injective max) BoundedText.short

theorem decodes_frameMessageKind :
    Decodes (fun _ => True) (fun kind : MessageKindV1 => frameStr kind.name) := by
  apply decodes_frameStr MessageKindV1.name_injective
  exact fun kind => lt_of_le_of_lt kind.name_short (by decide)

theorem decodes_frameRole :
    Decodes (fun _ => True) (fun role : ProducerRole => frameStr role.name) := by
  apply decodes_frameStr ProducerRole.name_injective
  exact fun role => lt_of_le_of_lt role.name_short (by decide)

theorem decodes_frameArtifactKind :
    Decodes (fun _ => True) (fun kind : ArtifactKindV1 => frameStr kind.name) := by
  apply decodes_frameStr ArtifactKindV1.name_injective
  exact fun kind => lt_of_le_of_lt kind.name_short (by decide)

theorem decodes_frameRef :
    Decodes (fun _ => True) (fun r : ArtifactRef => frameRef r.toArtifactRefWire) := by
  intro a b r t _ _ same
  have short : ∀ c : ArtifactRef, Framable (utf8Bytes c.mediaType) := by
    intro c
    exact lt_of_le_of_lt c.bounds.2.1 (by norm_num [maxStringBytes])
  simp only [frameRef, List.append_assoc] at same
  rcases decodes_frameArtifactKind trivial trivial same with ⟨kind, same⟩
  rcases decodes_frame_utf8 (short a) (short b) same with ⟨mediaType, same⟩
  rcases decodes_frameDigest trivial trivial same with ⟨digest, same⟩
  rcases decodes_frameU64 a.size.toNat_lt b.size.toNat_lt same with ⟨size, rest⟩
  exact ⟨ArtifactRef.ext kind mediaType digest (UInt64.toNat_inj.mp size), rest⟩

theorem decodes_frameRefs :
    Decodes (fun xs : List ArtifactRef => xs.length < 2 ^ 64 ∧ ∀ x ∈ xs, True)
      (fun xs => frameU64 xs.length ++ xs.flatMap fun r => frameRef r.toArtifactRefWire) :=
  decodes_frameRef.counted decodes_frameU64

theorem EnvelopeV1.provider_fields (e : EnvelopeV1) :
    e.fields.modelIdentity.isSome = e.fields.producerRole.isProviderRole := by
  have checked := e.valid
  simp only [EnvelopeRecord.validate, checkProviderField, bind_ok_iff, refuseIf_ok_iff,
    exists_const] at checked
  have first := checked.1
  cases present : e.fields.modelIdentity.isSome <;>
    cases provider : e.fields.producerRole.isProviderRole <;>
    simp [present, provider] at first ⊢

theorem option_eq_of_getD {α : Type} {text : α → String} (separates : Function.Injective text)
    {o p : Option α} (presence : o.isSome = p.isSome)
    (same : (o.map text).getD "" = (p.map text).getD "") : o = p := by
  cases o with
  | none =>
      cases p with
      | none => rfl
      | some b => cases presence
  | some a =>
      cases p with
      | none => cases presence
      | some b => exact congrArg some (separates same)

private theorem framable_model (e : EnvelopeV1) :
    Framable (utf8Bytes ((e.fields.modelIdentity.map BoundedText.asStr).getD "")) := by
  cases e.fields.modelIdentity with
  | none => exact (by decide : byteLength "" < 2 ^ 64)
  | some text => exact text.short

private theorem refs_countable (e : EnvelopeV1) :
    e.fields.artifactRefs.items.length < 2 ^ 64 ∧ ∀ x ∈ e.fields.artifactRefs.items, True := by
  have bounded := e.fields.artifactRefs.bounded
  have cap : min maxArtifactRefs maxArrayLen ≤ 256 := by decide
  exact ⟨by omega, fun _ _ => trivial⟩

theorem framedPreimage_halves {a b : EnvelopeV1}
    (same : a.fields.framedPreimage = b.fields.framedPreimage) :
    a.fields.messageKind = b.fields.messageKind ∧
      a.fields.payloadDigest = b.fields.payloadDigest := by
  unfold framedPreimage at same
  have same := List.append_cancel_left (List.append_cancel_left same)
  rcases decodes_frameMessageKind trivial trivial same with ⟨messageKind, same⟩
  have same := List.append_cancel_left same
  rcases decodes_frameId trivial trivial same with ⟨_, same⟩
  rcases decodes_frameId trivial trivial same with ⟨_, same⟩
  rcases decodes_frameId trivial trivial same with ⟨_, same⟩
  rcases decodes_frameId trivial trivial same with ⟨_, same⟩
  rcases decodes_frameOptionalId trivial trivial same with ⟨_, same⟩
  rcases decodes_frameOptionalId trivial trivial same with ⟨_, same⟩
  rcases decodes_frameId trivial trivial same with ⟨_, same⟩
  rcases decodes_frameRole trivial trivial same with ⟨_, same⟩
  rcases decodes_frameId trivial trivial same with ⟨_, same⟩
  rcases (decodes_frameText 128) trivial trivial same with ⟨_, same⟩
  rcases decodes_frame_utf8 (framable_model a) (framable_model b) same with ⟨_, same⟩
  rcases decodes_frameOptionalDigest trivial trivial same with ⟨_, same⟩
  rcases decodes_frameOptionalDigest trivial trivial same with ⟨_, same⟩
  rcases decodes_frameDigest trivial trivial same with ⟨_, same⟩
  rcases decodes_frameCommit trivial trivial same with ⟨_, same⟩
  exact ⟨messageKind, (decodes_frameDigest trivial trivial same).1⟩

/-- Equal preimages leave room for two things only: the time of creation, and everything
about the receipt reference but its digest. -/
theorem framedPreimage_commits (a b : EnvelopeV1)
    (same : a.fields.framedPreimage = b.fields.framedPreimage) :
    a.fields = { b.fields with
      createdAt := a.fields.createdAt
      providerExecutionReceiptRef := a.fields.providerExecutionReceiptRef } ∧
    a.fields.providerExecutionReceiptRef.map (fun r => r.digest) =
      b.fields.providerExecutionReceiptRef.map (fun r => r.digest) := by
  have receipts : ∀ o : Option ArtifactRef, o.map (fun r => r.digest.asStr) =
      (o.map fun r => r.digest).map Run.Digest256.asStr := by
    intro o
    cases o <;> rfl
  unfold framedPreimage at same
  rw [receipts, receipts] at same
  have same := List.append_cancel_left same
  have same := List.append_cancel_left same
  rcases decodes_frameMessageKind trivial trivial same with ⟨messageKind, same⟩
  have same := List.append_cancel_left same
  rcases decodes_frameId trivial trivial same with ⟨messageId, same⟩
  rcases decodes_frameId trivial trivial same with ⟨rootGoalId, same⟩
  rcases decodes_frameId trivial trivial same with ⟨taskId, same⟩
  rcases decodes_frameId trivial trivial same with ⟨campaignId, same⟩
  rcases decodes_frameOptionalId trivial trivial same with ⟨roundId, same⟩
  rcases decodes_frameOptionalId trivial trivial same with ⟨causationId, same⟩
  rcases decodes_frameId trivial trivial same with ⟨correlationId, same⟩
  rcases decodes_frameRole trivial trivial same with ⟨producerRole, same⟩
  rcases decodes_frameId trivial trivial same with ⟨producerExecutionId, same⟩
  rcases (decodes_frameText 128) trivial trivial same with ⟨adapter, same⟩
  rcases decodes_frame_utf8 (framable_model a) (framable_model b) same with ⟨model, same⟩
  rcases decodes_frameOptionalDigest trivial trivial same with ⟨promptDigest, same⟩
  rcases decodes_frameOptionalDigest trivial trivial same with ⟨toolPolicyDigest, same⟩
  rcases decodes_frameDigest trivial trivial same with ⟨contractDigest, same⟩
  rcases decodes_frameCommit trivial trivial same with ⟨expectedInputHead, same⟩
  rcases decodes_frameDigest trivial trivial same with ⟨payloadDigest, same⟩
  rcases decodes_frameOptionalDigest trivial trivial same with ⟨receipt, same⟩
  have refs := decodes_frameRefs.injOn (refs_countable a) (refs_countable b) same
  have presence : a.fields.modelIdentity.isSome = b.fields.modelIdentity.isSome := by
    rw [a.provider_fields, b.provider_fields, producerRole]
  have modelIdentity := option_eq_of_getD (BoundedText.asStr_injective 256) presence model
  refine ⟨?_, receipt⟩
  apply EnvelopeRecord.ext <;> first | rfl | assumption | skip
  exact BoundedVec.ext refs

namespace Sample

theorem id_nonempty : "m-1" ≠ "" := by decide

theorem id_bounded : byteLength "m-1" ≤ maxIdBytes := by decide

def id : Id := ⟨"m-1", id_nonempty, id_bounded⟩

theorem adapter_bounded : byteLength "o7/0.1.0" ≤ min 128 maxStringBytes := by decide

def adapter : AdapterVersion := ⟨"o7/0.1.0", adapter_bounded⟩

theorem model_bounded : byteLength "" ≤ min 256 maxStringBytes := by decide

def model : ModelIdentity := ⟨"", model_bounded⟩

theorem time_bounded : byteLength "2026-08-09T20:00:00Z" ≤ maxTimestampBytes := by decide

theorem time_utc : isRfc3339Utc "2026-08-09T20:00:00Z" = true := by decide +kernel

def time : Timestamp := ⟨"2026-08-09T20:00:00Z", time_bounded, time_utc⟩

def receiptWire : ArtifactRefWire :=
  ⟨.providerExecutionReceipt, "application/vnd.o7.a1.provider_execution_receipt+json; v=1",
    .genesis, 2⟩

theorem receipt_valid : receiptWire.validate = .ok () := by decide

def receipt : ArtifactRef := ⟨receiptWire, receipt_valid⟩

def diffWire : ArtifactRefWire := ⟨.diff, "text/x-diff", .genesis, 1⟩

theorem diff_valid : diffWire.validate = .ok () := by decide

def diff : ArtifactRef := ⟨diffWire, diff_valid⟩

def coderReport (receiptRef : ArtifactRef) : EnvelopeFieldsV1 where
  envelopeVersion := ⟨⟩
  messageKind := .coderReport
  messageKindVersion := ⟨⟩
  messageId := id
  rootGoalId := id
  taskId := id
  campaignId := id
  roundId := none
  causationId := none
  correlationId := id
  producerRole := .coder
  producerExecutionId := id
  producerAdapterVersion := adapter
  modelIdentity := some model
  promptDigest := some .genesis
  toolPolicyDigest := some .genesis
  contractDigest := .genesis
  expectedInputHead := none
  payloadDigest := .genesis
  artifactRefs := .empty _
  providerExecutionReceiptRef := some receiptRef
  createdAt := time

theorem receiptReport_valid : (coderReport receipt).validate = .ok () := by decide

theorem receiptReport_encodes : (coderReport receipt).encode.isOk = true :=
  encodes_of_length (by decide +kernel)

def receiptReport : EnvelopeV1 :=
  ⟨coderReport receipt, receiptReport_valid, encodes_of_isOk receiptReport_encodes⟩

theorem diffReport_valid : (coderReport diff).validate = .ok () := by decide

theorem diffReport_encodes : (coderReport diff).encode.isOk = true :=
  encodes_of_length (by decide +kernel)

def diffReport : EnvelopeV1 :=
  ⟨coderReport diff, diffReport_valid, encodes_of_isOk diffReport_encodes⟩

end Sample

theorem framedPreimage_commits_coderReport :
    Sample.receiptReport.fields = { Sample.diffReport.fields with
      createdAt := Sample.receiptReport.fields.createdAt
      providerExecutionReceiptRef := Sample.receiptReport.fields.providerExecutionReceiptRef } ∧
    Sample.receiptReport.fields.providerExecutionReceiptRef.map (fun r => r.digest) =
      Sample.diffReport.fields.providerExecutionReceiptRef.map (fun r => r.digest) :=
  framedPreimage_commits Sample.receiptReport Sample.diffReport rfl

-- Another kind, media type and size under the same digest is not another identity.
theorem framedPreimage_receipt_clash : ¬ ∀ a b : EnvelopeV1,
    a.fields.framedPreimage = b.fields.framedPreimage →
      a.fields = { b.fields with createdAt := a.fields.createdAt } := by
  intro commits
  have fields := commits Sample.receiptReport Sample.diffReport rfl
  have sizes := congrArg (fun f => f.providerExecutionReceiptRef.map fun r => r.size) fields
  exact absurd sizes (by decide)

end O7Formal.Contracts
