import Mathlib.Tactic
import O7Formal.Lib.ByteCodec

/-! The closed enumerations of the wire contract. Their names are what is framed, written
and read. -/

namespace O7Formal.Contracts

inductive ProducerRole where
  | controller
  | coder
  | reviewer
  | human
  deriving DecidableEq, Repr

def ProducerRole.name : ProducerRole → String
  | .controller => "controller"
  | .coder => "coder"
  | .reviewer => "reviewer"
  | .human => "human"

def ProducerRole.isProviderRole : ProducerRole → Bool
  | .coder | .reviewer => true
  | .controller | .human => false

def ProducerRole.all : List ProducerRole :=
  [.controller, .coder, .reviewer, .human]

inductive ArtifactKindV1 where
  | workOrder
  | coderReport
  | candidateReceipt
  | reviewRequest
  | reviewerReport
  | reviewVerdict
  | correctiveDirective
  | campaignFeedItem
  | humanAttentionRequest
  | humanCommandRequest
  | humanDecision
  | providerExecutionReceipt
  | interactionManifest
  | scopeContract
  | campaignEventPayload
  | candidateState
  | candidatePatch
  | worktree
  | policy
  | task
  | diff
  | gateLog
  | sandboxReport
  | providerSession
  | commandBinding
  | contractDocument
  | verifierRegistry
  | canonicalProviderRequest
  | rawProviderBytes
  | normalizedOutput
  | providerMessage
  | toolArguments
  | toolResult
  | usageRecord
  | costRecord
  | diagnosticLog
  | ciObservation
  | terminationObservation
  | detailDocument
  deriving DecidableEq, Repr

def ArtifactKindV1.name : ArtifactKindV1 → String
  | .workOrder => "work_order"
  | .coderReport => "coder_report"
  | .candidateReceipt => "candidate_receipt"
  | .reviewRequest => "review_request"
  | .reviewerReport => "reviewer_report"
  | .reviewVerdict => "review_verdict"
  | .correctiveDirective => "corrective_directive"
  | .campaignFeedItem => "campaign_feed_item"
  | .humanAttentionRequest => "human_attention_request"
  | .humanCommandRequest => "human_command_request"
  | .humanDecision => "human_decision"
  | .providerExecutionReceipt => "provider_execution_receipt"
  | .interactionManifest => "interaction_manifest"
  | .scopeContract => "scope_contract"
  | .campaignEventPayload => "campaign_event_payload"
  | .candidateState => "candidate_state"
  | .candidatePatch => "candidate_patch"
  | .worktree => "worktree"
  | .policy => "policy"
  | .task => "task"
  | .diff => "diff"
  | .gateLog => "gate_log"
  | .sandboxReport => "sandbox_report"
  | .providerSession => "provider_session"
  | .commandBinding => "command_binding"
  | .contractDocument => "contract_document"
  | .verifierRegistry => "verifier_registry"
  | .canonicalProviderRequest => "canonical_provider_request"
  | .rawProviderBytes => "raw_provider_bytes"
  | .normalizedOutput => "normalized_output"
  | .providerMessage => "provider_message"
  | .toolArguments => "tool_arguments"
  | .toolResult => "tool_result"
  | .usageRecord => "usage_record"
  | .costRecord => "cost_record"
  | .diagnosticLog => "diagnostic_log"
  | .ciObservation => "ci_observation"
  | .terminationObservation => "termination_observation"
  | .detailDocument => "detail_document"

def ArtifactKindV1.all : List ArtifactKindV1 :=
  [.workOrder, .coderReport, .candidateReceipt, .reviewRequest, .reviewerReport,
    .reviewVerdict, .correctiveDirective, .campaignFeedItem, .humanAttentionRequest,
    .humanCommandRequest, .humanDecision, .providerExecutionReceipt, .interactionManifest,
    .scopeContract, .campaignEventPayload, .candidateState, .candidatePatch, .worktree, .policy,
    .task, .diff, .gateLog, .sandboxReport, .providerSession, .commandBinding,
    .contractDocument, .verifierRegistry, .canonicalProviderRequest, .rawProviderBytes,
    .normalizedOutput, .providerMessage, .toolArguments, .toolResult, .usageRecord, .costRecord,
    .diagnosticLog, .ciObservation, .terminationObservation, .detailDocument]

def ArtifactKindV1.isEnvelopeBearing : ArtifactKindV1 → Bool
  | .workOrder | .coderReport | .candidateReceipt | .reviewRequest
  | .reviewerReport | .reviewVerdict | .correctiveDirective | .campaignFeedItem
  | .humanAttentionRequest | .humanCommandRequest | .humanDecision => true
  | _ => false

def ArtifactKindV1.isTypedArtifact (kind : ArtifactKindV1) : Bool :=
  kind.isEnvelopeBearing ||
    match kind with
    | .providerExecutionReceipt | .interactionManifest | .scopeContract
    | .campaignEventPayload => true
    | _ => false

def ArtifactKindV1.hasControlSizeBound : ArtifactKindV1 → Bool
  | .providerExecutionReceipt | .scopeContract | .campaignEventPayload => true
  | _ => false

inductive MessageKindV1 where
  | workOrder
  | coderReport
  | candidateReceipt
  | reviewRequest
  | reviewerReport
  | reviewVerdict
  | correctiveDirective
  | campaignFeedItem
  | humanAttentionRequest
  | humanCommandRequest
  | humanDecision
  deriving DecidableEq, Repr

def MessageKindV1.name : MessageKindV1 → String
  | .workOrder => "work_order"
  | .coderReport => "coder_report"
  | .candidateReceipt => "candidate_receipt"
  | .reviewRequest => "review_request"
  | .reviewerReport => "reviewer_report"
  | .reviewVerdict => "review_verdict"
  | .correctiveDirective => "corrective_directive"
  | .campaignFeedItem => "campaign_feed_item"
  | .humanAttentionRequest => "human_attention_request"
  | .humanCommandRequest => "human_command_request"
  | .humanDecision => "human_decision"

def MessageKindV1.all : List MessageKindV1 :=
  [.workOrder, .coderReport, .candidateReceipt, .reviewRequest, .reviewerReport,
    .reviewVerdict, .correctiveDirective, .campaignFeedItem, .humanAttentionRequest,
    .humanCommandRequest, .humanDecision]

def MessageKindV1.artifactKind : MessageKindV1 → ArtifactKindV1
  | .workOrder => .workOrder
  | .coderReport => .coderReport
  | .candidateReceipt => .candidateReceipt
  | .reviewRequest => .reviewRequest
  | .reviewerReport => .reviewerReport
  | .reviewVerdict => .reviewVerdict
  | .correctiveDirective => .correctiveDirective
  | .campaignFeedItem => .campaignFeedItem
  | .humanAttentionRequest => .humanAttentionRequest
  | .humanCommandRequest => .humanCommandRequest
  | .humanDecision => .humanDecision

def MessageKindV1.authorizedProducerRole : MessageKindV1 → ProducerRole
  | .workOrder => .controller
  | .coderReport => .coder
  | .candidateReceipt => .controller
  | .reviewRequest => .controller
  | .reviewerReport => .reviewer
  | .reviewVerdict => .controller
  | .correctiveDirective => .controller
  | .campaignFeedItem => .controller
  | .humanAttentionRequest => .controller
  | .humanCommandRequest => .human
  | .humanDecision => .controller

def byName {α : Type} (all : List α) (name : α → String) (v : String) : Option α :=
  all.find? (fun candidate => name candidate == v)

theorem injective_of_byName {α : Type} {all : List α} {name : α → String}
    (reads : ∀ a, byName all name (name a) = some a) : Function.Injective name := by
  intro a b same
  apply Option.some_injective
  rw [← reads a, ← reads b, same]

def ProducerRole.ofName : String → Option ProducerRole := byName ProducerRole.all ProducerRole.name

def MessageKindV1.ofName : String → Option MessageKindV1 :=
  byName MessageKindV1.all MessageKindV1.name

def ArtifactKindV1.ofName : String → Option ArtifactKindV1 :=
  byName ArtifactKindV1.all ArtifactKindV1.name

@[simp] theorem ProducerRole.ofName_name (role : ProducerRole) : ofName role.name = some role := by
  cases role <;> rfl

theorem MessageKindV1.mem_all (kind : MessageKindV1) : kind ∈ all := by
  cases kind <;> decide

@[simp] theorem MessageKindV1.ofName_name (kind : MessageKindV1) :
    ofName kind.name = some kind := by
  have reads : ∀ candidate ∈ all, ofName candidate.name = some candidate := by decide +kernel
  exact reads kind kind.mem_all

theorem ArtifactKindV1.mem_all (kind : ArtifactKindV1) : kind ∈ all := by
  cases kind <;> decide

@[simp] theorem ArtifactKindV1.ofName_name (kind : ArtifactKindV1) :
    ofName kind.name = some kind := by
  have reads : ∀ candidate ∈ all, ofName candidate.name = some candidate := by decide +kernel
  exact reads kind kind.mem_all

theorem ProducerRole.name_short (role : ProducerRole) :
    (ByteCodec.utf8Bytes role.name).length ≤ 64 := by
  rw [ByteCodec.utf8Bytes_eq_stored]
  cases role <;> decide +kernel

theorem MessageKindV1.name_short (kind : MessageKindV1) :
    (ByteCodec.utf8Bytes kind.name).length ≤ 64 := by
  have short : ∀ k ∈ all, (ByteCodec.storedBytes k.name).length ≤ 64 := by decide +kernel
  rw [ByteCodec.utf8Bytes_eq_stored]
  exact short kind kind.mem_all

theorem ArtifactKindV1.name_short (kind : ArtifactKindV1) :
    (ByteCodec.utf8Bytes kind.name).length ≤ 64 := by
  have short : ∀ k ∈ all, (ByteCodec.storedBytes k.name).length ≤ 64 := by decide +kernel
  rw [ByteCodec.utf8Bytes_eq_stored]
  exact short kind kind.mem_all

theorem ProducerRole.name_injective : Function.Injective ProducerRole.name :=
  injective_of_byName ofName_name

theorem MessageKindV1.name_injective : Function.Injective MessageKindV1.name :=
  injective_of_byName ofName_name

theorem ArtifactKindV1.name_injective : Function.Injective ArtifactKindV1.name :=
  injective_of_byName ofName_name

end O7Formal.Contracts
