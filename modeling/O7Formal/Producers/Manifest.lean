import O7Formal.Run.Transition

/-! The gate manifest: its validation, the contract it makes and the verdict of one step. -/

namespace O7Formal.Producers

open Fallible
open O7Formal.Run (AgentOutcome GateApplicability GateId GateObligation GateOutcome RunContract
  isBlank)

structure GateStep where
  name : String
  cmd : String
  required : Bool
  env : Option String
  waiveReason : Option String
  deriving DecidableEq, Repr

structure GateManifest where
  schema : UInt32
  gate : List GateStep
  deriving DecidableEq, Repr

inductive Verdict where
  | pass
  | fail
  | error
  | warn
  | blocked
  | notApplicable
  deriving DecidableEq, Repr

structure StepVerdict where
  name : String
  required : Bool
  verdict : Verdict
  exitCode : Option Int32
  log : String
  waived : Option String
  deriving DecidableEq, Repr

def isPlain (c : Char) : Bool := c.isAlphanum || c = '-' || c = '_'

def sanitize (s : String) : String :=
  String.ofList (s.toList.map fun c => if isPlain c then c else '-')

structure Seen where
  names : Finset String
  logs : List (String × String)

def validateStep (seen : Seen) (step : GateStep) : Except String Seen := do
  refuseIf (isBlank step.name = true) "gate manifest has a step with a blank name"
  refuseIf (step.name ∈ seen.names) ("gate manifest has duplicate step name '" ++ step.name ++
    "' — canonical gate ids must be unique")
  match seen.logs.lookup (sanitize step.name) with
  | some prev => .error ("gate steps '" ++ prev ++ "' and '" ++ step.name ++
      "' both sanitize to log '" ++ sanitize step.name ++ ".log' — the second would overwrite " ++
      "the first's evidence; rename one")
  | none => pure ⟨insert step.name seen.names, (sanitize step.name, step.name) :: seen.logs⟩

def GateManifest.validate (m : GateManifest) : Except String Unit := do
  let _ ← m.gate.foldlM validateStep ⟨∅, []⟩

/-- `RUNNER_ENVIRONMENT` -/
def runnerEnvironment : String := "linux"

def waiver (step : GateStep) : Option String :=
  step.waiveReason.filter fun reason => !isBlank reason

def applicability (step : GateStep) : GateApplicability :=
  match step.env, waiver step with
  | some env, some reason =>
      if env = "windows" then .waived runnerEnvironment reason else .applicable
  | _, _ => .applicable

def obligation (step : GateStep) : Except String GateObligation := do
  let gate ← (Run.Id.new .gate step.name).mapError
    fun e => "gate step name invalid as a gate id: " ++ e.kind
  pure ⟨gate, if step.required then .required else .optional, applicability step⟩

def buildContract (manifest : GateManifest) : Except String RunContract := do
  manifest.validate
  let gates ← manifest.gate.mapM obligation
  pure
    { gateObligations := gates
      policyObligations := []
      sandboxRequirements := []
      agent := .required
      runnerEnvironment := runnerEnvironment
      candidateState := none }

/-- What `bash -lc` came to: its status and output, or why it did not start. -/
inductive Ran where
  | exited (code : Option Int32) (output : List UInt8)
  | notSpawned (why : String)
  deriving DecidableEq, Repr

def Ran.verdict : Ran → Verdict
  | .exited code _ => if code = some 0 then .pass else .fail
  | .notSpawned _ => .error

def Ran.code : Ran → Option Int32
  | .exited code _ => code
  | .notSpawned _ => none

def Ran.combined : Ran → List UInt8
  | .exited _ output => output
  | .notSpawned why => ByteCodec.utf8Bytes ("failed to spawn bash: " ++ why)

def logName (step : GateStep) : String := sanitize step.name ++ ".log"
def logLocator (step : GateStep) : String := "gate/" ++ logName step

def skipped (step : GateStep) : Bool := step.env = some "windows"

def runOneStep (step : GateStep) (ran : Ran) : StepVerdict :=
  if skipped step then
    match waiver step with
    | some reason => ⟨step.name, step.required, .notApplicable, none, "", some reason⟩
    | none => ⟨step.name, step.required, .blocked, none, "", none⟩
  else ⟨step.name, step.required, ran.verdict, ran.code, logLocator step, none⟩

def gateOutcome : Verdict → GateOutcome
  | .pass => .pass
  | .fail => .fail
  | .warn => .warn
  | .blocked => .blocked
  | .notApplicable => .notApplicable
  | .error => .error

def agentOutcome : Option Int32 → AgentOutcome
  | some code => .exitedNormally code
  | none => .boundaryFailure ("agent exit status carried no exit code (signal-terminated; " ++
      "signal not captured by the MVP)")

theorem validateStep_ok_iff {seen later : Seen} {step : GateStep} :
    validateStep seen step = .ok later ↔ isBlank step.name = false ∧ step.name ∉ seen.names ∧
      seen.logs.lookup (sanitize step.name) = none ∧
      ⟨insert step.name seen.names, (sanitize step.name, step.name) :: seen.logs⟩ = later := by
  simp only [validateStep, bind_ok_iff, refuseIf_ok_iff, exists_const, Bool.not_eq_true]
  cases seen.logs.lookup (sanitize step.name) <;> simp

theorem validateSteps_ok {steps : List GateStep} {seen later : Seen}
    (valid : steps.foldlM validateStep seen = .ok later) :
    (∀ step ∈ steps, isBlank step.name = false) ∧
      (∀ step ∈ steps, seen.logs.lookup (sanitize step.name) = none) ∧
      (steps.map fun step => sanitize step.name).Nodup := by
  induction steps generalizing seen with
  | nil => simp
  | cons step rest ih =>
      rw [List.foldlM_cons, bind_ok_iff] at valid
      rcases valid with ⟨next, here, after⟩
      rcases validateStep_ok_iff.mp here with ⟨named, _, free, rfl⟩
      rcases ih after with ⟨names, logs, distinct⟩
      have apart : ∀ other ∈ rest, sanitize other.name ≠ sanitize step.name := by
        intro other member same
        have unseen := logs other member
        rw [same, List.lookup_cons_self] at unseen
        cases unseen
      refine ⟨List.forall_mem_cons.mpr ⟨named, names⟩, List.forall_mem_cons.mpr ⟨free, ?_⟩, ?_⟩
      · intro other member
        have unseen := logs other member
        rwa [List.lookup_cons, beq_false_of_ne (apart other member)] at unseen
      · rw [List.map_cons, List.nodup_cons]
        refine ⟨?_, distinct⟩
        intro member
        rcases List.mem_map.mp member with ⟨other, among, same⟩
        exact apart other among same

/-- The names of the steps are not blank, and no two of them share a log. -/
structure GateManifest.Valid (m : GateManifest) : Prop where
  named : ∀ step ∈ m.gate, isBlank step.name = false
  logs : (m.gate.map fun step => sanitize step.name).Nodup

theorem valid_of_validate {m : GateManifest} (ok : m.validate = .ok ()) : m.Valid := by
  rcases bind_ok_iff.mp ok with ⟨seen, valid, _⟩
  rcases validateSteps_ok valid with ⟨named, _, logs⟩
  exact ⟨named, logs⟩

theorem nonempty_of_named {name : String} (named : isBlank name = false) : name ≠ "" := by
  intro empty
  subst empty
  cases named

namespace GateManifest.Valid

variable {m : GateManifest} (valid : m.Valid)

include valid

theorem names : (m.gate.map GateStep.name).Nodup := by
  have logs := valid.logs
  rw [← Function.comp_def sanitize GateStep.name, ← List.map_map] at logs
  exact List.Nodup.of_map sanitize logs

theorem gateId {step : GateStep} (member : step ∈ m.gate) :
    ∃ gate, Run.Id.new .gate step.name = .ok gate ∧ gate.asStr = step.name := by
  have nonempty := nonempty_of_named (valid.named step member)
  exact ⟨⟨step.name, nonempty⟩, dif_neg nonempty, rfl⟩

end GateManifest.Valid

theorem id_of_new {kind : Run.IdKind} {raw : String} {id : Run.Id kind}
    (minted : Run.Id.new kind raw = .ok id) : id.asStr = raw := by
  unfold Run.Id.new at minted
  split at minted
  · cases minted
  · cases minted
    rfl

theorem obligation_ok_iff {step : GateStep} {o : GateObligation} :
    obligation step = .ok o ↔ ∃ gate, Run.Id.new .gate step.name = .ok gate ∧
      (⟨gate, if step.required then .required else .optional, applicability step⟩ :
        GateObligation) = o := by
  simp only [obligation, bind_ok_iff, mapError_ok_iff, pure_ok_iff]

structure Contracted (m : GateManifest) (c : RunContract) : Prop where
  valid : m.Valid
  gates : m.gate.mapM obligation = .ok c.gateObligations
  policies : c.policyObligations = []
  sandbox : c.sandboxRequirements = []
  agent : c.agent = .required
  environment : c.runnerEnvironment = runnerEnvironment

theorem contracted_of_build {m : GateManifest} {c : RunContract} (built : buildContract m = .ok c) :
    Contracted m c ∧ c.candidateState = none := by
  simp only [buildContract, bind_ok_iff, pure_ok_iff] at built
  rcases built with ⟨_, validated, gates, mapped, rfl⟩
  exact ⟨⟨valid_of_validate validated, mapped, rfl, rfl, rfl, rfl⟩, rfl⟩

theorem Contracted.withCandidate {m : GateManifest} {c : RunContract} (held : Contracted m c)
    (candidate : Option Run.CandidateStateContractV1) :
    Contracted m { c with candidateState := candidate } :=
  ⟨held.valid, held.gates, held.policies, held.sandbox, held.agent, held.environment⟩

theorem applicability_honest (step : GateStep) {environment reason : String}
    (waived : applicability step = .waived environment reason) :
    environment = runnerEnvironment ∧ isBlank reason = false := by
  unfold applicability at waived
  split at waived
  · rename_i env why _ declared
    split_ifs at waived
    cases waived
    have kept := (Option.filter_eq_some_iff.mp declared).2
    exact ⟨rfl, by simpa using kept⟩
  · cases waived

namespace Contracted

variable {m : GateManifest} {c : RunContract} (held : Contracted m c)

include held

theorem gateNames : c.gateObligations.map (fun o => o.gate.asStr) = m.gate.map GateStep.name := by
  have each := mapM_ok_iff.mp held.gates
  generalize m.gate = steps at each ⊢
  generalize c.gateObligations = gates at each ⊢
  induction each with
  | nil => rfl
  | cons here _ ih =>
      rcases obligation_ok_iff.mp here with ⟨gate, minted, rfl⟩
      rw [List.map_cons, List.map_cons, ih, id_of_new minted]

theorem contractValid
    (schema : ∀ o ∈ c.candidateState, o.schema = Run.candidateStateContractSchemaV1) :
    c.Valid := by
  have names := held.valid.names
  rw [← held.gateNames, ← Function.comp_def Run.Id.asStr GateObligation.gate,
    ← List.map_map] at names
  constructor
  · exact schema
  · intro o member environment reason waived
    rcases mapM_ok_of_mem held.gates member with ⟨step, _, made⟩
    rcases obligation_ok_iff.mp made with ⟨gate, _, rfl⟩
    rw [held.environment]
    exact applicability_honest _ waived
  · exact List.Nodup.of_map Run.Id.asStr names
  · rw [held.policies]
    simp
  · rw [held.policies]
    exact List.nodup_nil
  · rw [held.sandbox]
    simp
  · rw [held.sandbox]
    exact List.nodup_nil

theorem declares {step : GateStep} {gate : GateId} (member : step ∈ m.gate)
    (minted : Run.Id.new .gate step.name = .ok gate) : Run.gateObligation c gate ≠ none := by
  intro missing
  have listed : gate.asStr ∈ c.gateObligations.map fun o => o.gate.asStr := by
    rw [held.gateNames, id_of_new minted]
    exact List.mem_map_of_mem member
  rcases List.mem_map.mp listed with ⟨o, among, same⟩
  have other := List.find?_eq_none.mp missing o among
  exact other (by simpa using Run.Id.asStr_injective .gate same)

theorem startAllowed (s : Run.RunState) (subject : Run.PolicyProtectedSubject) :
    Run.StartAllowed s c subject := by
  intro p member
  rw [held.policies] at member
  cases member

end Contracted

end O7Formal.Producers
