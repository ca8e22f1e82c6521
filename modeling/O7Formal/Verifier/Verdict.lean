import O7Formal.Verifier.Trust

/-! Verifier evidence, and the verdict on it. -/

namespace O7Formal.Verifier

open Run (Sha256)
open Worker (EnforcementLevel)

inductive AttestedEnforcement where
  | none | partially | fullyEnforced
  deriving DecidableEq

def AttestedEnforcement.ofLevel : EnforcementLevel → AttestedEnforcement
  | .none => .none
  | .partially => .partially
  | .fullyEnforced => .fullyEnforced

def AttestedEnforcement.debug : AttestedEnforcement → String
  | .none => "None"
  | .partially => "Partial"
  | .fullyEnforced => "FullyEnforced"

inductive VerifierOutcome where
  | completed (exitCode : Int32)
  | notRun (reason : String)
  | spawnFailed (reason : String)
  | timedOut
  | signalled (signal : Int32)
  | outputLost (reason : String)
  | boundaryUnavailable (reason : String)
  | faulted (reason : String)
  deriving DecidableEq

def VerifierOutcome.kind : VerifierOutcome → String
  | .completed _ => "COMPLETED"
  | .notRun _ => "NOT_RUN"
  | .spawnFailed _ => "SPAWN_FAILED"
  | .timedOut => "TIMED_OUT"
  | .signalled _ => "SIGNALLED"
  | .outputLost _ => "OUTPUT_LOST"
  | .boundaryUnavailable _ => "BOUNDARY_UNAVAILABLE"
  | .faulted _ => "FAULTED"

structure VerifierEvidence where
  outcome : VerifierOutcome
  trusted : Bool
  boundaryEnforcement : Option AttestedEnforcement
  repo : CanonicalRepoId
  command : TrustedCommand
  executableIdentity : Option ExecutableIdentity
  trustDigest : Option CommandDigest
  structuralDigest : CommandDigest
  stdout : List UInt8
  stderr : List UInt8
  deriving DecidableEq

inductive Verdict where
  | accepted
  | rejected (reason : String)
  deriving DecidableEq

/-- `{:?}` of an attested enforcement that may be missing. -/
def attestedDebug : Option AttestedEnforcement → String
  | none => "None"
  | some attested => "Some(" ++ attested.debug ++ ")"

def RequiredBoundary.isMetBy (attested : Option AttestedEnforcement) : RequiredBoundary → Bool
  | .allowUnconfined => true
  | .requireFullyEnforced => decide (attested = some .fullyEnforced)

theorem RequiredBoundary.isMetBy_iff {required : RequiredBoundary}
    {attested : Option AttestedEnforcement} : required.isMetBy attested = true ↔
      (required = .requireFullyEnforced → attested = some .fullyEnforced) := by
  cases required <;> simp [isMetBy]

def adjudicateOutcome (command : TrustedCommand) (outcome : VerifierOutcome) : Verdict :=
  match outcome with
  | .completed exitCode =>
      if command.exitPolicy.isSuccess exitCode then .accepted
      else .rejected ("exit code " ++ toString exitCode ++
        " is not in the command's bound success policy")
  | .notRun reason | .spawnFailed reason | .outputLost reason | .boundaryUnavailable reason
  | .faulted reason => .rejected (outcome.kind ++ ": " ++ reason)
  | .timedOut => .rejected "verifier timed out"
  | .signalled signal => .rejected ("verifier was terminated by signal " ++ toString signal)

def adjudicate (sha256 : Sha256) (evidence : VerifierEvidence) (store : TrustStore) : Verdict :=
  match evidence.executableIdentity, evidence.trustDigest with
  | some identity, some claimed =>
      let anchor := TrustAnchor.fromParts sha256 evidence.repo evidence.command identity
      if anchor.digest ≠ claimed then
        .rejected "evidence trust digest is inconsistent with its own command binding"
      else if !store.isTrusted anchor then
        .rejected "the command is not in o7d's trust store (revoked, drifted, or never trusted)"
      else if !evidence.command.boundaryRequirement.isMetBy evidence.boundaryEnforcement then
        .rejected ("boundary requirement RequireFullyEnforced not met: attested " ++
          attestedDebug evidence.boundaryEnforcement)
      else adjudicateOutcome evidence.command evidence.outcome
  | _, _ => .rejected "evidence carries no trust binding — nothing was trusted"

structure Acceptable (sha256 : Sha256) (evidence : VerifierEvidence) (store : TrustStore)
    (identity : ExecutableIdentity) (exitCode : Int32) : Prop where
  carried : evidence.executableIdentity = some identity
  consistent : evidence.trustDigest =
    some (commandDigest sha256 evidence.repo evidence.command identity)
  stored : commandDigest sha256 evidence.repo evidence.command identity ∈ store.trusted
  enforced : evidence.command.boundaryRequirement = .requireFullyEnforced →
    evidence.boundaryEnforcement = some .fullyEnforced
  completed : evidence.outcome = .completed exitCode
  inPolicy : evidence.command.exitPolicy.isSuccess exitCode = true

theorem adjudicateOutcome_accepted_iff {command : TrustedCommand} {outcome : VerifierOutcome} :
    adjudicateOutcome command outcome = .accepted ↔
      ∃ exitCode, outcome = .completed exitCode ∧ command.exitPolicy.isSuccess exitCode = true := by
  constructor
  · intro accepted
    cases outcome with
    | completed exitCode =>
        rw [adjudicateOutcome] at accepted
        split at accepted
        · rename_i inPolicy
          exact ⟨exitCode, rfl, inPolicy⟩
        · cases accepted
    | _ => cases accepted
  · intro completed
    rcases completed with ⟨exitCode, rfl, inPolicy⟩
    rw [adjudicateOutcome, if_pos inPolicy]

theorem adjudicate_accepted_iff (sha256 : Sha256) (evidence : VerifierEvidence)
    (store : TrustStore) : adjudicate sha256 evidence store = .accepted ↔
      ∃ identity exitCode, Acceptable sha256 evidence store identity exitCode := by
  constructor
  · intro accepted
    rw [adjudicate] at accepted
    split at accepted
    · rename_i identity claimed carried digest
      dsimp only at accepted
      split at accepted
      · cases accepted
      · rename_i consistent
        split at accepted
        · cases accepted
        · rename_i stored
          split at accepted
          · cases accepted
          · rename_i met
            rw [Bool.not_eq_true', Bool.not_eq_false] at stored met
            rw [ne_eq, not_not] at consistent
            rcases adjudicateOutcome_accepted_iff.mp accepted with ⟨exitCode, completed, inPolicy⟩
            exact ⟨identity, exitCode, carried, digest.trans (congrArg some consistent.symm),
              List.contains_iff_mem.mp stored, RequiredBoundary.isMetBy_iff.mp met, completed,
              inPolicy⟩
    · cases accepted
  · intro acceptable
    rcases acceptable with ⟨identity, exitCode, facts⟩
    have stored : store.isTrusted (.fromParts sha256 evidence.repo evidence.command identity) =
        true := List.contains_iff_mem.mpr facts.stored
    have met := RequiredBoundary.isMetBy_iff.mpr facts.enforced
    rw [adjudicate, facts.carried, facts.consistent]
    dsimp only
    rw [stored, met, if_neg]
    · exact adjudicateOutcome_accepted_iff.mpr ⟨exitCode, facts.completed, facts.inPolicy⟩
    · exact fun differs => differs rfl

end O7Formal.Verifier
