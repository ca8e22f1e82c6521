import Mathlib.Data.Finmap
import O7Formal.Lib.Fallible

/-! The closure classifier: one headline from the required observations, the falsification
channel and the freshness of the subject. -/

namespace O7Formal.Closure.Classifier

open Fallible

inductive State where
  | pass
  | finding
  | owed
  | cannotCheck
  | stale
  deriving DecidableEq, Repr

def State.rank : State → Nat
  | .pass => 0
  | .owed => 1
  | .cannotCheck => 2
  | .finding => 3
  | .stale => 4

inductive Acquisition (α : Type) where
  | available (value : α)
  | notProduced
  | rateLimited
  | failed (reason : String)
  deriving DecidableEq, Repr

inductive CheckConclusion where
  | success
  | failure
  deriving DecidableEq, Repr

structure CheckEvidence where
  stableId : String
  headSha : String
  conclusion : CheckConclusion
  deriving DecidableEq, Repr

structure ReviewEvidence where
  stableId : String
  commitId : String
  author : String
  carriesFinding : Bool
  deriving DecidableEq, Repr

inductive ObservationInput where
  | check (acq : Acquisition CheckEvidence)
  | review (acq : Acquisition ReviewEvidence)
  deriving DecidableEq, Repr

inductive SourceKind where
  | githubActionsCheck
  | submittedReview
  | reviewComment
  | issueComment
  deriving DecidableEq, Repr

inductive Verification where
  | reproduced
  | claimed
  | failed (reason : String)
  deriving DecidableEq, Repr

structure FalsificationFact where
  sourceKind : SourceKind
  stableId : String
  subjectSha : Option String
  author : String
  verification : Verification
  deriving DecidableEq, Repr

inductive ClassifierError where
  | missingRequiredObservation (id : String)
  | falsificationSubjectMismatch (stableId subjectSha expectedSha : String)
  deriving DecidableEq, Repr

structure Subject where
  repository : String
  pullRequest : UInt64
  expectedSha : String
  headBefore : String
  headAfter : String
  deriving DecidableEq, Repr

structure Policy where
  id : String
  requiredObservations : List String
  deriving DecidableEq, Repr

structure ClassifierInput where
  subject : Subject
  policy : Policy
  observations : Finmap fun _ : String => ObservationInput
  falsifications : List FalsificationFact
  knownDebts : List String

structure SourceOut where
  kind : SourceKind
  stableId : String
  deriving DecidableEq, Repr

inductive AcquisitionStatus where
  | available
  | notProduced
  | rateLimited
  | failed
  deriving DecidableEq, Repr

structure AcquisitionOut where
  status : AcquisitionStatus
  reason : Option String
  deriving DecidableEq, Repr

inductive VerificationStatus where
  | reproduced
  | claimed
  | failed
  deriving DecidableEq, Repr

structure VerificationOut where
  status : VerificationStatus
  reason : Option String
  deriving DecidableEq, Repr

structure ObservationOut where
  id : String
  state : State
  acquisition : AcquisitionOut
  source : Option SourceOut
  deriving DecidableEq, Repr

structure PolicyOut where
  id : String
  requiredObservations : List String
  completenessClaimed : Bool
  deriving DecidableEq, Repr

structure FalsificationOut where
  source : SourceOut
  subjectSha : Option String
  author : String
  verification : VerificationOut
  state : State
  deriving DecidableEq, Repr

structure Predicate where
  schemaVersion : UInt32
  repository : String
  pullRequest : UInt64
  gitCommit : String
  policy : PolicyOut
  observations : List ObservationOut
  falsifications : List FalsificationOut
  subjectStale : Bool
  headline : State
  knownDebts : List String
  deriving DecidableEq, Repr

abbrev Classified := State × AcquisitionOut × Option SourceOut

/-- An acquisition of either kind; `state` and `source` are read off the evidence obtained. -/
def classifyAcquisition {α : Type} (state : α → State) (source : α → SourceOut) :
    Acquisition α → Classified
  | .available value => (state value, ⟨.available, none⟩, some (source value))
  | .notProduced => (.owed, ⟨.notProduced, none⟩, none)
  | .rateLimited => (.owed, ⟨.rateLimited, none⟩, none)
  | .failed reason => (.cannotCheck, ⟨.failed, some reason⟩, none)

def classifyCheck (acq : Acquisition CheckEvidence) (expectedSha : String) : Classified :=
  classifyAcquisition
    (fun check =>
      if check.headSha ≠ expectedSha then .owed
      else match check.conclusion with
        | .success => .pass
        | .failure => .finding)
    (fun check => ⟨.githubActionsCheck, check.stableId⟩) acq

def classifyReview (acq : Acquisition ReviewEvidence) (expectedSha : String) : Classified :=
  classifyAcquisition
    (fun review =>
      if review.commitId ≠ expectedSha then .owed
      else if review.carriesFinding then .finding
      else .pass)
    (fun review => ⟨.submittedReview, review.stableId⟩) acq

def classifyObservation (expectedSha : String) : Option ObservationInput → Classified
  | none => (.cannotCheck, ⟨.failed, some "required observation absent from the input map"⟩, none)
  | some (.check acq) => classifyCheck acq expectedSha
  | some (.review acq) => classifyReview acq expectedSha

def observationOut (input : ClassifierInput) (id : String) : ObservationOut :=
  let (state, acquisition, source) :=
    classifyObservation input.subject.expectedSha (input.observations.lookup id)
  ⟨id, state, acquisition, source⟩

def Verification.state : Verification → State
  | .reproduced => .finding
  | .claimed => .owed
  | .failed _ => .cannotCheck

def Verification.out : Verification → VerificationOut
  | .reproduced => ⟨.reproduced, none⟩
  | .claimed => ⟨.claimed, none⟩
  | .failed reason => ⟨.failed, some reason⟩

def falsificationOut (f : FalsificationFact) : FalsificationOut :=
  ⟨⟨f.sourceKind, f.stableId⟩, f.subjectSha, f.author, f.verification.out, f.verification.state⟩

/-- `max_by_key`: the last of the elements with the greatest rank. -/
def maxByRank : List State → Option State
  | [] => none
  | first :: rest => some (rest.foldl (fun best s => if best.rank ≤ s.rank then s else best) first)

def boundElsewhere (expectedSha : String) (f : FalsificationFact) : Prop :=
  ∃ sha, f.subjectSha = some sha ∧ sha ≠ expectedSha

instance (expectedSha : String) : DecidablePred (boundElsewhere expectedSha) := fun f =>
  match h : f.subjectSha with
  | none => isFalse (by simp [boundElsewhere, h])
  | some sha => decidable_of_iff (sha ≠ expectedSha) (by simp [boundElsewhere, h])

def subjectStale (subject : Subject) : Bool :=
  decide (subject.headBefore ≠ subject.expectedSha ∨ subject.headAfter ≠ subject.expectedSha)

def classify (input : ClassifierInput) : Except ClassifierError Predicate := do
  let expected := input.subject.expectedSha
  refuseFirst input.policy.requiredObservations (fun id => input.observations.lookup id = none)
    .missingRequiredObservation
  refuseFirst input.falsifications (boundElsewhere expected) fun f =>
    .falsificationSubjectMismatch f.stableId (f.subjectSha.getD "") expected
  let subjectStale := subjectStale input.subject
  let observations := input.policy.requiredObservations.map (observationOut input)
  let falsifications := input.falsifications.map falsificationOut
  let headline :=
    (maxByRank (observations.map ObservationOut.state ++
      falsifications.map FalsificationOut.state)).getD .pass
  let headline := if subjectStale then .stale else headline
  return ⟨1, input.subject.repository, input.subject.pullRequest, expected,
    ⟨input.policy.id, input.policy.requiredObservations, false⟩, observations, falsifications,
    subjectStale, headline, input.knownDebts⟩

theorem State.rank_injective : Function.Injective State.rank := by
  intro a b same
  cases a <;> cases b <;> first | rfl | cases same

theorem maxByRank_spec {states : List State} {best : State} (found : maxByRank states = some best) :
    best ∈ states ∧ ∀ s ∈ states, s.rank ≤ best.rank := by
  cases states with
  | nil => cases found
  | cons first rest =>
      cases found
      induction rest generalizing first with
      | nil => simp
      | cons next rest ih =>
          rw [List.foldl_cons]
          split_ifs with upTo
          · rcases ih next with ⟨member, bound⟩
            refine ⟨List.mem_cons_of_mem _ member, ?_⟩
            intro s among
            rcases List.mem_cons.mp among with here | later
            · rw [here]
              exact le_trans upTo (bound next List.mem_cons_self)
            · exact bound s later
          · rcases ih first with ⟨member, bound⟩
            constructor
            · rcases List.mem_cons.mp member with here | later
              · rw [here]
                exact List.mem_cons_self
              · exact List.mem_cons_of_mem _ (List.mem_cons_of_mem _ later)
            · intro s among
              rcases List.mem_cons.mp among with here | later
              · rw [here]
                exact bound first List.mem_cons_self
              · rcases List.mem_cons.mp later with second | others
                · rw [second]
                  have above := bound first List.mem_cons_self
                  omega
                · exact bound s (List.mem_cons_of_mem _ others)

def requiredState (input : ClassifierInput) (id : String) : State :=
  (classifyObservation input.subject.expectedSha (input.observations.lookup id)).1

def contributions (input : ClassifierInput) : List State :=
  input.policy.requiredObservations.map (requiredState input) ++
    input.falsifications.map fun f => f.verification.state

/-- The input can be read: every required observation has an entry, and no falsification is
bound to another commit. -/
structure Readable (input : ClassifierInput) : Prop where
  present : ∀ id ∈ input.policy.requiredObservations, input.observations.lookup id ≠ none
  bound : ∀ f ∈ input.falsifications, ∀ sha, f.subjectSha = some sha →
    sha = input.subject.expectedSha

def Stale (subject : Subject) : Prop :=
  subject.headBefore ≠ subject.expectedSha ∨ subject.headAfter ≠ subject.expectedSha

def Clean (expectedSha : String) : ObservationInput → Prop
  | .check (.available check) => check.headSha = expectedSha ∧ check.conclusion = .success
  | .review (.available review) => review.commitId = expectedSha ∧ review.carriesFinding = false
  | _ => False

theorem classify_ok_iff {input : ClassifierInput} {p : Predicate} :
    classify input = .ok p ↔ Readable input ∧
      p = ⟨1, input.subject.repository, input.subject.pullRequest, input.subject.expectedSha,
        ⟨input.policy.id, input.policy.requiredObservations, false⟩,
        input.policy.requiredObservations.map (observationOut input),
        input.falsifications.map falsificationOut, subjectStale input.subject,
        if subjectStale input.subject then .stale
        else (maxByRank (contributions input)).getD .pass, input.knownDebts⟩ := by
  have states : (input.policy.requiredObservations.map (observationOut input)).map
        ObservationOut.state ++ (input.falsifications.map falsificationOut).map
        FalsificationOut.state = contributions input := by
    rw [List.map_map, List.map_map]
    rfl
  have readable : Readable input ↔
      (∀ id ∈ input.policy.requiredObservations, ¬ input.observations.lookup id = none) ∧
      ∀ f ∈ input.falsifications, ¬ boundElsewhere input.subject.expectedSha f := by
    constructor
    · intro held
      refine ⟨held.present, ?_⟩
      intro f member elsewhere
      rcases elsewhere with ⟨sha, named, other⟩
      exact other (held.bound f member sha named)
    · intro both
      refine ⟨both.1, ?_⟩
      intro f member sha named
      by_contra other
      exact both.2 f member ⟨sha, named, other⟩
  rw [classify]
  simp only [bind_ok_iff, refuseFirst_ok_iff, pure_ok_iff, states, readable]
  constructor
  · intro held
    rcases held with ⟨_, present, _, bound, same⟩
    exact ⟨⟨present, bound⟩, same.symm⟩
  · intro held
    exact ⟨(), held.1.1, (), held.1.2, held.2.symm⟩

theorem subjectStale_iff {subject : Subject} : subjectStale subject = true ↔ Stale subject := by
  rw [subjectStale, decide_eq_true_eq]
  rfl

theorem headline_eq {input : ClassifierInput} {p : Predicate} (ok : classify input = .ok p) :
    p.headline = if subjectStale input.subject then .stale
      else (maxByRank (contributions input)).getD .pass := by
  rw [(classify_ok_iff.mp ok).2]

theorem requiredState_ne_stale (input : ClassifierInput) (id : String) :
    requiredState input id ≠ .stale := by
  rw [requiredState]
  cases input.observations.lookup id with
  | none => exact State.noConfusion
  | some observation =>
      cases observation with
      | check acq =>
          cases acq with
          | available check =>
              simp only [classifyObservation, classifyCheck, classifyAcquisition]
              split_ifs
              · exact State.noConfusion
              · cases check.conclusion <;> exact State.noConfusion
          | notProduced => exact State.noConfusion
          | rateLimited => exact State.noConfusion
          | failed reason => exact State.noConfusion
      | review acq =>
          cases acq with
          | available review =>
              simp only [classifyObservation, classifyReview, classifyAcquisition]
              split_ifs <;> exact State.noConfusion
          | notProduced => exact State.noConfusion
          | rateLimited => exact State.noConfusion
          | failed reason => exact State.noConfusion

theorem contributions_ne_stale {input : ClassifierInput} {s : State}
    (member : s ∈ contributions input) : s ≠ .stale := by
  rcases List.mem_append.mp member with observed | falsified
  · rcases List.mem_map.mp observed with ⟨id, _, same⟩
    rw [← same]
    exact requiredState_ne_stale input id
  · rcases List.mem_map.mp falsified with ⟨f, _, same⟩
    rw [← same]
    cases f.verification <;> exact State.noConfusion

theorem requiredState_pass_iff {input : ClassifierInput} {id : String} :
    requiredState input id = .pass ↔ ∃ observation,
      input.observations.lookup id = some observation ∧
        Clean input.subject.expectedSha observation := by
  rw [requiredState]
  cases input.observations.lookup id with
  | none => simp [classifyObservation]
  | some observation =>
      cases observation with
      | check acq =>
          cases acq with
          | available check =>
              by_cases bound : check.headSha = input.subject.expectedSha <;>
                cases conclusion : check.conclusion <;>
                simp [classifyObservation, classifyCheck, classifyAcquisition, Clean, bound,
                  conclusion]
          | notProduced => simp [classifyObservation, classifyCheck, classifyAcquisition, Clean]
          | rateLimited => simp [classifyObservation, classifyCheck, classifyAcquisition, Clean]
          | failed reason => simp [classifyObservation, classifyCheck, classifyAcquisition, Clean]
      | review acq =>
          cases acq with
          | available review =>
              by_cases bound : review.commitId = input.subject.expectedSha <;>
                cases carries : review.carriesFinding <;>
                simp [classifyObservation, classifyReview, classifyAcquisition, Clean, bound,
                  carries]
          | notProduced => simp [classifyObservation, classifyReview, classifyAcquisition, Clean]
          | rateLimited => simp [classifyObservation, classifyReview, classifyAcquisition, Clean]
          | failed reason => simp [classifyObservation, classifyReview, classifyAcquisition, Clean]

theorem fresh_headline {input : ClassifierInput} {p : Predicate} (ok : classify input = .ok p)
    (fresh : ¬ Stale input.subject) :
    (∀ s ∈ contributions input, s.rank ≤ p.headline.rank) ∧
      (p.headline ∈ contributions input ∨ contributions input = [] ∧ p.headline = .pass) := by
  rw [headline_eq ok, if_neg (by rwa [subjectStale_iff])]
  cases found : maxByRank (contributions input) with
  | none =>
      have none : contributions input = [] := by
        cases states : contributions input with
        | nil => rfl
        | cons s rest =>
            rw [states] at found
            cases found
      rw [none]
      exact ⟨by simp, .inr ⟨rfl, rfl⟩⟩
  | some best =>
      rcases maxByRank_spec found with ⟨member, bound⟩
      exact ⟨bound, .inl member⟩

theorem headline_stale_iff {input : ClassifierInput} {p : Predicate} (ok : classify input = .ok p) :
    p.headline = .stale ↔ Stale input.subject := by
  constructor
  · intro stale
    by_contra fresh
    rcases (fresh_headline ok fresh).2 with member | none
    · exact contributions_ne_stale member stale
    · rw [none.2] at stale
      cases stale
  · intro stale
    rw [headline_eq ok, if_pos (subjectStale_iff.mpr stale)]

theorem headline_pass_iff {input : ClassifierInput} {p : Predicate} (ok : classify input = .ok p) :
    p.headline = .pass ↔ ¬ Stale input.subject ∧
      (∀ id ∈ input.policy.requiredObservations, ∃ observation,
        input.observations.lookup id = some observation ∧
          Clean input.subject.expectedSha observation) ∧
      input.falsifications = [] := by
  constructor
  · intro pass
    have fresh : ¬ Stale input.subject := by
      intro stale
      rw [(headline_stale_iff ok).mpr stale] at pass
      cases pass
    have lowest : ∀ s ∈ contributions input, s = .pass := by
      intro s member
      have bound := (fresh_headline ok fresh).1 s member
      rw [pass] at bound
      exact State.rank_injective (Nat.le_zero.mp bound)
    refine ⟨fresh, ?_, ?_⟩
    · intro id required
      apply requiredState_pass_iff.mp
      exact lowest _ (List.mem_append_left _ (List.mem_map_of_mem required))
    · cases falsified : input.falsifications with
      | nil => rfl
      | cons f rest =>
          have listed : f.verification.state ∈ contributions input := by
            apply List.mem_append_right
            rw [falsified]
            exact List.mem_cons_self
          have here := lowest _ listed
          cases verification : f.verification <;> rw [verification] at here <;> cases here
  · intro held
    rcases held with ⟨fresh, clean, none⟩
    rcases (fresh_headline ok fresh).2 with member | empty
    · rw [contributions, none, List.map_nil, List.append_nil] at member
      rcases List.mem_map.mp member with ⟨id, required, same⟩
      rw [← same]
      exact requiredState_pass_iff.mpr (clean id required)
    · exact empty.2

/-- Everything one input requires and reports, the other does too, about the same subject. -/
structure Within (input larger : ClassifierInput) : Prop where
  expected : larger.subject.expectedSha = input.subject.expectedSha
  before : larger.subject.headBefore = input.subject.headBefore
  after : larger.subject.headAfter = input.subject.headAfter
  required : input.policy.requiredObservations ⊆ larger.policy.requiredObservations
  observed : ∀ id ∈ input.policy.requiredObservations,
    larger.observations.lookup id = input.observations.lookup id
  falsified : input.falsifications ⊆ larger.falsifications

theorem headline_mono {input larger : ClassifierInput} {p q : Predicate}
    (ok : classify input = .ok p) (okLarger : classify larger = .ok q)
    (within : Within input larger) : p.headline.rank ≤ q.headline.rank := by
  have sameStale : Stale larger.subject ↔ Stale input.subject := by
    rw [Stale, Stale, within.expected, within.before, within.after]
  by_cases stale : Stale input.subject
  · rw [(headline_stale_iff ok).mpr stale, (headline_stale_iff okLarger).mpr (sameStale.mpr stale)]
  · have upper := (fresh_headline okLarger (mt sameStale.mp stale)).1
    rcases (fresh_headline ok stale).2 with member | empty
    · apply upper
      rcases List.mem_append.mp member with observed | falsified
      · rcases List.mem_map.mp observed with ⟨id, required, same⟩
        apply List.mem_append_left
        refine List.mem_map.mpr ⟨id, within.required required, ?_⟩
        rw [← same, requiredState, requiredState, within.expected, within.observed id required]
      · rcases List.mem_map.mp falsified with ⟨f, reported, same⟩
        apply List.mem_append_right
        exact List.mem_map.mpr ⟨f, within.falsified reported, same⟩
    · rw [empty.2]
      exact Nat.zero_le _

/-- The headline of every input that can be read, and of no other. Two inputs that require and
report the same about one subject are within each other: the order of the ids and of the
falsifications, other observations and known debts do not count. -/
theorem classify_headline (input : ClassifierInput) :
    ((∃ p, classify input = .ok p) ↔ Readable input) ∧
    (∀ p, classify input = .ok p →
      (p.headline = .stale ↔ Stale input.subject) ∧
      (¬ Stale input.subject →
        (∀ s ∈ contributions input, s.rank ≤ p.headline.rank) ∧
        (p.headline ∈ contributions input ∨ contributions input = [] ∧ p.headline = .pass)) ∧
      (p.headline = .pass ↔ ¬ Stale input.subject ∧
        (∀ id ∈ input.policy.requiredObservations, ∃ observation,
          input.observations.lookup id = some observation ∧
            Clean input.subject.expectedSha observation) ∧
        input.falsifications = []) ∧
      ∀ other q, classify other = .ok q →
        (Within input other → p.headline.rank ≤ q.headline.rank) ∧
        (Within input other → Within other input → p.headline = q.headline)) := by
  constructor
  · constructor
    · intro held
      rcases held with ⟨p, ok⟩
      exact (classify_ok_iff.mp ok).1
    · intro readable
      exact ⟨_, classify_ok_iff.mpr ⟨readable, rfl⟩⟩
  · intro p ok
    refine ⟨headline_stale_iff ok, fresh_headline ok, headline_pass_iff ok, ?_⟩
    intro other q okOther
    refine ⟨headline_mono ok okOther, ?_⟩
    intro forward backward
    apply State.rank_injective
    exact le_antisymm (headline_mono ok okOther forward) (headline_mono okOther ok backward)

end O7Formal.Closure.Classifier
