import O7Formal.Run.Replay

/-! Tamper evidence. The last digest of an accepted stream fixes the whole stream: each
event's digest commits to its fields, and its previous-event digest to everything before. -/

namespace O7Formal.Run

open Fallible ByteCodec

variable {sha256 : Sha256}

def CollisionFree (sha256 : Sha256) (xs ys : List RunEvent) : Prop :=
  ∀ a ∈ xs, ∀ b ∈ ys, sha256 a.preimage = sha256 b.preimage → a.preimage = b.preimage

theorem digest_of_consistent {e : RunEvent} (consistent : e.digestIsConsistent sha256 = true) :
    e.eventDigest = e.computeDigest sha256 := by
  simpa [RunEvent.digestIsConsistent] using consistent

theorem event_of_digest {a b : RunEvent} (sizedA : a.Sized) (sizedB : b.Sized)
    (consistentA : a.digestIsConsistent sha256 = true)
    (consistentB : b.digestIsConsistent sha256 = true)
    (collisionFree : sha256 a.preimage = sha256 b.preimage → a.preimage = b.preimage)
    (same : a.eventDigest = b.eventDigest) : a = b := by
  have hashes : sha256 a.preimage = sha256 b.preimage := by
    apply Digest256.fromSha256_injective
    calc
      a.computeDigest sha256 = a.eventDigest := (digest_of_consistent consistentA).symm
      _ = b.eventDigest := same
      _ = b.computeDigest sha256 := digest_of_consistent consistentB
  have fields := preimage_fields sizedA sizedB (collisionFree hashes)
  rw [fields, same]

theorem chainIntact_of_run {events : List RunEvent} {s : RunState}
    (run : reduceAll sha256 events = .ok s) : ChainIntact sha256 events := by
  intro before e after split
  subst split
  rcases run_split run with ⟨b, t, ran, stepped, _⟩
  have envelope := (reduce_ok_iff.mp stepped).1
  have link : b.lastEventDigest = linkAfter before := (enveloped_of_run ran).lastEventDigest
  exact ⟨envelope.consistent, envelope.link.trans link⟩

theorem start_iff_first {before : List RunEvent} {e : RunEvent} {s : RunState}
    (run : reduceAll sha256 (before ++ [e]) = .ok s) :
    e.kind.isRunStarted = true ↔ before = [] := by
  rcases opened_of_run run with ⟨empty, _⟩ | ⟨first, rest, contract, task, shape, opened⟩
  · simp at empty
  · cases before with
    | nil =>
        cases shape
        simp [opened.kind, RunEventKind.isRunStarted]
    | cons head tail =>
        cases shape
        have later := opened.onlyStart e (by simp)
        simp [later]

theorem stream_of_digest {xs ys : List RunEvent} {s t : RunState}
    (runX : reduceAll sha256 xs = .ok s) (runY : reduceAll sha256 ys = .ok t)
    (sizedX : ∀ e ∈ xs, e.Sized) (sizedY : ∀ e ∈ ys, e.Sized)
    (collisionFree : CollisionFree sha256 xs ys) (nonemptyX : xs ≠ []) (nonemptyY : ys ≠ [])
    (same : linkAfter xs = linkAfter ys) : xs = ys := by
  -- along the first stream from its end; the second is consumed in step with it
  induction xs using List.reverseRecOn generalizing ys s t with
  | nil => exact absurd rfl nonemptyX
  | append_singleton before a ih =>
      rcases List.eq_nil_or_concat ys with empty | ⟨before', b, rfl⟩
      · exact absurd empty nonemptyY
      simp only [List.concat_eq_append] at *
      have last : a = b := by
        apply event_of_digest (sizedX a (by simp)) (sizedY b (by simp))
          (chainIntact_of_run runX before a [] rfl).1 (chainIntact_of_run runY before' b [] rfl).1
          (collisionFree a (by simp) b (by simp))
        simpa [linkAfter] using same
      subst last
      have empties : before = [] ↔ before' = [] :=
        (start_iff_first runX).symm.trans (start_iff_first runY)
      have links : linkAfter before = linkAfter before' :=
        (chainIntact_of_run runX before a [] rfl).2.symm.trans
          (chainIntact_of_run runY before' a [] rfl).2
      by_cases first : before = []
      · rw [first, empties.mp first]
      · rcases foldlM_snoc_ok.mp runX with ⟨s', ranX, _⟩
        rcases foldlM_snoc_ok.mp runY with ⟨t', ranY, _⟩
        have earlier := ih ranX ranY (fun e member => sizedX e (by simp [member]))
          (fun e member => sizedY e (by simp [member]))
          (fun x memberX y memberY => collisionFree x (by simp [memberX]) y (by simp [memberY]))
          first (mt empties.mpr first) links
        rw [earlier]

theorem accepted_iff_chain {events : List RunEvent} :
    (∃ s, reduceAll sha256 events = .ok s) ↔
      (∃ d, checkChain sha256 events = .ok d) ∧ ∃ s, reduceAll sha256 events = .ok s := by
  constructor
  · intro facts
    obtain ⟨s, run⟩ := facts
    exact ⟨checkChain_ok_iff.mpr (chainIntact_of_run run), s, run⟩
  · exact And.right

namespace Anchor

def contract : RunContract where
  gateObligations := []
  policyObligations := []
  sandboxRequirements := []
  agent := .notUsed "verify only"
  runnerEnvironment := "linux"
  candidateState := none

def payloads : List RunEventKind :=
  [.runStarted contract (Sample.artifact .task "task.md"), .runSealed]

def first : RunEvent :=
  (EventChain.new Sample.runId).mint standardSha256 ⟨"run-1-e0", by decide⟩ 0
    (.runStarted contract (Sample.artifact .task "task.md"))

def second : RunEvent :=
  EventChain.mint standardSha256 ⟨Sample.runId, 1, first.eventDigest, [first]⟩
    ⟨"run-1-e1", by decide⟩ 0 .runSealed

theorem accepted : ∃ s, reduceAll standardSha256 [first, second] = .ok s := by
  have folded : ∃ t, foldPayloads Sample.runId .initial payloads = .ok t := ⟨_, rfl⟩
  rcases folded with ⟨t, folded⟩
  rcases mintStream_of_fold standardSha256 0 folded (by decide) with ⟨s, run, _⟩
  exact ⟨s, run⟩

theorem sized : ∀ e ∈ [first, second], e.Sized := by
  have run : Short "run-1" := by decide
  have ids : Short "run-1-e0" ∧ Short "run-1-e1" := by decide
  have texts : Short "verify only" ∧ Short "linux" ∧ Short "task.md" := by decide
  intro e member
  rcases List.mem_cons.mp member with rfl | later
  · refine ⟨run, ids.1, ⟨?_, ?_, ?_, texts.1, texts.2.1, nofun⟩, texts.2.2⟩
    · exact ⟨by decide, nofun⟩
    · exact ⟨by decide, nofun⟩
    · exact ⟨by decide, nofun⟩
  · rw [List.mem_singleton.mp later]
    exact ⟨run, ids.2, trivial⟩

theorem stamped : first.eventDigest = .ofBytes standardSha256 first.preimage :=
  eq_of_beq (EventChain.mint_consistent (EventChain.new Sample.runId) ⟨"run-1-e0", by decide⟩ 0
    (.runStarted contract (Sample.artifact .task "task.md")))

theorem framed (bytes : List UInt8) : frameStr (Digest256.ofBytes standardSha256 bytes).asStr =
    frame (((Sha2.quickSha256 bytes).flatMap hexByte).flatMap String.utf8EncodeChar) :=
  congrArg frame (Digest256.asStr_standard bytes)

theorem distinct : standardSha256 first.preimage ≠ standardSha256 second.preimage := by
  have link : frameStr second.previousEventDigest.asStr =
      frame (((Sha2.quickSha256 first.preimage).flatMap hexByte).flatMap String.utf8EncodeChar) := by
    rw [← framed, ← stamped]
    rfl
  have payload : foldKind first.kind =
      foldContract contract ++ foldArtifact (Sample.artifact .task "task.md") := rfl
  apply standardSha256_ne
  unfold RunEvent.preimage at link ⊢
  rw [link, payload]
  simp only [eventDomain, foldContract, foldAgentObligation, foldArtifact, frameStr, contract,
    utf8Bytes_eq_stored]
  decide +kernel

theorem collisionFree : CollisionFree standardSha256 [first, second] [first, second] := by
  intro a memberA b memberB same
  simp only [List.mem_cons, List.not_mem_nil, or_false] at memberA memberB
  rcases memberA with rfl | rfl <;> rcases memberB with rfl | rfl
  · rfl
  · exact absurd same distinct
  · exact absurd same.symm distinct
  · rfl

end Anchor

/-- Tamper evidence: two accepted streams whose last events carry one digest are equal
element by element. Acceptance is that of the reducer, or of the pre-pass and the reducer. -/
theorem tamper_evident {xs ys : List RunEvent} {s t : RunState}
    (runX : reduceAll sha256 xs = .ok s) (runY : reduceAll sha256 ys = .ok t)
    (sizedX : ∀ e ∈ xs, e.Sized) (sizedY : ∀ e ∈ ys, e.Sized)
    (collisionFree : CollisionFree sha256 xs ys) {a b : RunEvent} (lastX : xs.getLast? = some a)
    (lastY : ys.getLast? = some b) (same : a.eventDigest = b.eventDigest) :
    xs = ys ∧ ∀ events, (∃ s, reduceAll sha256 events = .ok s) ↔
      (∃ d, checkChain sha256 events = .ok d) ∧ ∃ s, reduceAll sha256 events = .ok s := by
  have nonemptyX : xs ≠ [] := by
    intro same
    subst same
    cases lastX
  have nonemptyY : ys ≠ [] := by
    intro same
    subst same
    cases lastY
  have links : linkAfter xs = linkAfter ys := by
    simp [linkAfter, lastX, lastY, same]
  exact ⟨stream_of_digest runX runY sizedX sizedY collisionFree nonemptyX nonemptyY links,
    fun _ => accepted_iff_chain⟩

theorem tamper_evident_anchor :
    (∃ s, reduceAll standardSha256 [Anchor.first, Anchor.second] = .ok s) ∧
      [Anchor.first, Anchor.second] = Anchor.first :: [Anchor.second] ∧
      ∃ d, checkChain standardSha256 [Anchor.first, Anchor.second] = .ok d := by
  rcases Anchor.accepted with ⟨s, run⟩
  have evident := tamper_evident run run Anchor.sized Anchor.sized Anchor.collisionFree
    (a := Anchor.second) (b := Anchor.second) rfl rfl rfl
  exact ⟨⟨s, run⟩, evident.1, ((evident.2 _).mp ⟨s, run⟩).1⟩

end O7Formal.Run
