import O7Formal.Producers.Events

/-! A stream that is built after the run: it is minted whenever the clock works, and it holds the
payloads of the run. -/

namespace O7Formal.Producers

open Fallible
open O7Formal.Run (ArtifactRef EventChain RunContract RunEventKind Sha256)

variable {sha256 : Sha256} {clock : UInt64 → Option Int64} {m : GateManifest} {c : RunContract}

theorem push_mints {chain chain' : EventChain} {kind : RunEventKind}
    (pushed : push sha256 clock chain kind = .ok chain') : chain.Mints sha256 [kind] chain' :=
  .one (mapError_ok_iff.mp pushed)

theorem gateLogs_names (ran : List Outcome) : (gateLogs ran).map Prod.fst =
    ((ran.filter fun step => !skipped step.1).map fun step => logLocator step.1).reverse := by
  simp [gateLogs, Function.comp_def]

theorem logPath_injective : Function.Injective fun name : String => "gate/" ++ (name ++ ".log") := by
  intro a b same
  have texts := congrArg String.toList same
  simp only [String.toList_append, List.append_cancel_left_eq,
    List.append_cancel_right_eq] at texts
  exact String.toList_inj.mp texts

theorem gateLogs_nodup {ran : List Outcome} (valid : m.Valid)
    (steps : ran.map Prod.fst = m.gate) : ((gateLogs ran).map Prod.fst).Nodup := by
  have logs := valid.logs
  rw [← steps, List.map_map] at logs
  have kept : ((ran.filter fun step => !skipped step.1).map fun step =>
      sanitize step.1.name).Nodup :=
    List.Nodup.sublist (List.filter_sublist.map _) logs
  rw [gateLogs_names, List.nodup_reverse]
  have named := kept.map logPath_injective
  rwa [List.map_map] at named

theorem lookup_of_mem {logs : List (String × List UInt8)} {log : String} {bytes : List UInt8}
    (distinct : (logs.map Prod.fst).Nodup) (member : (log, bytes) ∈ logs) :
    logs.lookup log = some bytes := by
  induction logs with
  | nil => cases member
  | cons first rest ih =>
      rw [List.map_cons, List.nodup_cons] at distinct
      rcases List.mem_cons.mp member with same | later
      · rw [← same]
        exact List.lookup_cons_self
      · have apart : log ≠ first.1 := by
          intro same
          apply distinct.1
          rw [← same]
          exact List.mem_map_of_mem later
        rw [List.lookup_cons, beq_false_of_ne apart]
        exact ih distinct.2 later

theorem readBack_own {ran : List Outcome} (valid : m.Valid) (steps : ran.map Prod.fst = m.gate)
    {step : Outcome} (member : step ∈ ran) (runs : skipped step.1 = false) :
    readBack ran (logLocator step.1) = .ok step.2.combined := by
  have listed : (logLocator step.1, step.2.combined) ∈ gateLogs ran := by
    rw [gateLogs, List.mem_reverse]
    apply List.mem_map.mpr
    exact ⟨step, List.mem_filter.mpr ⟨member, by simp [runs]⟩, rfl⟩
  have found := lookup_of_mem (gateLogs_nodup valid steps) listed
  rw [readBack, found]

theorem runOneStep_skipped {step : Outcome} (skips : skipped step.1 = true) :
    (runOneStep step.1 step.2).verdict = .blocked ∨
      (runOneStep step.1 step.2).verdict = .notApplicable := by
  rw [runOneStep, if_pos skips]
  cases waiver step.1 with
  | none => exact .inl rfl
  | some reason => exact .inr rfl

theorem runOneStep_ran {step : Outcome} (runs : skipped step.1 = false) :
    runOneStep step.1 step.2 = ⟨step.1.name, step.1.required, step.2.verdict, step.2.code,
      logLocator step.1, none⟩ := by
  rw [runOneStep, if_neg (by simp [runs])]

theorem Ran.executed (ran : Ran) : ¬ (ran.verdict = .blocked ∨ ran.verdict = .notApplicable) := by
  cases ran with
  | exited code output =>
      rw [Ran.verdict]
      split <;> simp
  | notSpawned why => simp [Ran.verdict]

section Steps

variable {ran : List Outcome} (held : Contracted m c) (steps : ran.map Prod.fst = m.gate)
  {step : Outcome} (member : step ∈ ran)

include held steps member

theorem pushStep_eq (chain : EventChain) :
    pushStep sha256 clock (readBack ran) chain (runOneStep step.1 step.2) =
      (gateKinds sha256 step).foldlM (push sha256 clock) chain := by
  cases skips : skipped step.1 with
  | true =>
      rw [gateKinds_of_skipped skips, pushStep, if_pos (runOneStep_skipped skips)]
      rfl
  | false =>
      have among : step.1 ∈ m.gate := by
        rw [← steps]
        exact List.mem_map_of_mem member
      rcases held.valid.gateId among with ⟨gate, minted, _⟩
      have read := readBack_own held.valid steps member skips
      have log : readLog sha256 (readBack ran) (logLocator step.1) =
          .ok (some (artifact sha256 .gateLog (logLocator step.1) step.2.combined)) := by
        rw [readLog, if_neg (logLocator_ne step.1), read]
        rfl
      rw [gateKinds_of_runs skips minted, runOneStep_ran skips, pushStep,
        if_neg step.2.executed]
      simp only [minted, log, Except.mapError, ok_bind, List.foldlM_cons, List.foldlM_nil,
        bind_pure]

omit member in
theorem pushSteps_eq (chain : EventChain) :
    (ran.map fun step => runOneStep step.1 step.2).foldlM
        (pushStep sha256 clock (readBack ran)) chain =
      (ran.flatMap (gateKinds sha256)).foldlM (push sha256 clock) chain := by
  have each : ∀ step ∈ ran, ∀ chain, pushStep sha256 clock (readBack ran) chain
      (runOneStep step.1 step.2) = (gateKinds sha256 step).foldlM (push sha256 clock) chain :=
    fun step among chain => pushStep_eq held steps among chain
  generalize readBack ran = read at each ⊢
  clear steps
  induction ran generalizing chain with
  | nil => rfl
  | cons step rest ih =>
      rw [List.forall_mem_cons] at each
      rw [List.map_cons, List.flatMap_cons, List.foldlM_cons, List.foldlM_append, each.1]
      congr 1
      funext later
      exact ih later each.2

end Steps

def Extras.none : Extras := ⟨[], Option.none, Option.none⟩

theorem recordRun_eq {runId : String} {task diff : ArtifactRef} {exitCode : Option Int32}
    {ran : List Outcome} (held : Contracted m c) (steps : ran.map Prod.fst = m.gate) :
    recordRun sha256 clock runId c task diff exitCode ran = (do
      let rid ← (Run.Id.new .run runId).mapError BuildError.id
      let chain ← (runKinds sha256 .none c task diff (agentOutcome exitCode) ran).foldlM
        (push sha256 clock) (EventChain.new rid)
      pure chain.out) := by
  simp only [recordRun, buildEvents, pushSteps_eq held steps]
  congr 1
  funext rid
  simp only [runKinds, afterDispatch, Extras.none, List.foldlM_cons, List.foldlM_append,
    List.foldlM_nil, Option.toList_none, List.map_nil, List.nil_append, List.cons_append,
    bind_assoc, bind_pure]

theorem foldlM_push_mints {chain chain' : EventChain} {minted : List RunEventKind}
    (pushed : minted.foldlM (push sha256 clock) chain = .ok chain') :
    chain.Mints sha256 minted chain' := by
  induction minted generalizing chain with
  | nil =>
      cases pushed
      exact .nil
  | cons kind rest ih =>
      rw [List.foldlM_cons, bind_ok_iff] at pushed
      rcases pushed with ⟨next, first, later⟩
      exact (push_mints first).append (ih later)

theorem push_fails {chain : EventChain} {kind : RunEventKind} :
    FailsWithin (fun e => e = .push .clock ∨ e = .push .sequenceOverflow)
      (push sha256 clock chain kind) := by
  intro e failed
  rcases mapError_error_iff.mp failed with ⟨fault, why, rfl⟩
  rcases EventChain.push_fails _ why with rfl | rfl
  · exact .inl rfl
  · exact .inr rfl

end O7Formal.Producers
