import O7Formal.Dispatch.Grounded
import O7Formal.Dispatch.Producers

/-! The files of a continuation: no two of them share a name, each lies in the record, and each is
written before the event that names it. -/

namespace O7Formal.Dispatch

open O7Formal.Producers (GateManifest Outcome logLocator)
open O7Formal.Run (RunContract referencedArtifacts)

section Files

variable {env : Setting} {a : ContinueArgs} {o : Outside} {exitCode : Option Int32}
  {ran : List Outcome} {contract : RunContract} {m : GateManifest} {parentRunId : CanonicalRunId}

def evidenceFiles (env : Setting) (a : ContinueArgs) (o : Outside)
    (parentRunId : CanonicalRunId) : List (String × List UInt8) :=
  [("task.md", ByteCodec.utf8Bytes a.command),
    (Run.commandBindingLocator, env.writeBinding (ownBinding env a parentRunId)),
    (Run.parentCandidateReceiptLocator, o.sourceReceipt),
    (Run.parentCandidatePatchLocator, o.sourcePatch)] ++
    (o.sessionId.toList.map fun _ => ("session_receipt.json", o.sessionReceipt)) ++
    [("agent.stdout", o.stdout), ("diff.patch", o.diff),
      (Run.candidatePatchLocator, o.candidatePatch),
      (Run.candidateStateReceiptLocator, o.candidateReceipt)]

def flatNames : List String :=
  ["task.md", Run.commandBindingLocator, Run.parentCandidateReceiptLocator,
    Run.parentCandidatePatchLocator, "session_receipt.json", "agent.stdout", "diff.patch",
    Run.candidatePatchLocator, Run.candidateStateReceiptLocator]

theorem evidenceFiles_names :
    ((evidenceFiles env a o parentRunId).map Prod.fst).Sublist flatNames := by
  unfold evidenceFiles flatNames
  cases o.sessionId with
  | none =>
      simp only [Option.toList_none, List.map_nil, List.append_nil, List.cons_append,
        List.nil_append, List.map_cons]
      decide
  | some session =>
      simp only [Option.toList_some, List.map_nil, List.cons_append, List.nil_append,
        List.map_cons]
      decide

theorem entries_gate {step : Outcome} (held : m.Valid) (member : step.1 ∈ m.gate) :
    entries (gateItems env (liveStep step)) =
      if Producers.skipped step.1 then [] else [(logLocator step.1, step.2.combined)] := by
  rcases held.gateId member with ⟨gate, minted, _⟩
  cases skips : Producers.skipped step.1 with
  | true => simp [gateItems, liveStep, skips, entries, itemFiles]
  | false =>
      simp only [gateItems, liveStep, skips, Producers.runOneStep_ran skips, minted,
        if_neg (Producers.logLocator_ne step.1)]
      rfl

theorem entries_gates {steps : List Outcome} (held : m.Valid)
    (members : ∀ step ∈ steps, step.1 ∈ m.gate) :
    entries ((steps.map liveStep).flatMap (gateItems env)) =
      (steps.filter fun step => !Producers.skipped step.1).map fun step =>
        (logLocator step.1, step.2.combined) := by
  induction steps with
  | nil => rfl
  | cons step rest ih =>
      rw [List.forall_mem_cons] at members
      rw [List.map_cons, List.flatMap_cons, entries_append, entries_gate held members.1,
        ih members.2]
      cases skips : Producers.skipped step.1 <;> simp [skips]

theorem entries_continue (held : m.Valid) (steps : ran.map Prod.fst = m.gate) :
    entries (continueItems env a (o.observed exitCode ran) parentRunId contract) =
      evidenceFiles env a o parentRunId ++ (Producers.gateLogs ran).reverse ++
        [("meta.json", o.runMeta)] := by
  have members : ∀ step ∈ ran, step.1 ∈ m.gate := by
    intro step among
    rw [← steps]
    exact List.mem_map_of_mem among
  have session : entries (sessionItems env (o.observed exitCode ran)) =
      o.sessionId.toList.map fun _ => ("session_receipt.json", o.sessionReceipt) := by
    unfold sessionItems Outside.observed
    cases o.sessionId <;> rfl
  have gates : entries ((o.observed exitCode ran).gates.flatMap (gateItems env)) =
      (Producers.gateLogs ran).reverse := by
    rw [Producers.gateLogs, List.reverse_reverse]
    exact entries_gates held members
  simp only [continueItems, prepareItems, bindItems, copyItems, finishItems, entries_append,
    List.cons_append, entries_file, entries_event, session, gates, evidenceFiles]
  simp [entries, itemFiles, RecordFile.entry, Outside.observed]

theorem flat_of_flatNames {name : String} (member : name ∈ flatNames) : '/' ∉ name.toList := by
  have all : ∀ name ∈ flatNames, '/' ∉ name.toList := by decide
  exact all name member

theorem mem_gateLogs {name : String} {bytes : List UInt8}
    (member : (name, bytes) ∈ Producers.gateLogs ran) : ∃ step, name = logLocator step := by
  rw [Producers.gateLogs, List.mem_reverse] at member
  rcases List.mem_map.mp member with ⟨step, _, same⟩
  exact ⟨step.1, (Prod.mk.inj same).1.symm⟩

theorem continue_distinct (held : m.Valid) (steps : ran.map Prod.fst = m.gate) :
    ((entries (continueItems env a (o.observed exitCode ran) parentRunId contract)).map
      Prod.fst).Nodup := by
  have logs : (((Producers.gateLogs ran).reverse).map Prod.fst).Nodup := by
    rw [List.map_reverse, List.nodup_reverse]
    exact Producers.gateLogs_nodup held steps
  have flat : ((evidenceFiles env a o parentRunId).map Prod.fst).Nodup :=
    List.Nodup.sublist evidenceFiles_names (by decide)
  have apart : ∀ name ∈ ((Producers.gateLogs ran).reverse).map Prod.fst, '/' ∈ name.toList := by
    intro name member
    rcases List.mem_map.mp member with ⟨entry, among, rfl⟩
    rcases mem_gateLogs (List.mem_reverse.mp among) with ⟨step, same⟩
    by_contra none
    exact logLocator_apart step none same.symm
  rw [entries_continue held steps, List.map_append, List.map_append, List.nodup_append,
    List.nodup_append]
  refine ⟨⟨flat, logs, ?_⟩, List.nodup_singleton _, ?_⟩
  · intro name inFlat other inLogs same
    subst same
    exact flat_of_flatNames (evidenceFiles_names.subset inFlat) (apart name inLogs)
  · intro name member other last same
    rw [List.map_cons, List.map_nil, List.mem_singleton] at last
    subst same last
    cases List.mem_append.mp member with
    | inl inFlat =>
        have outside : "meta.json" ∉ flatNames := by decide
        exact outside (evidenceFiles_names.subset inFlat)
    | inr inLogs =>
        have flat : '/' ∉ "meta.json".toList := by decide
        exact flat (apart _ inLogs)

theorem continue_confined (held : m.Valid) (steps : ran.map Prod.fst = m.gate) :
    ∀ entry ∈ entries (continueItems env a (o.observed exitCode ran) parentRunId contract),
      confined entry.1 = true := by
  intro entry member
  rw [entries_continue held steps, List.mem_append, List.mem_append] at member
  rcases member with (inFlat | inLogs) | last
  · have listed := evidenceFiles_names.subset (List.mem_map_of_mem inFlat)
    have all : ∀ name ∈ flatNames, confined name = true := by decide
    exact all _ listed
  · rcases mem_gateLogs (List.mem_reverse.mp inLogs) with ⟨step, same⟩
    rw [same]
    exact confined_logLocator step
  · have inside : confined "meta.json" = true := by decide
    rw [List.mem_singleton] at last
    rw [last]
    exact inside

theorem mem_last {files : List (String × List UInt8)} {entry : String × List UInt8} :
    entry ∈ files ++ [entry] := List.mem_append_right _ (List.mem_singleton_self entry)

theorem grounded_gate (step : GateStep) (files : List (String × List UInt8)) :
    Grounded env.sha256 files (gateItems env step) := by
  unfold gateItems
  split
  · trivial
  · split
    · trivial
    · apply grounded_silent rfl
      cases step.log with
      | none => exact grounded_silent rfl trivial
      | some log =>
          apply grounded_file
          exact grounded_event rfl mem_last rfl trivial

theorem grounded_gates (steps : List GateStep) (files : List (String × List UInt8)) :
    Grounded env.sha256 files (steps.flatMap (gateItems env)) := by
  induction steps generalizing files with
  | nil => trivial
  | cons step rest ih =>
      rw [List.flatMap_cons, grounded_append]
      exact ⟨grounded_gate step files, ih _⟩

theorem grounded_session (files : List (String × List UInt8)) :
    Grounded env.sha256 files (sessionItems env o) := by
  unfold sessionItems
  cases o.sessionId with
  | none => trivial
  | some session =>
      apply grounded_file
      exact grounded_event rfl mem_last rfl trivial

theorem grounded_finish (files : List (String × List UInt8)) :
    Grounded env.sha256 files (finishItems env o) := by
  rw [finishItems, grounded_append, grounded_append, grounded_append]
  refine ⟨⟨⟨?_, ?_⟩, grounded_gates _ _⟩, grounded_silent rfl trivial⟩
  · exact grounded_silent rfl (grounded_session _)
  · apply grounded_file
    apply grounded_file
    refine grounded_event rfl mem_last rfl ?_
    apply grounded_file
    apply grounded_file
    exact grounded_event rfl mem_last rfl trivial

theorem grounded_bind (policies : contract.policyObligations = []) :
    Grounded env.sha256 [] (bindItems env a parentRunId contract) := by
  have task : referencedArtifacts (.runStarted contract (taskArtifact env a)) =
      [taskArtifact env a] := by
    rw [referencedArtifacts, policies]
    rfl
  apply grounded_file
  apply grounded_file
  apply grounded_file
  refine grounded_event task (List.mem_append_left _ mem_last) rfl ?_
  exact grounded_event rfl mem_last rfl trivial

theorem continue_grounded (policies : contract.policyObligations = []) :
    Grounded env.sha256 [] (continueItems env a o parentRunId contract) := by
  have copies : ∀ files, Grounded env.sha256 files
      (copyItems o ++ [.event (materialized env o parentRunId)]) := by
    intro files
    apply grounded_file
    apply grounded_file
    refine ⟨?_, trivial⟩
    intro r member
    rcases List.mem_cons.mp member with receipt | patch
    · rw [receipt]
      exact ⟨o.sourceReceipt, List.mem_append_left _ mem_last, rfl⟩
    · rw [List.mem_singleton.mp patch]
      exact ⟨o.sourcePatch, mem_last, rfl⟩
  rw [continueItems, prepareItems, grounded_append, grounded_append, List.append_assoc,
    grounded_append]
  refine ⟨⟨⟨grounded_bind policies, copies _⟩, ?_⟩, trivial⟩
  exact grounded_silent rfl (grounded_finish _)

end Files

end O7Formal.Dispatch
