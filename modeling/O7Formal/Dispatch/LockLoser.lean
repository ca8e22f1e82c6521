import O7Formal.Dispatch.Glimpse
import O7Formal.Ledger.Growth

/-! A retry that finds the old child's lock taken by a continuation that is still at work. It reads
the command and looks at the record without the lock, and what it reports is what the record showed
at a moment of the call: past the dispatch boundary, an outcome that is ambiguous. -/

namespace O7Formal.Dispatch

open Program
open O7Formal.Ledger (Command Op Tables)
open O7Formal.Producers (GateManifest Outcome)
open O7Formal.Run (CandidateStateContractV1 CandidateStateReceiptV1 RepositoryIdentity RunContract
  kinds)

structure Passing (env : Setting) (ledger : Nat → Tables) : Prop where
  reached : Ledger.Reachable env.sha256 env.serde (ledger 0)
  steps : ∀ t, ∃ ops, ledger (t + 1) = Ledger.run env.sha256 env.serde (ledger t) ops

def unresolved (why : String) : ChildRecordState :=
  .invalid (.text ("resolving the record directory: " ++ why))

section Losing

variable (env : Setting) (ledger : Nat → Tables) (record : Nat → RecordDir) (begun last : Nat)

def MayAnswer : (c : Call) → c.Answer → Prop
  | .tryLock _, (answer : LockAnswer) => answer ≠ .acquired
  | .command id, (answer : Except Fault (Option Command)) =>
      (∃ e, answer = .error e) ∨
        ∃ t, begun ≤ t ∧ t ≤ last ∧ answer = .ok (Ledger.loadCommand id (ledger t))
  | .classify runId current, (answer : ChildRecordState) =>
      (∃ why, answer = unresolved why) ∨ ∃ t dir, begun ≤ t ∧ t ≤ last ∧
        Glimpse record t last dir ∧
        answer = classifyCommandChild env.sha256 env.ext dir runId current
  | _, _ => True

def Looks : Call → Prop
  | .attempt _ | .tryLock _ | .command _ | .classify _ _ => True
  | _ => False

/-- The protocol of a call that only looks, with the answers of one run of it. -/
def looking (trace : Trace Call Call.Answer) : Protocol Call Call.Answer Unit where
  permits _ c := Looks c
  answers c r := answeredIn trace c r ∧ MayAnswer env ledger record begun last c r
  learns _ _ _ := ()

inductive Loses (command : Command) (oldRunId : RunId) (trace : Trace Call Call.Answer) :
    Except RedriveError Command → Prop
  /-- It could not ask who holds the lock. -/
  | unasked : (∃ e, answeredIn trace (.attempt "opening the lock file") (.error e)) ∨
      (∃ errno, answeredIn trace (.tryLock oldRunId) (.failed errno)) →
      Loses command oldRunId trace (.ok command)
  | row (t : Nat) (current : Command) : begun ≤ t → t ≤ last →
      Ledger.loadCommand command.commandId (ledger t) = some current →
      Loses command oldRunId trace (.ok current)
  /-- The record showed the dispatch and no seal. -/
  | ambiguous (t : Nat) (dir : RecordDir) (current : Command) (progress : DispatchProgress) :
      begun ≤ t → t ≤ last → Glimpse record t last dir →
      classifyCommandChild env.sha256 env.ext dir oldRunId current =
        .validUnsealedDispatchAmbiguous progress →
      .agentStarted ∈ kinds (record t).events.stream →
      .runSealed ∉ kinds (record t).events.stream →
      Loses command oldRunId trace
        (.error (.providerOutcomeAmbiguous command.commandId oldRunId progress))
  | unread (e : Fault) (why : String) : answeredIn trace (.command command.commandId) (.error e) →
      Loses command oldRunId trace (.error (.storage why (some e)))
  | unresolved (current : Command) (why : String) (reason : Reason) :
      .invalid reason = Dispatch.unresolved why →
      answeredIn trace (.classify oldRunId current) (Dispatch.unresolved why) →
      Loses command oldRunId trace (.error (.invalidRecord reason))

end Losing

section Rows

variable {env : Setting} {ledger : Nat → Tables} (passing : Passing env ledger)

include passing

theorem passing_reached (t : Nat) : Ledger.Reachable env.sha256 env.serde (ledger t) := by
  induction t with
  | zero => exact passing.reached
  | succ t ih =>
      rcases ih with ⟨ops, same⟩
      rcases passing.steps t with ⟨later, next⟩
      refine ⟨ops ++ later, ?_⟩
      rw [Ledger.run_append, same, next]

theorem passing_origins (t : Nat) : Ledger.KeepsOrigins (ledger 0) (ledger t) := by
  induction t with
  | zero => exact .refl _
  | succ t ih =>
      rcases passing.steps t with ⟨later, next⟩
      rw [next]
      exact ih.trans (Ledger.run_origins (Ledger.reachable_keys (passing_reached passing t)) later)

theorem dispatched_always {commandId : String} {first : Command} {a : ContinueArgs}
    (found : Ledger.loadCommand commandId (ledger 0) = some first) (dispatched : Dispatches first a)
    (t : Nat) :
    ∃ current, Ledger.loadCommand commandId (ledger t) = some current ∧ Dispatches current a ∧
      current.commandId = commandId := by
  rcases passing_origins passing t commandId first found with ⟨current, there, same⟩
  refine ⟨current, there, ?_, (Table.lookup_mem there).2⟩
  exact ⟨same.commandId.trans dispatched.commandId,
    same.conversationId.trans dispatched.conversationId,
    same.parentRunId.trans dispatched.parentRunId, same.commandText.trans dispatched.commandText⟩

end Rows

section Looking

variable {env : Setting} {ledger : Nat → Tables} {record : Nat → RecordDir} {begun last : Nat}
  {command : Command} {a : ContinueArgs} {trace : Trace Call Call.Answer}

theorem reread_looks {commandId : String} (vanished failed : String)
    (present : ∀ t, ∃ current, Ledger.loadCommand commandId (ledger t) = some current) :
    (reread commandId vanished failed).run.Obeys (looking env ledger record begun last trace) ()
      fun r _ =>
        (∃ t current, begun ≤ t ∧ t ≤ last ∧
          Ledger.loadCommand commandId (ledger t) = some current ∧ r = .ok current) ∨
        ∃ e, answeredIn trace (.command commandId) (.error e) ∧
          r = .error (.storage failed (some e)) := by
  apply obeys_try
  apply obeys_lift
  refine ⟨trivial, ?_⟩
  intro answer possible
  refine ⟨?_, Fallible.ok_not_error⟩
  intro found same
  cases same
  cases answer with
  | error e => exact .inr ⟨e, possible.1, rfl⟩
  | ok found =>
      rcases possible.2 with ⟨e, failed⟩ | ⟨t, after, before, read⟩
      · cases failed
      · rcases present t with ⟨current, there⟩
        rw [there] at read
        cases read
        exact .inl ⟨t, current, after, before, there, rfl⟩

variable (looked : ∀ t dir current, begun ≤ t → t ≤ last → Glimpse record t last dir →
    Dispatches current a → CrashPoint
      (classifyCommandChild env.sha256 env.ext dir a.runId current)
      (kinds (record t).events.stream))

include looked

theorem orRefuse_looks {current : Command} (dispatched : Dispatches current a)
    (named : current.commandId = command.commandId) {otherwise : Fallible RedriveError Command}
    (later : otherwise.run.Obeys (looking env ledger record begun last trace) ()
      fun r _ => Loses env ledger record begun last command a.runId trace r) :
    (orRefuse a.runId current otherwise).run.Obeys (looking env ledger record begun last trace) ()
      fun r _ => Loses env ledger record begun last command a.runId trace r := by
  apply obeys_try
  apply obeys_lift
  refine ⟨trivial, ?_⟩
  intro state possible
  refine ⟨?_, Fallible.ok_not_error⟩
  intro state' same
  cases same
  rcases possible with ⟨answered, ⟨why, failed⟩ | ⟨t, dir, after, before, glimpse, seen⟩⟩
  · rw [failed] at answered ⊢
    exact .unresolved current why _ rfl answered
  · have point := looked t dir current after before glimpse dispatched
    rw [← seen] at point
    cases state with
    | invalid reason => exact absurd rfl (point.valid reason)
    | validUnsealedDispatchAmbiguous progress =>
        rcases point.ambiguous.mp ⟨progress, rfl⟩ with ⟨started, unsealed⟩
        have lost : Loses env ledger record begun last command a.runId trace
            (.error (.providerOutcomeAmbiguous command.commandId a.runId progress)) :=
          .ambiguous t dir current progress after before glimpse seen.symm started unsealed
        rwa [← named] at lost
    | validSealed => exact later
    | absent => exact later
    | validUnsealedPreDispatch => exact later

variable (always : ∀ t, ∃ current, Ledger.loadCommand command.commandId (ledger t) = some current ∧
    Dispatches current a ∧ current.commandId = command.commandId)

include always

theorem converge_looks (polls : Nat) :
    (convergeOnWinner command.commandId a.runId polls).run.Obeys
      (looking env ledger record begun last trace) ()
      fun r _ => Loses env ledger record begun last command a.runId trace r := by
  have present : ∀ t, ∃ current, Ledger.loadCommand command.commandId (ledger t) = some current :=
    fun t => (always t).imp fun _ facts => facts.1
  have read : ∀ {vanished failed : String} {next : Command → Fallible RedriveError Command},
      (∀ t current, begun ≤ t → t ≤ last →
        Ledger.loadCommand command.commandId (ledger t) = some current →
        Dispatches current a → current.commandId = command.commandId →
        (next current).run.Obeys (looking env ledger record begun last trace) ()
          fun r _ => Loses env ledger record begun last command a.runId trace r) →
      (reread command.commandId vanished failed >>= next).run.Obeys
        (looking env ledger record begun last trace) ()
        fun r _ => Loses env ledger record begun last command a.runId trace r := by
    intro vanished failed next later
    apply obeys_try
    apply obeys_mono (reread_looks vanished failed present)
    intro r _ reached
    rcases reached with ⟨t, current, after, before, there, rfl⟩ | ⟨e, answered, rfl⟩
    · refine ⟨?_, Fallible.ok_not_error⟩
      intro found same
      cases same
      rcases always t with ⟨other, there', dispatched, named⟩
      cases there'.symm.trans there
      exact later t current after before there dispatched named
    · refine ⟨Fallible.error_not_ok, ?_⟩
      intro e' same
      cases same
      exact .unread e _ answered
  induction polls with
  | zero =>
      apply read
      intro t current after before there dispatched named
      exact orRefuse_looks looked dispatched named (.row t current after before there)
  | succ polls ih =>
      apply read
      intro t current after before there dispatched named
      split
      · exact .row t current after before there
      · exact orRefuse_looks looked dispatched named ih

theorem redriveOrRecover_looks (polls : Nat) (conversationId parentRunId : String) :
    (redriveOrRecoverLocked env polls command a.runId conversationId parentRunId).run.Obeys
      (looking env ledger record begun last trace) ()
      fun r _ => Loses env ledger record begun last command a.runId trace r := by
  apply obeys_try
  apply obeys_lift
  refine ⟨trivial, ?_⟩
  intro opened possible
  refine ⟨?_, Fallible.ok_not_error⟩
  intro opened' same
  cases same
  cases opened with
  | error e => exact .unasked (.inl ⟨e, possible.1⟩)
  | ok done =>
      apply obeys_try
      apply obeys_lift
      refine ⟨trivial, ?_⟩
      intro lock possible
      refine ⟨?_, Fallible.ok_not_error⟩
      intro lock' same
      cases same
      cases lock with
      | failed errno => exact .unasked (.inr ⟨errno, possible.1⟩)
      | wouldBlock => exact converge_looks looked always polls
      | acquired => exact absurd rfl possible.2

end Looking

theorem looks_leave {env : Setting} {c : Call} (looks : Looks c) (chance : Chance) (w : World)
    (i : Nat) : (perform env chance w i c).2.ledger = w.ledger ∧
      (perform env chance w i c).2.records = w.records ∧ starts env chance c = [] := by
  cases c with
  | attempt what =>
      cases failed : chance.fails <;> simp [perform, doing, starts, failed]
  | tryLock runId =>
      simp only [perform, lockAnswer]
      split
      · exact ⟨rfl, rfl, rfl⟩
      · split <;> exact ⟨rfl, rfl, rfl⟩
  | command id => exact ⟨rfl, rfl, rfl⟩
  | classify runId current => exact ⟨rfl, rfl, rfl⟩
  | _ => exact looks.elim

theorem performed_mayAnswer {env : Setting} {ledger : Nat → Tables} {record : Nat → RecordDir}
    {begun t last : Nat} (after : begun ≤ t) (before : t ≤ last) {w : World}
    (rows : w.ledger = ledger t) (chance : Chance) (i : Nat) {c : Call}
    (locked : ∀ runId, c = .tryLock runId → w.locks runId ≠ none)
    (recorded : ∀ runId current, c = .classify runId current → w.records runId = record t) :
    MayAnswer env ledger record begun last c (perform env chance w i c).1 := by
  cases c with
  | tryLock runId =>
      intro acquired
      simp only [perform, lockAnswer] at acquired
      split at acquired
      · cases acquired
      · rw [if_neg (locked runId rfl)] at acquired
        cases acquired
  | command id =>
      simp only [MayAnswer, perform, reading]
      split
      · exact .inl ⟨_, rfl⟩
      · exact .inr ⟨t, after, before, by rw [rows]⟩
  | classify runId current =>
      simp only [MayAnswer, perform, classifyAnswer]
      split
      · exact .inl ⟨_, rfl⟩
      · refine .inr ⟨t, record t, after, before, ?_, by rw [recorded runId current rfl]⟩
        exact ⟨rfl, ⟨t, le_rfl, before, rfl⟩, ⟨t, le_rfl, before, rfl⟩,
          fun _ => ⟨t, le_rfl, before, rfl⟩⟩
  | _ => exact trivial

section Retry

variable {env : Setting} {ledger : Nat → Tables} {begun last : Nat}
  {writeReceipt : CandidateStateReceiptV1 → List UInt8} {repo : RepositoryIdentity}
  {parent start : RecordDir} {a : ContinueArgs} {o : Outside} {exitCode : Option Int32}
  {ran : List Outcome} {base : RunContract} {obligation : CandidateStateContractV1}
  {treeOid : String} {calls : Nat → Trace Call Call.Answer} {m : GateManifest} {applied : Bool}
  {command first : Command}

/-- Whatever a continuation that holds the lock does meanwhile, a retry changes nothing; it comes
back with a row of the ledger, with an outcome that was ambiguous while it looked, or with a failed
read. -/
theorem retry_looks (built : Producers.buildContract m = .ok base)
    (steps : ran.map Prod.fst = m.gate)
    (inherited : resolveInheritedCandidateObligation env repo parent a.parentRunId
      a.conversationId = .ok obligation)
    (fresh : start.events = .missing)
    (work : AtWork env writeReceipt repo parent a o exitCode ran base obligation treeOid calls)
    (passing : Passing env ledger)
    (found : Ledger.loadCommand command.commandId (ledger 0) = some first)
    (dispatched : Dispatches first a) {polls : Nat} {conversationId parentRunId : String}
    {trace : Trace Call Call.Answer} {y : Code (Except RedriveError Command)}
    (after : After (redriveOrRecoverLocked env polls command a.runId conversationId parentRunId).run
      trace y)
    (answers : ∀ entry ∈ trace, MayAnswer env ledger
      (fun t => leaves a.runId applied start (calls t)) begun last entry.1 entry.2) :
    (∀ entry ∈ trace, ∀ chance w i, (perform env chance w i entry.1).2.ledger = w.ledger ∧
      (perform env chance w i entry.1).2.records = w.records ∧ starts env chance entry.1 = []) ∧
    ∀ result, y = pure result → Loses env ledger
      (fun t => leaves a.runId applied start (calls t)) begun last command a.runId trace result := by
  rcases Producers.contracted_of_build built with ⟨held, _⟩
  have looked : ∀ t dir current, begun ≤ t → t ≤ last →
      Glimpse (fun t => leaves a.runId applied start (calls t)) t last dir →
      Dispatches current a → CrashPoint
        (classifyCommandChild env.sha256 env.ext dir a.runId current)
        (kinds (leaves a.runId applied start (calls t)).events.stream) :=
    fun t dir current _ _ glimpse same =>
      glimpsed work held steps inherited fresh glimpse same
  have obeys := @redriveOrRecover_looks env ledger _ begun last command a trace looked
    (dispatched_always passing found dispatched) polls conversationId parentRunId
  have possible : ∀ entry ∈ trace, (looking env ledger
      (fun t => leaves a.runId applied start (calls t)) begun last trace).answers entry.1 entry.2 :=
    fun entry member => ⟨member, answers entry member⟩
  constructor
  · intro entry member chance w i
    rcases List.append_of_mem member with ⟨before, later, split⟩
    exact looks_leave (after.permits obeys possible split) chance w i
  · intro result returned
    subst returned
    exact after.result obeys possible

end Retry

/-! ### A child past its dispatch -/

namespace LockSample

open CrashSample (args obligation outside repository setting start writeReceipt)

def bound : List Op :=
  [.createConversation none "conversation-1" ⟨1, "e1"⟩,
    .createRun ⟨"conversation-1", none, "claude", "implementer"⟩ none "run-1" ⟨2, "e2"⟩,
    .startRun "run-1" ⟨3, "e3"⟩,
    .completeRun "run-1" ⟨4, "e4"⟩,
    .setRunProviderSession "run-1" "session",
    .createCommand ⟨"conversation-1", "run-1", "go on"⟩ ⟨"key"⟩ "command-1" 5,
    .bindCommandChildRun "command-1" "run-2" 6]

noncomputable def ledger : Tables := Ledger.run setting.sha256 setting.serde .empty bound

def row : Command :=
  ⟨"command-1", "conversation-1", "run-1", "go on", .started, some "run-2", 5, 6⟩

noncomputable def answer : (c : Call) → c.Answer
  | .ledger _ => (.ok (.run ⟨"run-2", "conversation-1", some "run-1", "claude", "implementer",
      .running, 7, none, none⟩) : Except Fault Ledger.Reply)
  | .conversation _ => (.ok (some ⟨"conversation-1", 1, .open⟩) :
      Except Fault (Option Ledger.Conversation))
  | .runningAttempt _ => (.ok (some ⟨"attempt-1", "run-2", 1, .running, 7, none⟩) :
      Except Fault (Option Ledger.RunAttempt))
  | c => (Sample.world c ()).1

noncomputable def child :
    Trace Call Call.Answer × Code (Except Fault (Run.Verdict × Option String)) :=
  (continueExecute setting args (outside.observed (some 0) Sample.ran)
    CrashSample.contract).run.answered answer 27

noncomputable def record : RecordDir := leaves args.runId false start child.1

theorem dispatched : .agentStarted ∈ kinds record.events.stream ∧
    .runSealed ∉ kinds record.events.stream := by
  decide +kernel

theorem row_found : Ledger.loadCommand row.commandId ledger = some row := by
  decide +kernel

theorem at_work : AtWork setting writeReceipt repository CrashSample.parent args outside (some 0)
    Sample.ran Sample.contract obligation "tree" fun _ => child.1 :=
  ⟨fun _ => List.prefix_refl _, fun _ => ⟨_, after_answered _ _ 27⟩,
    fun _ => CrashSample.honest _⟩

theorem passing : Passing setting fun _ => ledger := ⟨⟨bound, rfl⟩, fun _ => ⟨[], rfl⟩⟩

theorem dispatches : Dispatches row args := ⟨rfl, rfl, rfl, rfl⟩

def poll (state : ChildRecordState) : Trace Call Call.Answer :=
  [⟨.attempt "opening the lock file", (.ok () : Except Fault Unit)⟩,
    ⟨.tryLock args.runId, LockAnswer.wouldBlock⟩,
    ⟨.command row.commandId, (.ok (some row) : Except Fault (Option Command))⟩,
    ⟨.classify args.runId row, state⟩]

theorem polled (progress : DispatchProgress) :
    After (redriveOrRecoverLocked setting 30 row args.runId "conversation-1" "run-1").run
      (poll (.validUnsealedDispatchAmbiguous progress))
      (pure (.error (.providerOutcomeAmbiguous row.commandId args.runId progress))) :=
  .answered (.answered (.answered (.answered .here)))

theorem glimpse : Glimpse (fun _ => record) 0 0 record :=
  ⟨rfl, ⟨0, le_rfl, le_rfl, rfl⟩, ⟨0, le_rfl, le_rfl, rfl⟩, fun _ => ⟨0, le_rfl, le_rfl, rfl⟩⟩

theorem ambiguous : ∃ progress, classifyCommandChild setting.sha256 setting.ext record args.runId
    row = .validUnsealedDispatchAmbiguous progress := by
  rcases Producers.contracted_of_build Sample.contract_built with ⟨held, _⟩
  exact (glimpsed at_work held rfl CrashSample.parent_inherited rfl glimpse
    dispatches).ambiguous.mpr dispatched

theorem poll_answers {progress : DispatchProgress} (seen : classifyCommandChild setting.sha256
    setting.ext record args.runId row = .validUnsealedDispatchAmbiguous progress) :
    ∀ entry ∈ poll (.validUnsealedDispatchAmbiguous progress),
      MayAnswer setting (fun _ => ledger) (fun _ => record) 0 0 entry.1 entry.2 := by
  intro entry member
  simp only [poll, List.mem_cons, List.not_mem_nil, or_false] at member
  rcases member with rfl | rfl | rfl | rfl
  · exact trivial
  · exact fun same => nomatch same
  · exact .inr ⟨0, le_rfl, le_rfl, by rw [row_found]⟩
  · exact .inr ⟨0, record, le_rfl, le_rfl, glimpse, seen.symm⟩

end LockSample

/-- The child is at work and holds its lock all the while, and the retry reports that its outcome is
ambiguous. -/
theorem liveChild_ambiguous : ∃ progress trace,
    AtWork CrashSample.setting CrashSample.writeReceipt CrashSample.repository CrashSample.parent
      CrashSample.args CrashSample.outside (some 0) Sample.ran Sample.contract
      CrashSample.obligation "tree" (fun _ => LockSample.child.1) ∧
    Passing CrashSample.setting (fun _ => LockSample.ledger) ∧
    Ledger.loadCommand LockSample.row.commandId LockSample.ledger = some LockSample.row ∧
    Dispatches LockSample.row CrashSample.args ∧
    (∀ entry ∈ trace, MayAnswer CrashSample.setting (fun _ => LockSample.ledger)
      (fun _ => leaves CrashSample.args.runId false CrashSample.start LockSample.child.1) 0 0
      entry.1 entry.2) ∧
    answeredIn trace (.tryLock CrashSample.args.runId) .wouldBlock ∧
    After (redriveOrRecoverLocked CrashSample.setting 30 LockSample.row CrashSample.args.runId
      "conversation-1" "run-1").run trace
      (pure (.error (.providerOutcomeAmbiguous LockSample.row.commandId CrashSample.args.runId
        progress))) := by
  rcases LockSample.ambiguous with ⟨progress, seen⟩
  refine ⟨progress, LockSample.poll (.validUnsealedDispatchAmbiguous progress), LockSample.at_work,
    LockSample.passing, LockSample.row_found, LockSample.dispatches,
    LockSample.poll_answers seen, ?_, LockSample.polled progress⟩
  simp [answeredIn, LockSample.poll]

theorem retry_looks_ambiguous : ∃ progress trace,
    answeredIn trace (.tryLock CrashSample.args.runId) .wouldBlock ∧
    Loses CrashSample.setting (fun _ => LockSample.ledger)
      (fun _ => leaves CrashSample.args.runId false CrashSample.start LockSample.child.1) 0 0
      LockSample.row CrashSample.args.runId trace
      (.error (.providerOutcomeAmbiguous LockSample.row.commandId CrashSample.args.runId
        progress)) := by
  rcases LockSample.ambiguous with ⟨progress, seen⟩
  refine ⟨progress, LockSample.poll (.validUnsealedDispatchAmbiguous progress), ?_, ?_⟩
  · simp [answeredIn, LockSample.poll]
  · exact (retry_looks Sample.contract_built rfl CrashSample.parent_inherited rfl
      LockSample.at_work LockSample.passing LockSample.row_found LockSample.dispatches
      (LockSample.polled progress) (LockSample.poll_answers seen)).2 _ rfl

end O7Formal.Dispatch
