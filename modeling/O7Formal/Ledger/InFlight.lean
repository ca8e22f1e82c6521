import O7Formal.Ledger.Growth

/-! One command in flight for each conversation. Acceptance counts the commands in flight, and
every other write but one leaves a settled row settled: `bind_command_child_run` looks at the
binding only, so it starts a settled command that was never bound. -/

namespace O7Formal.Ledger

open Fallible Table
open O7Formal.Run (Sha256 standardSha256)

def Single (s : Tables) : Prop :=
  ∀ conversation, s.commands.countP (fun c => decide (inFlightIn conversation c)) ≤ 1

def KeepsSettled (s s' : Tables) : Prop :=
  ∀ id c, loadCommand id s = some c → c.status.inFlight = false →
    ∃ c', loadCommand id s' = some c' ∧ c'.status.inFlight = false

def Spares (s : Tables) (op : Op) : Prop :=
  ∀ commandId runId now c, op = .bindCommandChildRun commandId runId now →
    loadCommand commandId s = some c → c.childRunId = none → c.status.inFlight = true

theorem KeepsSettled.refl (s : Tables) : KeepsSettled s s :=
  fun _ c found settled => ⟨c, found, settled⟩

theorem KeepsSettled.trans {s t u : Tables} (first : KeepsSettled s t)
    (second : KeepsSettled t u) : KeepsSettled s u := by
  intro id c found settled
  rcases first id c found settled with ⟨c', found', settled'⟩
  exact second id c' found' settled'

section Put

variable {s : Tables} {c next : Command} (keyed : Keyed Command.commandId s.commands)
  (found : loadCommand c.commandId s = some c) (named : next.commandId = c.commandId)
  (owner : next.conversationId = c.conversationId)
  (flying : next.status.inFlight = true → c.status.inFlight = true)

include keyed found named owner flying

theorem put_single (single : Single s) : Single (put next s) := by
  intro conversation
  refine le_trans ?_ (single conversation)
  rw [put, update, List.countP_map]
  apply List.countP_mono_left
  intro q member selected
  rw [Function.comp_apply] at selected
  by_cases here : q.commandId = next.commandId
  · rw [if_pos (decide_eq_true here), decide_eq_true_iff] at selected
    rw [selects_one keyed found member (here.trans named), decide_eq_true_iff]
    exact ⟨owner ▸ selected.1, flying selected.2⟩
  · rwa [if_neg (by simpa using here)] at selected

omit keyed owner in
theorem put_settled : KeepsSettled s (put next s) := by
  intro id row there settled
  by_cases here : id = next.commandId
  · refine ⟨next, ?_, ?_⟩
    · rw [loadCommand_put, if_pos here, there]
      rfl
    · obtain rfl : c = row := by
        rw [here, named, found] at there
        exact Option.some.inj there
      rw [← Bool.not_eq_true]
      intro again
      rw [flying again] at settled
      cases settled
  · exact ⟨row, by rw [loadCommand_put_other here]; exact there, settled⟩

end Put

theorem rewrites_settled {s : Tables} {op : Op} {c next : Command} (rewrites : Rewrites s op c next)
    (found : loadCommand c.commandId s = some c) (spares : Spares s op) :
    next.commandId = c.commandId ∧ next.conversationId = c.conversationId ∧
      (next.status.inFlight = true → c.status.inFlight = true) := by
  cases rewrites with
  | bound runId now unbound =>
      exact ⟨rfl, rfl, fun _ => spares c.commandId runId now c rfl found unbound⟩
  | completed now =>
      refine ⟨rfl, rfl, fun flying => ?_⟩
      cases flying
  | rejected now =>
      refine ⟨rfl, rfl, fun flying => ?_⟩
      cases flying
  | claimed expectedUpdatedAt now flying => exact ⟨rfl, rfl, fun _ => flying⟩
  | rebound newRunId now => exact ⟨rfl, rfl, id⟩
  | reboundIfCurrent old freshRunId expectedUpdatedAt now flying =>
      exact ⟨rfl, rfl, fun _ => flying⟩
  | completedIfBound runId now =>
      refine ⟨rfl, rfl, fun flying => ?_⟩
      cases flying
  | completedIfTerminal runId child now =>
      refine ⟨rfl, rfl, fun flying => ?_⟩
      cases flying
  | rejectedIfUnattached runId now =>
      refine ⟨rfl, rfl, fun flying => ?_⟩
      cases flying

theorem checkAcceptable_clear {request : NewCommand} {s : Tables}
    (ok : checkAcceptable request s = .ok ()) :
    ∀ c ∈ s.commands, ¬ inFlightIn request.conversationId c := by
  simp only [checkAcceptable, bind_ok_iff, refuseIf_ok_iff, not_exists, not_and] at ok
  rcases ok with ⟨_, _, _, _, _, _, _, _, _, _, _, clear, _⟩
  exact clear

theorem writes_single {s s' : Tables} {op : Op} (keys : Keys s) (single : Single s)
    (spares : Spares s op) (writes : Writes s op s') : Single s' ∧ KeepsSettled s s' := by
  cases writes with
  | nothing => exact ⟨single, KeepsSettled.refl s⟩
  | conversation => exact ⟨single, KeepsSettled.refl s⟩
  | run => exact ⟨single, KeepsSettled.refl s⟩
  | moved => exact ⟨single, KeepsSettled.refl s⟩
  | attempt => exact ⟨single, KeepsSettled.refl s⟩
  | closed => exact ⟨single, KeepsSettled.refl s⟩
  | resumed r attemptId stamp events t _ _ _ tables =>
      subst tables
      exact ⟨single, KeepsSettled.refl s⟩
  | repaired => exact ⟨single, KeepsSettled.refl s⟩
  | interrupted runs attempts t _ first second =>
      have same := (interrupted_frame first second).2.1
      refine ⟨fun conversation => ?_, fun id c found settled => ⟨c, ?_, settled⟩⟩
      · rw [same]
        exact single conversation
      · rw [loadCommand, same]
        exact found
  | session => exact ⟨single, KeepsSettled.refl s⟩
  | accepted request commandId now records acceptable fresh =>
      constructor
      · intro conversation
        rw [List.countP_append]
        by_cases here : request.conversationId = conversation
        · subst here
          have none : s.commands.countP
              (fun c => decide (inFlightIn request.conversationId c)) = 0 := by
            rw [List.countP_eq_zero]
            intro c member
            simpa using checkAcceptable_clear acceptable c member
          rw [none, Nat.zero_add]
          exact List.countP_le_length
        · have elsewhere : [newCommand request commandId now].countP
              (fun c => decide (inFlightIn conversation c)) = 0 := by
            rw [List.countP_eq_zero]
            intro c member
            rw [List.mem_singleton.mp member, decide_eq_true_iff]
            exact fun flying => here flying.1
          rw [elsewhere]
          exact single conversation
      · intro id c found settled
        refine ⟨c, ?_, settled⟩
        rw [loadCommand, lookup_append]
        exact congrArg (fun x => Option.or x _) found
  | command c next found rewrites =>
      rcases rewrites_settled rewrites found spares with ⟨named, owner, flying⟩
      exact ⟨put_single keys.commands found named owner flying single,
        put_settled found named flying⟩
  | reconciled now repaired _ ok =>
      have written : Keys s' ∧ Single s' ∧ KeepsSettled s s' := by
        apply reconcileCompletedCommands_keeps
          (motive := fun t => Keys t ∧ Single t ∧ KeepsSettled s t) keys.commands _ _ ok
        · exact ⟨keys, single, KeepsSettled.refl s⟩
        · intro t c keyed held found _
          have flying : ({ c with status := .completed, updatedAt := now } :
              Command).status.inFlight = true → c.status.inFlight = true := by
            intro flying
            cases flying
          exact ⟨(put_grows held.1 _).1, put_single keyed found rfl rfl flying held.2.1,
            held.2.2.trans (put_settled found rfl flying)⟩
      exact written.2
  | event => exact ⟨single, KeepsSettled.refl s⟩

section Running

variable {sha256 : Sha256} {serde : Serde}

theorem step_single {s : Tables} {op : Op} (keys : Keys s) (single : Single s)
    (spares : Spares s op) :
    Single (step sha256 serde s op) ∧ KeepsSettled s (step sha256 serde s op) :=
  step_keeps (motive := fun t => Single t ∧ KeepsSettled s t) ⟨single, KeepsSettled.refl s⟩
    fun _ _ ok => writes_single keys single spares (exec_writes keys.commands ok)

theorem run_single (ops : List Op) {s : Tables} (keys : Keys s) (single : Single s)
    (spares : ∀ before op after, ops = before ++ op :: after →
      Spares (run sha256 serde s before) op) :
    Single (run sha256 serde s ops) ∧ KeepsSettled s (run sha256 serde s ops) := by
  induction ops generalizing s with
  | nil => exact ⟨single, KeepsSettled.refl s⟩
  | cons op rest ih =>
      have first : Single (step sha256 serde s op) ∧ KeepsSettled s (step sha256 serde s op) :=
        step_single keys single (spares [] op rest rfl)
      have later := ih (step_grows keys op).1 first.1 fun before next after same =>
        spares (op :: before) next after (congrArg (List.cons op) same)
      exact ⟨later.1, first.2.trans later.2⟩

/-- Along the run: never two commands of one conversation in flight, and a settled command never
in flight again. -/
structure InFlightSafe (sha256 : Sha256) (serde : Serde) (ops : List Op) : Prop where
  single : ∀ before after, ops = before ++ after → Single (run sha256 serde .empty before)
  settled : ∀ before between after, ops = before ++ between ++ after →
    ∀ id c c', loadCommand id (run sha256 serde .empty before) = some c →
      c.status.inFlight = false →
      loadCommand id (run sha256 serde .empty (before ++ between)) = some c' →
      c'.status.inFlight = false

theorem bind_starts {s : Tables} (keys : Keys s) {commandId : CommandId} {c : Command}
    (found : loadCommand commandId s = some c) (unbound : c.childRunId = none) (runId : RunId)
    (now : Millis) :
    ∃ c', loadCommand commandId (step sha256 serde s (.bindCommandChildRun commandId runId now)) =
      some c' ∧ c'.status = .started := by
  have named : c.commandId = commandId := (lookup_mem found).2
  let next : Command := { c with childRunId := some runId, status := .started, updatedAt := now }
  have bound : bindCommandChildRun commandId runId now s = .ok (next, put next s) := by
    rw [bindCommandChildRun, changeCommand_eq keys.commands found _ (by intros; rfl),
      if_pos (decide_eq_true unbound)]
  have written : step sha256 serde s (.bindCommandChildRun commandId runId now) = put next s := by
    rw [step, exec, bound]
    rfl
  refine ⟨next, ?_, rfl⟩
  rw [written, loadCommand_put, if_pos named.symm, found]
  rfl

variable (sha256 serde) in
/-- A run is safe exactly when no step of it binds a settled command that has no child run. -/
theorem inFlightSafe_iff (ops : List Op) :
    InFlightSafe sha256 serde ops ↔
      ∀ before commandId runId now after,
        ops = before ++ .bindCommandChildRun commandId runId now :: after →
        ∀ c, loadCommand commandId (run sha256 serde .empty before) = some c →
          c.childRunId = none → c.status.inFlight = true := by
  have reached : ∀ before, Keys (run sha256 serde .empty before) := fun before =>
    reachable_keys ⟨before, rfl⟩
  constructor
  · intro safe before commandId runId now after split c found unbound
    by_contra settled
    rw [Bool.not_eq_true] at settled
    rcases @bind_starts sha256 serde _ (reached before) commandId c found unbound runId now with
      ⟨c', after', started⟩
    have still := safe.settled before [.bindCommandChildRun commandId runId now] after
      (by simpa using split) commandId c c' found settled
      (by rw [run_append, run_singleton]; exact after')
    rw [started] at still
    cases still
  · intro spared
    have spares : ∀ before op after, ops = before ++ op :: after →
        Spares (run sha256 serde .empty before) op := by
      intro before op after split commandId runId now c same found unbound
      subst same
      exact spared before commandId runId now after split c found unbound
    have none : Single .empty := fun _ => Nat.zero_le _
    constructor
    · intro before after split
      apply (run_single before keys_empty none _).1
      intro first op rest same
      apply spares first op (rest ++ after)
      rw [split, same, List.append_assoc, List.cons_append]
    · intro before between after split id c c' found settled found'
      have before_single := (run_single before keys_empty none fun first op rest same =>
        spares first op (rest ++ between ++ after) (by
          rw [split, same, List.append_assoc, List.append_assoc, List.cons_append,
            List.append_assoc])).1
      have kept := (run_single between (reached before) before_single fun first op rest same => by
        rw [← run_append]
        apply spares (before ++ first) op (rest ++ after)
        rw [split, same, List.append_assoc, List.append_assoc, List.append_assoc,
          List.cons_append]).2
      rw [run_append] at found'
      rcases kept id c found settled with ⟨row, there, still⟩
      rw [there] at found'
      cases found'
      exact still

end Running

def revival : List Op :=
  [.createConversation none "v" ⟨1, "e1"⟩,
    .createRun ⟨"v", none, "agent", "role"⟩ none "r" ⟨2, "e2"⟩,
    .startRun "r" ⟨3, "e3"⟩,
    .completeRun "r" ⟨4, "e4"⟩,
    .setRunProviderSession "r" "session",
    .createCommand ⟨"v", "r", "go on"⟩ ⟨"key"⟩ "c" 5,
    .markCommandRejected "c" 6,
    .bindCommandChildRun "c" "child" 7]

theorem revival_states :
    (loadCommand "c" (run standardSha256 printedSerde .empty (revival.take 7))).map
        Command.status = some .rejected ∧
      (loadCommand "c" (run standardSha256 printedSerde .empty revival)).map Command.status =
        some .started := by
  decide +kernel

theorem revival_not_safe : ¬ InFlightSafe standardSha256 printedSerde revival := by
  intro safe
  rcases Option.map_eq_some_iff.mp revival_states.1 with ⟨c, found, rejected⟩
  rcases Option.map_eq_some_iff.mp revival_states.2 with ⟨c', found', started⟩
  have still := safe.settled (revival.take 7) (revival.drop 7) [] (by simp) "c" c c' found
    (by rw [rejected]; rfl) (by rw [List.take_append_drop]; exact found')
  rw [started] at still
  cases still

end O7Formal.Ledger
