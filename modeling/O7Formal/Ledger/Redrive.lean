import O7Formal.Ledger.Growth

/-! The compare-and-swap of a redrive, over every interleaving of callers with stale reads: the
bindings of a command form one chain, and a settled command is left as it is. -/

namespace O7Formal.Ledger

open Fallible Table
open O7Formal.Run (Sha256 standardSha256)

/-- The operations of a redrive: the conditional writes of commands, and everything that does not
write commands. -/
def Op.redrives : Op → Bool
  | .markCommandCompleted .. | .markCommandRejected .. | .claimStaleCommandForRedrive ..
  | .rebindCommandChildRun .. | .markCommandCompletedIfBound ..
  | .reconcileCompletedCommands .. => false
  | _ => true

def Op.proposes : Op → Option (CommandId × RunId)
  | .bindCommandChildRun commandId runId _ => some (commandId, runId)
  | .rebindCommandChildRunIfCurrent commandId _ _ freshRunId _ => some (commandId, freshRunId)
  | _ => none

def Op.expects : Op → Option (CommandId × RunId)
  | .rebindCommandChildRunIfCurrent commandId expectedOldRunId _ _ _ =>
      some (commandId, expectedOldRunId)
  | .markCommandCompletedIfBoundAndTerminal commandId expectedChildRunId _ =>
      some (commandId, expectedChildRunId)
  | .markCommandRejectedIfUnattachedAndBound commandId expectedChildRunId _ =>
      some (commandId, expectedChildRunId)
  | _ => none

inductive Reply.Declines : Reply → Command → Prop
  | lostRace (c : Command) : Declines (.rebind (.lostRace c)) c
  | rebindNotEligible (c : Command) : Declines (.rebind (.notEligible c)) c
  | notBound (c : Command) : Declines (.completion (.notBound c)) c
  | rejectNotEligible (c : Command) : Declines (.rejection (.notEligible c)) c

def childOf (id : CommandId) (s : Tables) : Option RunId :=
  (loadCommand id s).bind Command.childRunId

section Bindings

variable (sha256 : Sha256) (serde : Serde)

def bindings (id : CommandId) (s : Tables) : List Op → List RunId
  | [] => []
  | op :: ops =>
      let s' := step sha256 serde s op
      (if childOf id s' = childOf id s then [] else (childOf id s').toList) ++ bindings id s' ops

end Bindings

inductive RowMove (rewrites : Command → Command → Prop) : Option Command → Option Command → Prop
  | same (row : Option Command) : RowMove rewrites row row
  | accepted (c : Command) : c.childRunId = none → c.status = .accepted →
      RowMove rewrites none (some c)
  | rewritten (c next : Command) : rewrites c next → RowMove rewrites (some c) (some next)

inductive Redriven (s : Tables) : Op → Command → Command → Prop
  | bound {c : Command} (runId : RunId) (now : Millis) : c.childRunId = none →
      Redriven s (.bindCommandChildRun c.commandId runId now) c
        { c with childRunId := some runId, status := .started, updatedAt := now }
  | rebound {c : Command} (old freshRunId : RunId) (expectedUpdatedAt now : Millis) :
      c.status.inFlight = true →
      Redriven s
        (.rebindCommandChildRunIfCurrent c.commandId old expectedUpdatedAt freshRunId now) c
        { c with
          childRunId := some freshRunId
          updatedAt := max now (saturatingSucc expectedUpdatedAt) }
  | completed {c : Command} (runId : RunId) (child : Run) (now : Millis) :
      boundTo runId c = true → loadRun runId s = some child → childOk c child = true →
      Redriven s (.markCommandCompletedIfBoundAndTerminal c.commandId runId now) c
        { c with status := .completed, updatedAt := now }
  | rejected {c : Command} (runId : RunId) (now : Millis) :
      boundTo runId c = true → loadRun runId s = none →
      Redriven s (.markCommandRejectedIfUnattachedAndBound c.commandId runId now) c
        { c with status := .rejected, updatedAt := now }

theorem Rewrites.redriven {s : Tables} {op : Op} {c next : Command}
    (rewrites : Rewrites s op c next) (redrives : op.redrives = true) : Redriven s op c next := by
  cases rewrites with
  | bound runId now unbound => exact .bound runId now unbound
  | completed => cases redrives
  | rejected => cases redrives
  | claimed => cases redrives
  | rebound => cases redrives
  | reboundIfCurrent old freshRunId expectedUpdatedAt now flying =>
      exact .rebound old freshRunId expectedUpdatedAt now flying
  | completedIfBound => cases redrives
  | completedIfTerminal runId child now held there fit =>
      exact .completed runId child now held there fit
  | rejectedIfUnattached runId now held unattached => exact .rejected runId now held unattached

theorem rewrites_named {s : Tables} {op : Op} {c next : Command}
    (rewrites : Rewrites s op c next) : next.commandId = c.commandId := by
  cases rewrites <;> rfl

theorem writes_row {s s' : Tables} {op : Op} (writes : Writes s op s')
    (one : ∀ now, op ≠ .reconcileCompletedCommands now) (id : CommandId) :
    RowMove (Rewrites s op) (loadCommand id s) (loadCommand id s') := by
  cases writes with
  | nothing => exact .same _
  | conversation => exact .same _
  | run => exact .same _
  | moved => exact .same _
  | attempt => exact .same _
  | closed => exact .same _
  | resumed r attemptId stamp events t _ _ _ tables =>
      subst tables
      exact .same _
  | repaired => exact .same _
  | interrupted runs attempts t _ first second =>
      have same := (interrupted_frame first second).2.1
      rw [loadCommand, loadCommand, same]
      exact .same _
  | session => exact .same _
  | accepted request commandId now records _ fresh =>
      have after : loadCommand id { s with
          commands := s.commands ++ [newCommand request commandId now],
          records := s.records ++ records } = _ := lookup_append id s.commands _
      rw [after]
      by_cases here : commandId = id
      · subst here
        have absent : lookup Command.commandId commandId s.commands = none := fresh
        rw [absent, fresh]
        have named : (newCommand request commandId now).commandId = commandId := rfl
        rw [if_pos named]
        exact .accepted _ rfl rfl
      · have other : (newCommand request commandId now).commandId ≠ id := here
        rw [if_neg other, Option.or_none]
        exact .same _
  | command c next found rewrites =>
      have named := rewrites_named rewrites
      rw [loadCommand_put]
      by_cases here : id = next.commandId
      · rw [if_pos here, here, named, found]
        exact .rewritten c next rewrites
      · rw [if_neg here]
        exact .same _
  | reconciled now => exact absurd rfl (one now)
  | event => exact .same _

section Step

variable {sha256 : Sha256} {serde : Serde} {s : Tables} {op : Op}

theorem step_row (keys : Keys s) (redrives : op.redrives = true) (id : CommandId) :
    RowMove (Redriven s op) (loadCommand id s) (loadCommand id (step sha256 serde s op)) := by
  apply step_keeps
    (motive := fun t => RowMove (Redriven s op) (loadCommand id s) (loadCommand id t))
  · exact .same _
  · intro reply s' ok
    have move : RowMove (Rewrites s op) (loadCommand id s) (loadCommand id s') := by
      apply writes_row (exec_writes keys.commands ok)
      intro now same
      subst same
      cases redrives
    generalize loadCommand id s = row at move ⊢
    generalize loadCommand id s' = row' at move ⊢
    cases move with
    | same => exact .same _
    | accepted c unbound status => exact .accepted c unbound status
    | rewritten c next rewrites => exact .rewritten c next (rewrites.redriven redrives)

def SettledBound (s : Tables) : Prop :=
  ∀ id c, loadCommand id s = some c → c.status.inFlight = false → c.childRunId ≠ none

theorem boundTo_iff {runId : RunId} {c : Command} :
    boundTo runId c = true ↔ c.status.inFlight = true ∧ c.childRunId = some runId := by
  rw [boundTo, Bool.and_eq_true, decide_eq_true_iff]

theorem step_settledBound (keys : Keys s) (redrives : op.redrives = true)
    (bound : SettledBound s) : SettledBound (step sha256 serde s op) := by
  intro id c found settled
  have move := @step_row sha256 serde s op keys redrives id
  generalize before : loadCommand id s = row at move
  rw [found] at move
  cases move with
  | same => exact bound id c before settled
  | accepted _ _ status =>
      rw [status] at settled
      cases settled
  | rewritten old _ rewrites =>
      cases rewrites with
      | bound => exact Option.some_ne_none _
      | rebound => exact Option.some_ne_none _
      | completed runId child now held =>
          rw [(boundTo_iff.mp held).2]
          exact Option.some_ne_none _
      | rejected runId now held =>
          rw [(boundTo_iff.mp held).2]
          exact Option.some_ne_none _

theorem step_binding (keys : Keys s) (redrives : op.redrives = true) (id : CommandId) :
    childOf id (step sha256 serde s op) = childOf id s ∨
      ∃ runId, childOf id (step sha256 serde s op) = some runId ∧
        op.proposes = some (id, runId) := by
  have move := @step_row sha256 serde s op keys redrives id
  rw [childOf, childOf]
  generalize before : loadCommand id s = row at move ⊢
  generalize loadCommand id (step sha256 serde s op) = after at move ⊢
  cases move with
  | same => exact .inl rfl
  | accepted c unbound =>
      left
      rw [Option.bind_some, unbound]
      rfl
  | rewritten c next rewrites =>
      have named : c.commandId = id := (lookup_mem before).2
      cases rewrites with
      | bound runId now => exact .inr ⟨runId, rfl, by rw [← named]; rfl⟩
      | rebound old freshRunId => exact .inr ⟨freshRunId, rfl, by rw [← named]; rfl⟩
      | completed => exact .inl rfl
      | rejected => exact .inl rfl

theorem step_child (keys : Keys s) (never : ∀ id runId now, op ≠ .rebindCommandChildRun id runId now)
    (one : ∀ now, op ≠ .reconcileCompletedCommands now) {id : CommandId} {runId : RunId}
    (bound : childOf id s = some runId) :
    childOf id (step sha256 serde s op) = some runId ∨
      ∃ expectedUpdatedAt freshRunId now,
        op = .rebindCommandChildRunIfCurrent id runId expectedUpdatedAt freshRunId now := by
  apply step_keeps (motive := fun t => childOf id t = some runId ∨ _)
  · exact .inl bound
  · intro reply s' ok
    have move := writes_row (exec_writes keys.commands ok) one id
    rw [childOf] at bound ⊢
    generalize before : loadCommand id s = row at move bound
    generalize loadCommand id s' = after at move ⊢
    cases move with
    | same => exact .inl bound
    | accepted => cases bound
    | rewritten c next rewrites =>
        have named : c.commandId = id := (lookup_mem before).2
        have here : c.childRunId = some runId := bound
        cases rewrites with
        | bound freshRunId now unbound =>
            rw [unbound] at here
            cases here
        | rebound freshRunId now => exact absurd rfl (never c.commandId freshRunId now)
        | reboundIfCurrent old freshRunId expectedUpdatedAt now _ held =>
            have same : runId = old := Option.some.inj (here.symm.trans held)
            rw [← named, same]
            exact .inr ⟨expectedUpdatedAt, freshRunId, now, rfl⟩
        | completed => exact .inl bound
        | rejected => exact .inl bound
        | claimed => exact .inl bound
        | completedIfBound => exact .inl bound
        | completedIfTerminal => exact .inl bound
        | rejectedIfUnattached => exact .inl bound

variable (sha256 serde s op) in
structure CasStep : Prop where
  declined : ∀ id runId reply s' c, op.expects = some (id, runId) →
    exec sha256 serde s op = .ok (reply, s') → reply.Declines c →
    s' = s ∧ loadCommand id s = some c
  unnamed : ∀ id runId, op.expects = some (id, runId) → childOf id s ≠ some runId →
    step sha256 serde s op = s
  taken : ∀ id runId now, op = .bindCommandChildRun id runId now → childOf id s ≠ none →
    step sha256 serde s op = s
  absorbing : ∀ id c, loadCommand id s = some c → c.status.inFlight = false →
    loadCommand id (step sha256 serde s op) = some c
  completing : ∀ id c c', loadCommand id s = some c → c.status ≠ .completed →
    loadCommand id (step sha256 serde s op) = some c' → c'.status = .completed →
    ∃ runId child, c'.childRunId = some runId ∧
      loadRun runId (step sha256 serde s op) = some child ∧ child.status.isTerminal = true ∧
      child.conversationId = c'.conversationId ∧ child.parentRunId = some c'.parentRunId
  rejecting : ∀ id c c', loadCommand id s = some c → c.status ≠ .rejected →
    loadCommand id (step sha256 serde s op) = some c' → c'.status = .rejected →
    ∃ runId, c'.childRunId = some runId ∧ loadRun runId (step sha256 serde s op) = none

theorem conditional_ok (keys : Keys s) {id : CommandId} {runId : RunId}
    (expects : op.expects = some (id, runId)) {reply : Reply} {s' : Tables}
    (ok : exec sha256 serde s op = .ok (reply, s')) :
    s'.runs = s.runs ∧ (s' = s ∧ (∀ c, reply.Declines c → loadCommand id s = some c) ∨
      childOf id s = some runId ∧ ∀ c, ¬ reply.Declines c) := by
  cases op with
  | rebindCommandChildRunIfCurrent commandId old expectedUpdatedAt freshRunId now =>
      cases expects
      rcases replying_ok ok with ⟨outcome, done, rfl⟩
      rcases rebindCommandChildRunIfCurrent_ok keys.commands done with
        ⟨rfl, answer⟩ | ⟨current, next, found, _, bound, _, _, rfl, rfl⟩
      · refine ⟨rfl, .inl ⟨rfl, ?_⟩⟩
        intro c declines
        rcases answer with ⟨rfl, _⟩ | ⟨current, found, rfl | rfl⟩
        · cases declines
        · cases declines
          exact found
        · cases declines
          exact found
      · refine ⟨rfl, .inr ⟨by rw [childOf, found]; exact bound, ?_⟩⟩
        intro c declines
        cases declines
  | markCommandCompletedIfBoundAndTerminal commandId expectedChildRunId now =>
      cases expects
      rcases replying_ok ok with ⟨outcome, done, rfl⟩
      rcases markCommandCompletedIfBoundAndTerminal_ok keys.commands done with
        ⟨rfl, answer⟩ | ⟨current, next, child, found, bound, _, _, _, rfl, rfl⟩
      · refine ⟨rfl, .inl ⟨rfl, ?_⟩⟩
        intro c declines
        rcases answer with ⟨rfl, _⟩ | ⟨current, found, rfl⟩
        · cases declines
        · cases declines
          exact found
      · refine ⟨rfl, .inr ⟨by rw [childOf, found]; exact (boundTo_iff.mp bound).2, ?_⟩⟩
        intro c declines
        cases declines
  | markCommandRejectedIfUnattachedAndBound commandId expectedChildRunId now =>
      cases expects
      rcases replying_ok ok with ⟨outcome, done, rfl⟩
      rcases markCommandRejectedIfUnattachedAndBound_ok keys.commands done with
        ⟨rfl, answer⟩ | ⟨current, next, found, bound, _, _, rfl, rfl⟩
      · refine ⟨rfl, .inl ⟨rfl, ?_⟩⟩
        intro c declines
        rcases answer with ⟨rfl, _⟩ | ⟨current, found, rfl⟩
        · cases declines
        · cases declines
          exact found
      · refine ⟨rfl, .inr ⟨by rw [childOf, found]; exact (boundTo_iff.mp bound).2, ?_⟩⟩
        intro c declines
        cases declines
  | _ => cases expects

theorem conditional_runs (keys : Keys s) {id : CommandId} {runId : RunId}
    (expects : op.expects = some (id, runId)) : (step sha256 serde s op).runs = s.runs :=
  step_keeps (motive := fun t => t.runs = s.runs) rfl
    fun _ _ ok => (conditional_ok keys expects ok).1

theorem bind_taken (keys : Keys s) {id : CommandId} {runId : RunId} {now : Millis}
    (bound : childOf id s ≠ none) :
    step sha256 serde s (.bindCommandChildRun id runId now) = s := by
  apply step_keeps (motive := fun t => t = s) rfl
  intro reply s' ok
  rcases replying_ok ok with ⟨c, done, _⟩
  rcases changeCommand_ok keys.commands (by intros; rfl) done with ⟨current, found, rfl⟩
  have taken : current.childRunId ≠ none := by
    rw [childOf, found] at bound
    exact bound
  rw [if_neg (by simpa using taken)]

theorem casStep (keys : Keys s) (redrives : op.redrives = true) (bound : SettledBound s) :
    CasStep sha256 serde s op := by
  constructor
  · intro id runId reply s' c expects ok declines
    rcases (conditional_ok keys expects ok).2 with ⟨same, row⟩ | ⟨_, never⟩
    · exact ⟨same, row c declines⟩
    · exact absurd declines (never c)
  · intro id runId expects other
    apply step_keeps (motive := fun t => t = s) rfl
    intro reply s' ok
    rcases (conditional_ok keys expects ok).2 with ⟨same, _⟩ | ⟨current, _⟩
    · exact same
    · exact absurd current other
  · intro id runId now same taken
    subst same
    exact bind_taken keys taken
  · intro id c found settled
    have move := @step_row sha256 serde s op keys redrives id
    rw [found] at move
    generalize loadCommand id (step sha256 serde s op) = after at move ⊢
    cases move with
    | same => rfl
    | rewritten _ next rewrites =>
        have frozen : c.status.inFlight = true → some next = some c := by
          intro flying
          rw [flying] at settled
          cases settled
        cases rewrites with
        | bound runId now unbound => exact absurd unbound (bound id c found settled)
        | rebound _ _ _ _ flying => exact frozen flying
        | completed runId child now held => exact frozen (boundTo_iff.mp held).1
        | rejected runId now held => exact frozen (boundTo_iff.mp held).1
  · intro id c c' found other found' completed
    have move := @step_row sha256 serde s op keys redrives id
    rw [found, found'] at move
    cases move with
    | same => exact absurd completed other
    | rewritten _ _ rewrites =>
        cases rewrites with
        | bound => cases completed
        | rebound => exact absurd completed other
        | completed runId child now held there fit =>
            refine ⟨runId, child, (boundTo_iff.mp held).2, ?_⟩
            simp only [childOk, Bool.and_eq_true, decide_eq_true_iff] at fit
            refine ⟨?_, fit.1.1, fit.1.2, fit.2⟩
            rw [loadRun, conditional_runs keys rfl]
            exact there
        | rejected => cases completed
  · intro id c c' found other found' rejected
    have move := @step_row sha256 serde s op keys redrives id
    rw [found, found'] at move
    cases move with
    | same => exact absurd rejected other
    | rewritten _ _ rewrites =>
        cases rewrites with
        | bound => cases rejected
        | rebound => exact absurd rejected other
        | completed => cases rejected
        | rejected runId now held unattached =>
            refine ⟨runId, (boundTo_iff.mp held).2, ?_⟩
            rw [loadRun, conditional_runs keys rfl]
            exact unattached

end Step

section Running

variable {sha256 : Sha256} {serde : Serde}

theorem bindings_append (id : CommandId) (s : Tables) (ops later : List Op) :
    bindings sha256 serde id s (ops ++ later) =
      bindings sha256 serde id s ops ++
        bindings sha256 serde id (run sha256 serde s ops) later := by
  induction ops generalizing s with
  | nil => rfl
  | cons op ops ih =>
      rw [List.cons_append, bindings, bindings, ih, List.append_assoc]
      rfl

theorem run_settledBound {ops : List Op} (redrives : ∀ op ∈ ops, op.redrives = true) :
    SettledBound (run sha256 serde .empty ops) := by
  have kept : Keys (run sha256 serde .empty ops) ∧ SettledBound (run sha256 serde .empty ops) := by
    apply List.foldlRecOn (motive := fun t => Keys t ∧ SettledBound t)
    · refine ⟨keys_empty, ?_⟩
      intro id c found
      cases found
    · intro t held op member
      exact ⟨(step_grows held.1 op).1, step_settledBound held.1 (redrives op member) held.2⟩
  exact kept.2

theorem bindings_chain (id : CommandId) {ops : List Op}
    (redrives : ∀ op ∈ ops, op.redrives = true) (fresh : (ops.filterMap Op.proposes).Nodup) :
    (∀ runId ∈ bindings sha256 serde id .empty ops, (id, runId) ∈ ops.filterMap Op.proposes) ∧
      (bindings sha256 serde id .empty ops).Nodup ∧
      (bindings sha256 serde id .empty ops).getLast? = childOf id (run sha256 serde .empty ops) := by
  induction ops using List.reverseRecOn with
  | nil => exact ⟨by simp [bindings], List.nodup_nil, rfl⟩
  | append_singleton ops op ih =>
      rw [List.filterMap_append, List.nodup_append] at fresh
      have before := ih (fun o member => redrives o (List.mem_append_left _ member)) fresh.1
      have keys : Keys (run sha256 serde .empty ops) := reachable_keys ⟨ops, rfl⟩
      have moves := @step_binding sha256 serde _ op keys (redrives op (by simp)) id
      rw [bindings_append, bindings, bindings, List.append_nil, run_append, run_singleton]
      by_cases same : childOf id (step sha256 serde (run sha256 serde .empty ops) op) =
          childOf id (run sha256 serde .empty ops)
      · rw [if_pos same, List.append_nil, same]
        refine ⟨?_, before.2⟩
        intro runId member
        rw [List.filterMap_append]
        exact List.mem_append_left _ (before.1 runId member)
      · rcases moves with kept | ⟨runId, bound, proposed⟩
        · exact absurd kept same
        have here : (id, runId) ∈ [op].filterMap Op.proposes := by simp [proposed]
        have unseen : runId ∉ bindings sha256 serde id .empty ops := by
          intro member
          exact fresh.2.2 _ (before.1 runId member) _ here rfl
        rw [if_neg same, bound, Option.toList_some]
        refine ⟨?_, ?_, by simp⟩
        · intro other member
          rw [List.filterMap_append]
          rcases List.mem_append.mp member with old | new
          · exact List.mem_append_left _ (before.1 other old)
          · rw [List.mem_singleton.mp new]
            exact List.mem_append_right _ here
        · exact List.Nodup.append before.2.1 (List.nodup_singleton _)
            (List.disjoint_singleton.mpr unseen)

theorem rebound_binding {s s' : Tables} (keys : Keys s) {id : CommandId} {old freshRunId : RunId}
    {expectedUpdatedAt now : Millis} {c : Command}
    (ok : exec sha256 serde s
      (.rebindCommandChildRunIfCurrent id old expectedUpdatedAt freshRunId now) =
      .ok (.rebind (.rebound c), s')) :
    childOf id s = some old ∧ childOf id s' = some freshRunId := by
  rcases replying_ok ok with ⟨outcome, done, same⟩
  cases same
  rcases rebindCommandChildRunIfCurrent_ok keys.commands done with
    ⟨_, answer⟩ | ⟨current, next, found, _, bound, _, shape, answer, rfl⟩
  · rcases answer with ⟨answer, _⟩ | ⟨_, _, answer | answer⟩ <;> cases answer
  · have named : next.commandId = id := by
      rw [shape]
      exact (lookup_mem found).2
    constructor
    · rw [childOf, found]
      exact bound
    · rw [childOf, loadCommand_put, if_pos named.symm, found, shape]
      rfl

theorem rebound_once {ops : List Op} (redrives : ∀ op ∈ ops, op.redrives = true)
    (fresh : (ops.filterMap Op.proposes).Nodup) {id : CommandId} {old freshRunId freshRunId' : RunId}
    {t t' n n' : Millis} {before between after : List Op} {c c' : Command} {u u' : Tables}
    (split : ops = before ++ .rebindCommandChildRunIfCurrent id old t freshRunId n ::
      (between ++ .rebindCommandChildRunIfCurrent id old t' freshRunId' n' :: after))
    (first : exec sha256 serde (run sha256 serde .empty before)
      (.rebindCommandChildRunIfCurrent id old t freshRunId n) = .ok (.rebind (.rebound c), u)) :
    exec sha256 serde (run sha256 serde .empty
        (before ++ .rebindCommandChildRunIfCurrent id old t freshRunId n :: between))
      (.rebindCommandChildRunIfCurrent id old t' freshRunId' n') ≠
      .ok (.rebind (.rebound c'), u') := by
  intro second
  set op : Op := .rebindCommandChildRunIfCurrent id old t freshRunId n with here
  have reached : ∀ xs, Keys (run sha256 serde .empty xs) := fun xs => reachable_keys ⟨xs, rfl⟩
  have bound := rebound_binding (reached before) first
  have again := (rebound_binding (reached _) second).1
  -- The chain up to the second call, split where the first one was made.
  have chainOf : ∀ xs, xs <+: ops → _ := fun xs part =>
    @bindings_chain sha256 serde id xs (fun o member => redrives o (part.subset member))
      (fresh.sublist (part.sublist.filterMap _))
  have whole := chainOf (before ++ op :: between)
    ⟨.rebindCommandChildRunIfCurrent id old t' freshRunId' n' :: after, by
      rw [split, List.append_assoc, List.cons_append]⟩
  have part := chainOf before ⟨_, split.symm⟩
  have held : old ∈ bindings sha256 serde id .empty before :=
    List.mem_of_getLast? (part.2.2.trans bound.1)
  have other : freshRunId ≠ old := by
    intro same
    rw [split, List.filterMap_append, List.nodup_append] at fresh
    exact fresh.2.2 _ (part.1 old held) (id, freshRunId) (by simp [here, Op.proposes])
      (by rw [same])
  have moved : bindings sha256 serde id (run sha256 serde .empty before) (op :: between) =
      freshRunId :: bindings sha256 serde id (step sha256 serde (run sha256 serde .empty before) op)
        between := by
    rw [bindings, step_ok first, bound.1, bound.2, if_neg (by simpa using other)]
    rfl
  rw [bindings_append, moved] at whole
  have last : old ∈ freshRunId :: bindings sha256 serde id
      (step sha256 serde (run sha256 serde .empty before) op) between := by
    have ends := whole.2.2.trans again
    rw [List.getLast?_append_of_ne_nil _ (List.cons_ne_nil _ _)] at ends
    exact List.mem_of_getLast? ends
  exact (List.nodup_append.mp whole.2.1).2.2 old held old last rfl

variable (sha256 serde) in
/-- Any number of callers, in any order, as long as each run id proposed for a command is new: one
rebinding at most succeeds for each old run id, the bindings of a command are one chain without
repeats that ends in the current one, and every step is a compare-and-swap. -/
theorem redrive_cas (ops : List Op) (redrives : ∀ op ∈ ops, op.redrives = true)
    (fresh : (ops.filterMap Op.proposes).Nodup) :
    (∀ id old before between after t t' freshRunId freshRunId' n n' c c' u u',
      ops = before ++ .rebindCommandChildRunIfCurrent id old t freshRunId n ::
        (between ++ .rebindCommandChildRunIfCurrent id old t' freshRunId' n' :: after) →
      exec sha256 serde (run sha256 serde .empty before)
        (.rebindCommandChildRunIfCurrent id old t freshRunId n) = .ok (.rebind (.rebound c), u) →
      exec sha256 serde (run sha256 serde .empty
          (before ++ .rebindCommandChildRunIfCurrent id old t freshRunId n :: between))
        (.rebindCommandChildRunIfCurrent id old t' freshRunId' n') ≠
        .ok (.rebind (.rebound c'), u')) ∧
    (∀ id, (bindings sha256 serde id .empty ops).Nodup ∧
      (bindings sha256 serde id .empty ops).getLast? =
        childOf id (run sha256 serde .empty ops)) ∧
    ∀ before op after, ops = before ++ op :: after →
      CasStep sha256 serde (run sha256 serde .empty before) op := by
  refine ⟨?_, fun id => (bindings_chain id redrives fresh).2, ?_⟩
  · intro id old before between after t t' freshRunId freshRunId' n n' c c' u u' split first
    exact rebound_once redrives fresh split first
  · intro before op after split
    have part : ∀ o ∈ before ++ [op], o.redrives = true := by
      intro o member
      apply redrives o
      rw [split, List.append_cons]
      exact List.mem_append_left _ member
    exact casStep (reachable_keys ⟨before, rfl⟩) (part op (by simp))
      (run_settledBound fun o member => part o (List.mem_append_left _ member))

end Running

def race : List Op :=
  [.createConversation none "v" ⟨1, "e1"⟩,
    .createRun ⟨"v", none, "agent", "role"⟩ none "r" ⟨2, "e2"⟩,
    .startRun "r" ⟨3, "e3"⟩,
    .completeRun "r" ⟨4, "e4"⟩,
    .setRunProviderSession "r" "session",
    .createCommand ⟨"v", "r", "go on"⟩ ⟨"key"⟩ "c" 5,
    .bindCommandChildRun "c" "child" 6,
    .rebindCommandChildRunIfCurrent "c" "child" 6 "second" 7,
    .rebindCommandChildRunIfCurrent "c" "child" 6 "third" 7,
    .markCommandRejectedIfUnattachedAndBound "c" "second" 8]

theorem redrive_cas_race :
    (∀ op ∈ race, op.redrives = true) ∧ (race.filterMap Op.proposes).Nodup ∧
      (bindings standardSha256 printedSerde "c" .empty race).Nodup ∧
      bindings standardSha256 printedSerde "c" .empty race = ["child", "second"] :=
  ⟨by decide, by decide,
    ((redrive_cas standardSha256 printedSerde race (by decide) (by decide)).2.1 "c").1,
    by decide +kernel⟩

end O7Formal.Ledger
