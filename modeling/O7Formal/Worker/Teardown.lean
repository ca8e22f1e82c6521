import O7Formal.Worker.Log

/-! What the teardown of an owned process leaves in the log, and that its calls fit. -/

namespace O7Formal.Worker

open Program

variable {spec : WorkerSpec} {log log' log'' : Log}

theorem obeys_ask {α : Type} {c : Call} {f : c.Answer → Supervised α} {post : α → Log → Prop}
    (fits : Lawful log c) (later : ∀ r, (f r).Obeys (lawful spec) (log.note spec c r) post) :
    (ask c >>= f).Obeys (lawful spec) log post :=
  ⟨fits, fun r _ => later r⟩

theorem obeys_goesOn {α : Type} {post : α → Log → Prop} :
    (goesOn : Supervised α).Obeys (lawful spec) log post :=
  ⟨trivial, nofun⟩

def publisherOf (spec : WorkerSpec) (log : Log) : Publisher :=
  ⟨spec.output.sinkBackpressureTimeout, log.refused.isEmpty, log.refused.head?⟩

/-- What an observation leaves, whether it is handed to the sink or not. -/
inductive Emitted (log : Log) (o : WorkerObservation) : Log → Prop where
  | silent (lost : log.refused ≠ []) : Emitted log o log
  | accepted (fits : Fits log o) : Emitted log o (log.accept o)
  | refused (fits : Fits log o) (why : String) : Emitted log o (log.refuse o why)

theorem publisherOf_alive : (publisherOf spec log).alive = true ↔ log.refused = [] := by
  rw [publisherOf, List.isEmpty_iff]

theorem blame_refused (cause : Cause) : (log.blame cause).refused = log.refused := by
  rw [Log.blame]
  split <;> rfl

theorem refuse_refused (o : WorkerObservation) (why : String) :
    (log.refuse o why).refused = log.refused ++ [why] := by
  rw [Log.refuse]
  split
  · rw [blame_refused]
  · rfl

theorem lose_publisherOf (o : WorkerObservation) (why : String) (alive : log.refused = []) :
    (publisherOf spec log).lose why = publisherOf spec (log.refuse o why) := by
  rw [publisherOf, publisherOf, refuse_refused, alive]
  rfl

theorem obeys_emit {o : WorkerObservation} {post : Publisher → Log → Prop}
    (fits : log.refused = [] → Fits log o)
    (later : ∀ log', Emitted log o log' → post (publisherOf spec log') log') :
    (emit (publisherOf spec log) o).Obeys (lawful spec) log post := by
  rw [emit]
  by_cases alive : log.refused = []
  · rw [if_pos (publisherOf_alive.mpr alive)]
    apply obeys_ask (c := .publish o) (fits alive)
    intro answer
    cases answer with
    | done u => exact later _ (.accepted (fits alive))
    | failed err =>
        have left := later _ (.refused (fits alive) ("sink error: " ++ err.text))
        rw [← lose_publisherOf o _ alive] at left
        exact left
    | timedOut =>
        have left := later _ (.refused (fits alive)
          ("sink publish exceeded " ++ spec.output.sinkBackpressureTimeout.debug))
        rw [← lose_publisherOf o _ alive] at left
        exact left
  · rw [if_neg fun held => alive (publisherOf_alive.mp held)]
    exact later log (.silent alive)

def isStop : WorkerObservation → Bool
  | .cancellationRequested | .gracefulStopSent | .forceStopSent | .descendantsRemaining _ => true
  | _ => false

/-- Nothing of the run changed but that it was asked to stop. -/
structure Grows (log log' : Log) : Prop where
  attestation : log'.attestation = log.attestation
  launch : log'.launch = log.launch
  state : log'.state = log.state
  halt : log'.halt = log.halt
  drain : log'.drain = log.drain
  received : log'.received = log.received
  closed : log'.closed = log.closed
  accepted : ∃ extra, log'.accepted = log.accepted ++ extra ∧ ∀ o ∈ extra, isStop o = true
  refused : log.refused ≠ [] → log'.refused = log.refused

theorem Grows.refl (log : Log) : Grows log log :=
  ⟨rfl, rfl, rfl, rfl, rfl, rfl, rfl, ⟨[], (List.append_nil _).symm, nofun⟩, fun _ => rfl⟩

theorem Grows.trans (first : Grows log log') (second : Grows log' log'') : Grows log log'' := by
  rcases first.accepted with ⟨early, split, stops⟩
  rcases second.accepted with ⟨late, split', stops'⟩
  refine ⟨second.attestation.trans first.attestation, second.launch.trans first.launch,
    second.state.trans first.state, second.halt.trans first.halt, second.drain.trans first.drain,
    second.received.trans first.received,
    second.closed.trans first.closed, ⟨early ++ late, ?_, ?_⟩, ?_⟩
  · rw [split', split, List.append_assoc]
  · intro o member
    rcases List.mem_append.mp member with before | after
    · exact stops o before
    · exact stops' o after
  · intro lost
    have same := first.refused lost
    rw [second.refused (same ▸ lost), same]

theorem Grows.alive (grows : Grows log log') (alive : log'.refused = []) : log.refused = [] := by
  by_contra lost
  rw [grows.refused lost] at alive
  exact lost alive

theorem Emitted.grows {o : WorkerObservation} (emitted : Emitted log o log')
    (stop : isStop o = true) : Grows log log' := by
  cases emitted with
  | silent lost => exact .refl log
  | accepted fits =>
      exact ⟨rfl, rfl, rfl, rfl, rfl, rfl, rfl, ⟨[o], rfl, by simpa using stop⟩,
        fun lost => absurd fits.alive lost⟩
  | refused fits why =>
      have quiet : Log.endsRun o = false := by cases o <;> first | rfl | cases stop
      rw [Log.refuse, quiet]
      exact ⟨rfl, rfl, rfl, rfl, rfl, rfl, rfl, ⟨[], (List.append_nil _).symm, nofun⟩,
        fun lost => absurd fits.alive lost⟩

/-- A fault is reported with its text, after what the step that met it says. -/
def Reports (reported text : String) : Prop := ∃ said, reported = said ++ text

theorem reports_self (text : String) : Reports text text := ⟨"", (String.empty_append).symm⟩

/-- What a part of the teardown leaves, and the faults it reports. -/
structure Torn (log : Log) (reported : List String) (log' : Log) : Prop where
  grows : Grows log log'
  cause : log'.cause = log.cause
  tearing : log.tearing = true → log'.tearing = true
  exits : log.exits <+: log'.exits
  vacated : log.vacated = true → log'.vacated = true
  faults : ∃ new, log'.faults = log.faults ++ new ∧ (∀ f ∈ new, f.teardown = true) ∧
    List.Forall₂ Reports reported (new.map (·.text))

theorem Torn.refl (log : Log) : Torn log [] log :=
  ⟨.refl log, rfl, id, List.prefix_refl _, id, [], (List.append_nil _).symm, nofun, .nil⟩

theorem Torn.trans {early late : List String} (first : Torn log early log')
    (second : Torn log' late log'') : Torn log (early ++ late) log'' := by
  rcases first.faults with ⟨new, split, torn, reports⟩
  rcases second.faults with ⟨new', split', torn', reports'⟩
  refine ⟨first.grows.trans second.grows, second.cause.trans first.cause,
    fun held => second.tearing (first.tearing held), first.exits.trans second.exits,
    fun held => second.vacated (first.vacated held), new ++ new', ?_, ?_, ?_⟩
  · rw [split', split, List.append_assoc]
  · intro f member
    rcases List.mem_append.mp member with before | after
    · exact torn f before
    · exact torn' f after
  · rw [List.map_append]
    exact List.rel_append reports reports'

theorem Emitted.torn {o : WorkerObservation} (emitted : Emitted log o log')
    (stop : isStop o = true) : Torn log [] log' := by
  have grows := emitted.grows stop
  cases emitted with
  | silent lost => exact .refl log
  | accepted fits =>
      exact ⟨grows, rfl, id, List.prefix_refl _, id, [], (List.append_nil _).symm, nofun, .nil⟩
  | refused fits why =>
      have quiet : Log.endsRun o = false := by cases o <;> first | rfl | cases stop
      refine ⟨grows, ?_, ?_, ?_, ?_, [], ?_, nofun, .nil⟩ <;> simp [Log.refuse, quiet]

theorem Torn.restate {text : String} (torn : Torn log [text] log') (said : String) :
    Torn log [said ++ text] log' := by
  rcases torn.faults with ⟨new, split, all, reports⟩
  refine ⟨torn.grows, torn.cause, torn.tearing, torn.exits, torn.vacated, new, split, all, ?_⟩
  rcases List.forall₂_cons_left_iff.mp reports with ⟨t, ts, ⟨words, same⟩, rest, texts⟩
  rw [texts]
  refine .cons ⟨said ++ words, ?_⟩ rest
  rw [same, String.append_assoc]

theorem torn_tear (step : Step) (timedOut : Bool) (text : String) :
    Torn log [text] (log.tear step timedOut text) :=
  ⟨⟨rfl, rfl, rfl, rfl, rfl, rfl, rfl, ⟨[], (List.append_nil _).symm, nofun⟩, fun _ => rfl⟩, rfl,
    fun _ => rfl, List.prefix_refl _, id, [⟨step, true, timedOut, text⟩], rfl,
    by simp, .cons (reports_self text) .nil⟩

theorem torn_entered : Torn log [] (log.entered .teardown) :=
  ⟨⟨rfl, rfl, rfl, rfl, rfl, rfl, rfl, ⟨[], (List.append_nil _).symm, nofun⟩, fun _ => rfl⟩, rfl,
    fun _ => rfl, List.prefix_refl _, id, [], (List.append_nil _).symm, nofun, .nil⟩

theorem torn_counted (xs : List ProcessIdentity) : Torn log [] (log.counted xs) :=
  ⟨⟨rfl, rfl, rfl, rfl, rfl, rfl, rfl, ⟨[], (List.append_nil _).symm, nofun⟩, fun _ => rfl⟩, rfl, id,
    List.prefix_refl _, fun held => by simp [Log.counted, held], [], (List.append_nil _).symm,
    nofun, .nil⟩

theorem torn_exit (e : BoundaryExit) : Torn log [] (log.exit e) :=
  ⟨⟨rfl, rfl, rfl, rfl, rfl, rfl, rfl, ⟨[], (List.append_nil _).symm, nofun⟩, fun _ => rfl⟩, rfl, id,
    List.prefix_append _ _, id, [], (List.append_nil _).symm, nofun, .nil⟩

structure Stepped (log : Log) (reported : List String) (log' : Log) : Prop where
  torn : Torn log reported log'
  tearing : log'.tearing = true
  refused : log'.refused = log.refused
  accepted : log'.accepted = log.accepted

theorem obeys_forceStop {post : Except String Unit → Log → Prop}
    (later : ∀ result log', Stepped log (faultOf result) log' → log'.exits = log.exits →
      post result log') :
    (boundedForceStop .teardown).Obeys (lawful spec) log post := by
  apply obeys_ask (c := .forceStop .teardown) trivial
  intro answer
  cases answer with
  | done u => exact later _ _ ⟨torn_entered, rfl, rfl, rfl⟩ rfl
  | failed err => exact later _ _ ⟨torn_tear _ _ _, rfl, rfl, rfl⟩ rfl
  | timedOut => exact later _ _ ⟨torn_tear _ _ _, rfl, rfl, rfl⟩ rfl

theorem obeys_reap {post : Except String BoundaryExit → Log → Prop} (unreaped : log.exits = [])
    (later : ∀ result log', Stepped log (faultOf result) log' →
      (faultOf result = [] → log'.exits.length = 1) → post result log') :
    (boundedReap .teardown).Obeys (lawful spec) log post := by
  apply obeys_ask (c := .reap .teardown) unreaped
  intro answer
  cases answer with
  | done e =>
      refine later (.ok e) ((log.entered .teardown).exit e)
        ⟨torn_entered.trans (torn_exit e), rfl, rfl, rfl⟩ ?_
      intro _
      change (log.exits ++ [e]).length = 1
      rw [unreaped]
      rfl
  | failed err => exact later _ _ ⟨torn_tear _ _ _, rfl, rfl, rfl⟩ nofun
  | timedOut => exact later _ _ ⟨torn_tear _ _ _, rfl, rfl, rfl⟩ nofun

theorem obeys_members {post : Except String (List ProcessIdentity) → Log → Prop}
    (later : ∀ result log', Stepped log (faultOf result) log' → log'.exits = log.exits →
      (∀ xs, result = .ok xs →
        log'.members = xs ∧ (xs = [] → log.exits ≠ [] → log'.vacated = true)) →
      post result log') :
    (boundedMembers .teardown).Obeys (lawful spec) log post := by
  apply obeys_ask (c := .members .teardown) trivial
  intro answer
  cases answer with
  | done xs =>
      refine later (.ok xs) ((log.entered .teardown).counted xs)
        ⟨torn_entered.trans (torn_counted xs), rfl, rfl, rfl⟩ rfl ?_
      intro ys same
      cases same
      refine ⟨rfl, ?_⟩
      intro empty reaped
      simp [Log.counted, Log.entered, empty, reaped]
  | failed err => exact later _ _ ⟨torn_tear _ _ _, rfl, rfl, rfl⟩ rfl nofun
  | timedOut => exact later _ _ ⟨torn_tear _ _ _, rfl, rfl, rfl⟩ rfl nofun

theorem survivors_steps :
    Stepped log [survivorsText log.members.length]
      (log.note spec (.deadlinePassed .teardown) true) :=
  ⟨torn_tear _ _ _, rfl, rfl, rfl⟩

structure Cleaned (log : Log) (result : Except String Unit) (log' : Log) : Prop where
  torn : Torn log (faultOf result) log'
  tearing : log'.tearing = true
  exits : log'.exits = log.exits
  vacated : faultOf result = [] → log.exits ≠ [] → log'.vacated = true

theorem Cleaned.after {result : Except String Unit} (cleaned : Cleaned log' result log'')
    (torn : Torn log [] log') (exits : log'.exits = log.exits) : Cleaned log result log'' :=
  ⟨torn.trans cleaned.torn, cleaned.tearing, cleaned.exits.trans exits,
    fun fine reaped => cleaned.vacated fine (exits ▸ reaped)⟩

theorem obeys_awaitEmpty (turns : Nat) (log : Log) :
    (awaitEmpty turns).Obeys (lawful spec) log fun result log' =>
      Cleaned log result log' ∧ log'.refused = log.refused := by
  induction turns generalizing log with
  | zero => exact obeys_goesOn
  | succ turns ih =>
      apply obeys_bind
      apply obeys_members
      intro result log₁ stepped exits counted
      cases result with
      | error e => exact ⟨⟨stepped.torn, stepped.tearing, exits, nofun⟩, stepped.refused⟩
      | ok survivors =>
          rcases counted survivors rfl with ⟨members, vacated⟩
          dsimp only
          by_cases empty : survivors = []
          · subst empty
            exact ⟨⟨stepped.torn, stepped.tearing, exits, fun _ => vacated rfl⟩, stepped.refused⟩
          · rw [if_neg (by simpa using empty)]
            apply obeys_ask (c := .deadlinePassed .teardown) trivial
            intro late
            cases late with
            | true =>
                have survived := @survivors_steps spec log₁
                rw [members] at survived
                refine ⟨⟨stepped.torn.trans survived.torn, survived.tearing, exits, nofun⟩, ?_⟩
                exact survived.refused.trans stepped.refused
            | false =>
                apply obeys_mono (ih log₁)
                intro result' log'' cleaned
                exact ⟨cleaned.1.after stepped.torn exits, cleaned.2.trans stepped.refused⟩

def MayReport (accepted : List WorkerObservation) : Prop :=
  (∀ o ∈ accepted, isSupervisorFailed o = false) ∧
    ((∃ a, accepted = [.boundaryAttested a, .spawnRequested]) ∨ Announced accepted)

theorem fits_descendants {xs : List ProcessIdentity} (alive : log.refused = [])
    (may : MayReport log.accepted) : Fits log (.descendantsRemaining xs) :=
  ⟨alive, may.1, may.2, nofun, nofun⟩

theorem obeys_cleanupGroup (turns : Nat) (may : log.refused = [] → MayReport log.accepted) :
    (cleanupGroup turns (publisherOf spec log)).Obeys (lawful spec) log fun left log' =>
      Cleaned log left.1 log' ∧ left.2 = publisherOf spec log' := by
  apply obeys_bind
  apply obeys_members
  intro result log₁ stepped exits counted
  have same : publisherOf spec log = publisherOf spec log₁ := by
    rw [publisherOf, publisherOf, stepped.refused]
  cases result with
  | error e => exact ⟨⟨stepped.torn, stepped.tearing, exits, nofun⟩, same⟩
  | ok remaining =>
      dsimp only
      by_cases empty : remaining = []
      · subst empty
        exact ⟨⟨stepped.torn, stepped.tearing, exits, fun _ => (counted [] rfl).2 rfl⟩, same⟩
      · rw [if_neg (by simpa using empty), same]
        apply obeys_bind
        apply obeys_emit
        · intro alive
          apply fits_descendants alive
          rw [stepped.accepted]
          exact may (stepped.refused ▸ alive)
        · intro log₂ emitted
          have reported := emitted.torn rfl
          have kept : log₂.exits = log₁.exits := by
            cases emitted with
            | silent lost => rfl
            | accepted fits => rfl
            | refused fits why => rfl
          apply obeys_bind
          apply obeys_forceStop
          intro forced log₃ stepped' exits'
          have torn := (stepped.torn.trans reported).trans stepped'.torn
          have unreaped := exits'.trans (kept.trans exits)
          have same' : publisherOf spec log₂ = publisherOf spec log₃ := by
            rw [publisherOf, publisherOf, stepped'.refused]
          cases forced with
          | error e => exact ⟨⟨torn.restate _, stepped'.tearing, unreaped, nofun⟩, same'⟩
          | ok u =>
              apply obeys_bind
              apply obeys_mono (obeys_awaitEmpty turns log₃)
              intro cleaned log₄ facts
              refine ⟨facts.1.after torn unreaped, ?_⟩
              rw [same', publisherOf, publisherOf, facts.2]

structure Reaped (log : Log) : Prop where
  exits : log.exits.length = 1
  vacated : log.vacated = true

/-- What a teardown leaves, with the faults it met. -/
structure TornDown (log : Log) (faults : List String) (log' : Log) : Prop where
  torn : Torn log faults log'
  tearing : log'.tearing = true
  reaped : faults = [] → Reaped log'

theorem Cleaned.tornDown {faults : List String} {result : Except String Unit}
    (cleaned : Cleaned log' result log'') (torn : Torn log faults log')
    (reaped : faults = [] → log'.exits.length = 1) :
    TornDown log (faults ++ faultOf result) log'' := by
  refine ⟨torn.trans cleaned.torn, cleaned.tearing, ?_⟩
  intro fine
  rcases List.append_eq_nil_iff.mp fine with ⟨before, after⟩
  have once := reaped before
  refine ⟨cleaned.exits ▸ once, cleaned.vacated after ?_⟩
  intro none
  rw [none] at once
  cases once

theorem MayReport.kept (stepped : log'.refused = log.refused ∧ log'.accepted = log.accepted)
    (may : log.refused = [] → MayReport log.accepted) :
    log'.refused = [] → MayReport log'.accepted := by
  rw [stepped.1, stepped.2]
  exact may

theorem publisherOf_congr (same : log'.refused = log.refused) :
    publisherOf spec log = publisherOf spec log' := by
  rw [publisherOf, publisherOf, same]

def abandonResult (faults : List String) : Except String Unit :=
  if faults.isEmpty then .ok () else .error (joined faults)

theorem obeys_abandonAndVerify (turns : Nat) (may : log.refused = [] → MayReport log.accepted)
    (unreaped : log.exits = []) :
    (abandonAndVerify turns (publisherOf spec log)).Obeys (lawful spec) log fun left log' =>
      ∃ faults, TornDown log faults log' ∧ left.1 = abandonResult faults := by
  apply obeys_bind
  apply obeys_forceStop
  intro forced log₁ stepped exits
  apply obeys_bind
  apply obeys_reap (exits.trans unreaped)
  intro again log₂ stepped' once
  apply obeys_bind
  rw [publisherOf_congr (stepped'.refused.trans stepped.refused)]
  apply obeys_mono (obeys_cleanupGroup turns
    (MayReport.kept ⟨stepped'.refused, stepped'.accepted⟩
      (MayReport.kept ⟨stepped.refused, stepped.accepted⟩ may)))
  intro left log' facts
  have torn := stepped.torn.trans stepped'.torn
  refine ⟨_, facts.1.tornDown torn ?_, rfl⟩
  intro fine
  exact once (List.append_eq_nil_iff.mp fine).2

end O7Formal.Worker
