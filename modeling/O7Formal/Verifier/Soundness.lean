import O7Formal.Verifier.Runner

/-! Evidence that is accepted, and the run behind it. -/

namespace O7Formal.Verifier

open Run (Sha256)
open Worker Program

variable {turns budget : Nat} {spec : WorkerSpec} {w : World}

theorem step_trace (turn : Turn) : (w.step turns spec turn).trace = w.trace ∨
    ∃ answers c r₀ r w', turn = .supervisor answers ∧ answers c = some r₀ ∧
      w.answer turns c r₀ = some (r, w') ∧ (w.step turns spec turn).trace = w.trace ++ [⟨c, r⟩] := by
  cases turn with
  | supervisor answers =>
      rw [World.step, World.supervise]
      split
      · exact .inl rfl
      · rename_i c next _
        split
        · rename_i r w' answered
          rcases Option.bind_eq_some_iff.mp answered with ⟨r₀, given, found⟩
          exact .inr ⟨answers, c, r₀, r, w', rfl, given, found, rfl⟩
        · exact .inl rfl
  | reader s answers =>
      rw [World.step]
      split
      · rw [World.read]
        split
        · exact .inl rfl
        · split <;> exact .inl rfl
      · exact .inl rfl

theorem collectRun_keeps {kept : Trace Call Call.Answer → Prop} (allowed : Turn → Prop)
    (step : ∀ w answers c r₀ r w', allowed (.supervisor answers) → kept w.trace →
      sinkAnswers budget w answers c = some r₀ → w.answer turns c r₀ = some (r, w') →
        kept (w.trace ++ [⟨c, r⟩]))
    (schedule : List Turn) (each : ∀ turn ∈ schedule, allowed turn) (held : kept w.trace) :
    kept (collectRun turns spec budget w schedule).trace := by
  induction schedule generalizing w with
  | nil => exact held
  | cons turn schedule ih =>
      rw [List.forall_mem_cons] at each
      apply ih each.2
      rcases @step_trace turns spec w (overSink budget w turn) with same | grown
      · rw [same]
        exact held
      · rcases grown with ⟨answers', c, r₀, r, w', sunk, given, found, grown⟩
        rw [grown]
        cases turn with
        | supervisor answers =>
            cases sunk
            exact step w answers c r₀ r w' each.1 held given found
        | reader s answers => cases sunk

theorem collectRun_run (schedule : List Turn) : ∃ schedule',
    collectRun turns spec budget w schedule = w.run turns spec schedule' := by
  induction schedule generalizing w with
  | nil => exact ⟨[], rfl⟩
  | cons turn schedule ih =>
      rcases ih (w := w.step turns spec (overSink budget w turn)) with ⟨schedule', same⟩
      exact ⟨overSink budget w turn :: schedule', same⟩

def takenOn (s : OutputStream) (log : Log) : List UInt8 :=
  (chunksOn s (chunksOf log.accepted)).flatMap (·.bytes)

structure Retained (budget : Nat) (spec : WorkerSpec) (trace : Trace Call Call.Answer) : Prop where
  held : ∀ s, (Collected.after budget trace).held s = takenOn s (logOf spec trace)
  total : (Collected.after budget trace).total =
    (takenOn .stdout (logOf spec trace)).length + (takenOn .stderr (logOf spec trace)).length
  within : (Collected.after budget trace).total ≤ budget

theorem after_snoc (trace : Trace Call Call.Answer) (c : Call) (r : c.Answer) :
    Collected.after budget (trace ++ [⟨c, r⟩]) =
      match (⟨c, r⟩ : (c : Call) × c.Answer) with
      | ⟨.publish o, _⟩ => ((Collected.after budget trace).publish budget o).2
      | _ => Collected.after budget trace := by
  rw [Collected.after, List.foldl_append]
  rfl

theorem after_publish (trace : Trace Call Call.Answer) (o : WorkerObservation)
    (r : Bounded ObservationError Unit) : Collected.after budget (trace ++ [⟨.publish o, r⟩]) =
      ((Collected.after budget trace).publish budget o).2 := after_snoc trace _ _

theorem takenOn_append (s : OutputStream) (log log' : Log) (more : List WorkerObservation)
    (grown : log'.accepted = log.accepted ++ more) :
    takenOn s log' = takenOn s log ++ (chunksOn s (chunksOf more)).flatMap (·.bytes) := by
  rw [takenOn, takenOn, grown, chunksOf_append, chunksOn, List.filter_append, List.flatMap_append]
  rfl

theorem takenOn_same (s : OutputStream) {log log' : Log} (same : log'.accepted = log.accepted) :
    takenOn s log' = takenOn s log := by
  rw [takenOn, takenOn, same]

theorem note_accepted_same {c : Call} {r : c.Answer} {log : Log} (idle : acceptedBy c r = none) :
    (log.note spec c r).accepted = log.accepted := by
  cases carried : messageOf c r with
  | none =>
      have same : Same log (log.note spec c r) := note_same carried idle
      exact same.accepted
  | some message => exact (note_message carried).1

structure Unmoved (collected collected' : Collected) : Prop where
  held : ∀ s, collected'.held s = collected.held s
  total : collected'.total = collected.total

variable {trace : Trace Call Call.Answer} {c : Call} {r : c.Answer}

theorem Retained.unmoved (retained : Retained budget spec trace)
    (taken : ∀ s, takenOn s (logOf spec (trace ++ [⟨c, r⟩])) = takenOn s (logOf spec trace))
    (unmoved : Unmoved (Collected.after budget trace)
      (Collected.after budget (trace ++ [⟨c, r⟩]))) :
    Retained budget spec (trace ++ [⟨c, r⟩]) := by
  constructor
  · intro s
    rw [taken, unmoved.held, retained.held]
  · rw [taken, taken, unmoved.total, retained.total]
  · rw [unmoved.total]
    exact retained.within

theorem takenOn_idle (idle : acceptedBy c r = none) (s : OutputStream) :
    takenOn s (logOf spec (trace ++ [⟨c, r⟩])) = takenOn s (logOf spec trace) := by
  apply takenOn_same
  rw [logOf_snoc]
  exact note_accepted_same idle

def bytesOn (s : OutputStream) (o : WorkerObservation) : List UInt8 :=
  (chunksOn s (chunksOf [o])).flatMap (·.bytes)

theorem takenOn_publish (s : OutputStream) (o : WorkerObservation) :
    takenOn s (logOf spec (trace ++ [⟨.publish o, .done ()⟩])) =
      takenOn s (logOf spec trace) ++ bytesOn s o := by
  rw [logOf_snoc]
  exact takenOn_append s (logOf spec trace) _ [o] rfl

theorem bytesOn_length (chunk : OutputChunk) :
    (bytesOn .stdout (.outputChunk chunk)).length + (bytesOn .stderr (.outputChunk chunk)).length =
      chunk.bytes.length := by
  rcases chunk with ⟨stream, sequence, bytes⟩
  cases stream <;> simp [bytesOn, chunksOn, chunksOf]

theorem held_extend (collected : Collected) (chunk : OutputChunk) (total : Nat) (s : OutputStream) :
    (collected.extend chunk total).held s = collected.held s ++ bytesOn s (.outputChunk chunk) := by
  rcases chunk with ⟨stream, sequence, bytes⟩
  cases stream <;> cases s <;> simp [Collected.extend, Collected.held, bytesOn, chunksOn, chunksOf]

theorem Retained.chunk {chunk : OutputChunk} (retained : Retained budget spec trace)
    (small : budget < usizeMax)
    (fits : ¬ min ((Collected.after budget trace).total + chunk.bytes.length) usizeMax > budget) :
    Retained budget spec (trace ++ [⟨.publish (.outputChunk chunk), .done ()⟩]) := by
  have total : min ((Collected.after budget trace).total + chunk.bytes.length) usizeMax =
      (Collected.after budget trace).total + chunk.bytes.length := by omega
  have after : Collected.after budget (trace ++ [⟨.publish (.outputChunk chunk), .done ()⟩]) =
      (Collected.after budget trace).extend chunk
        ((Collected.after budget trace).total + chunk.bytes.length) := by
    rw [after_publish, Collected.publish, if_neg fits, total]
  have sum := bytesOn_length chunk
  have counted : (Collected.after budget (trace ++ [⟨.publish (.outputChunk chunk), .done ()⟩])).total =
      (Collected.after budget trace).total + chunk.bytes.length := by
    rw [after, Collected.extend]
    split <;> rfl
  constructor
  · intro s
    rw [takenOn_publish, after, held_extend, retained.held]
  · rw [counted, retained.total, takenOn_publish, takenOn_publish, List.length_append,
      List.length_append]
    omega
  · rw [counted]
    omega

theorem Retained.publish {o : WorkerObservation} (retained : Retained budget spec trace)
    (small : budget < usizeMax) : Retained budget spec
      (trace ++ [⟨.publish o, ((Collected.after budget trace).publish budget o).1⟩]) := by
  cases o with
  | outputChunk chunk =>
      by_cases exceeded :
          min ((Collected.after budget trace).total + chunk.bytes.length) usizeMax > budget
      · have refused : (Collected.after budget trace).publish budget (.outputChunk chunk) =
            (.failed ⟨"verifier output exceeded the " ++ toString budget ++ "-byte budget"⟩,
              { Collected.after budget trace with budgetExceeded := true }) := by
          rw [Collected.publish]
          exact if_pos exceeded
        rw [refused]
        apply retained.unmoved (takenOn_idle rfl)
        rw [after_publish, refused]
        exact ⟨fun s => by cases s <;> rfl, rfl⟩
      · have taken : ((Collected.after budget trace).publish budget (.outputChunk chunk)).1 =
            .done () := by
          rw [Collected.publish, if_neg exceeded]
        rw [taken]
        exact retained.chunk small exceeded
  | _ =>
      apply retained.unmoved
      · intro s
        exact (takenOn_publish s _).trans (List.append_nil _)
      · rw [after_publish]
        exact ⟨fun _ => rfl, rfl⟩

theorem retained_nil : Retained budget spec [] := by
  refine ⟨?_, rfl, Nat.zero_le budget⟩
  intro s
  cases s <;> rfl

theorem retained_step {answers : (c : Call) → Option c.Answer} {r₀ : c.Answer} {w' : World}
    (small : budget < usizeMax) (retained : Retained budget spec w.trace)
    (given : sinkAnswers budget w answers c = some r₀)
    (found : w.answer turns c r₀ = some (r, w')) :
    Retained budget spec (w.trace ++ [⟨c, r⟩]) := by
  cases c with
  | publish o =>
      cases given
      cases found
      exact retained.publish small
  | _ => exact retained.unmoved (takenOn_idle rfl) (by rw [after_snoc]; exact ⟨fun _ => rfl, rfl⟩)

theorem retained_run (small : budget < usizeMax) (schedule : List Turn)
    (retained : Retained budget spec w.trace) :
    Retained budget spec (collectRun turns spec budget w schedule).trace :=
  collectRun_keeps (fun _ => True)
    (fun _ _ _ _ _ _ _ retained given found => retained_step small retained given found) schedule
    (fun _ _ => trivial) retained

def tellsCancel : (c : Call) → c.Answer → Bool
  | .cancelRequested, asked => asked
  | .spawn _, none => true
  | .select _ _, .cancelled => true
  | _, _ => false

def Uncancelled (trace : Trace Call Call.Answer) : Prop :=
  ∀ entry ∈ trace, tellsCancel entry.1 entry.2 = false

def Unhurried (turn : Turn) : Prop := ∃ turn', turn = unhurried turn'

theorem uncancelled_answer {answers : (c : Call) → Option c.Answer} {r₀ : c.Answer} {w' : World}
    (given : sinkAnswers budget w (uncancelled answers) c = some r₀)
    (found : w.answer turns c r₀ = some (r, w')) : tellsCancel c r = false := by
  match c, r₀, r, given, found with
  | .cancelRequested, _, _, given, found =>
      cases given
      cases found
      rfl
  | .spawn s, none, _, given, found =>
      simp only [sinkAnswers, uncancelled] at given
      split at given
      · cases given
      · rename_i other
        exact absurd given other
  | .spawn s, some _, _, given, found =>
      cases found
      rfl
  | .select _ _, .cancelled, _, given, found =>
      simp only [sinkAnswers, uncancelled] at given
      split at given
      · cases given
      · rename_i other
        exact absurd given other
  | .select _ _, .exit _, _, _, found =>
      cases found
      rfl
  | .select _ _, .heartbeat _, _, _, found =>
      simp only [World.answer] at found
      split at found
      · cases found
        rfl
      · cases found
  | .select _ _, .output _, _, _, found =>
      simp only [World.answer] at found
      split at found
      · rcases Option.map_eq_some_iff.mp found with ⟨received, _, same⟩
        cases same
        rfl
      · cases found
  | .attestation, _, _, _, _ => rfl
  | .publish _, _, _, _, _ => rfl
  | .transition _ _, _, _, _, _ => rfl
  | .identity, _, _, _, _ => rfl
  | .takeStream _ _, _, _, _, _ => rfl
  | .gracefulStop, _, _, _, _ => rfl
  | .gracefulWait _, _, _, _, _ => rfl
  | .forceStop _, _, _, _, _ => rfl
  | .reap _, _, _, _, _ => rfl
  | .members _, _, _, _, _ => rfl
  | .deadlinePassed _, _, _, _, _ => rfl
  | .drainTimeLeft, _, _, _, _ => rfl
  | .recvWithin, _, _, _, _ => rfl
  | .shutdownReaders, _, _, _, _ => rfl

theorem uncancelled_run (schedule : List Turn) (calm : Uncancelled w.trace) :
    Uncancelled (collectRun turns spec budget w (schedule.map unhurried)).trace := by
  refine collectRun_keeps Unhurried ?_ _ ?_ calm
  · intro w answers c r₀ r w' unhurried calm given found entry member
    rcases List.mem_append.mp member with before | last
    · exact calm entry before
    · rw [List.mem_singleton.mp last]
      rcases unhurried with ⟨turn', same⟩
      cases turn' with
      | supervisor answers' =>
          cases same
          exact uncancelled_answer given found
      | reader s answers' => cases same
  · intro turn member
    rcases List.mem_map.mp member with ⟨turn', _, same⟩
    exact ⟨turn', same.symm⟩

section Accepted

variable {sha256 : Sha256} {requirement : BoundaryRequirement} {host : Host}
  {repo : CanonicalRepoId} {root : Bytes} {command : TrustedCommand} {trust store : TrustStore}
  {evidence : VerifierEvidence} {staged : StagedExecutable} {exitCode : Int32}

def readOn (w : World) (s : OutputStream) : List UInt8 :=
  match w.readers s with
  | some pipe => (readsOf pipe.trace).flatten
  | none => []

/-- What stands behind the evidence of a run: the sealed bytes, the checks before the spawn, and the
run of the sealed object up to its exit. -/
structure Vouched (sha256 : Sha256) (requirement : BoundaryRequirement) (host : Host)
    (repo : CanonicalRepoId) (root : Bytes) (command : TrustedCommand) (store : TrustStore)
    (evidence : VerifierEvidence) (staged : StagedExecutable) (exitCode : Int32) (w : World) :
    Prop where
  acquired : ∃ source, acquireExecutable host.source = .ok source ∧ host.stage source = .ok staged
  stored : commandDigest sha256 repo command (.ofBytes sha256 staged.content) ∈ store.trusted
  required : command.boundaryRequirement.requirement = requirement
  attested : requirement.isSatisfiedBy host.attestation = true
  exited : w.supervisor = pure (.exitedNormally exitCode)
  uncancelled : Uncancelled w.trace
  success : TrueSuccess (workerSpec requirement staged root command
    (structuralCommandDigest sha256 repo command)) w (.exitedNormally exitCode)
  inPolicy : command.exitPolicy.isSuccess exitCode = true
  stdout : evidence.stdout = readOn w .stdout
  stderr : evidence.stderr = readOn w .stderr
  within : evidence.stdout.length + evidence.stderr.length ≤
    command.outputLimits.maxTotalBytes.toNat

def ranTo (sha256 : Sha256) (requirement : BoundaryRequirement) (host : Host)
    (repo : CanonicalRepoId) (root : Bytes) (command : TrustedCommand)
    (staged : StagedExecutable) : World :=
  host.atTimeout (workerSpec requirement staged root command
    (structuralCommandDigest sha256 repo command)) command.outputLimits.maxTotalBytes.toNat

theorem mapOutcome_completed_iff {result : WorkerResult} {timedOut exceeded : Bool} :
    mapOutcome result timedOut exceeded = .completed exitCode ↔
      result = .exitedNormally exitCode ∧ timedOut = false ∧ exceeded = false := by
  cases timedOut <;> cases exceeded <;> cases result <;> simp [mapOutcome]

theorem flatMap_numbered (s : OutputStream) (reads : List (List UInt8)) :
    (numbered s reads).flatMap (·.bytes) = reads.flatten := by
  induction reads using List.reverseRecOn with
  | nil => rfl
  | append_singleton reads bytes ih =>
      rw [numbered_concat, List.flatMap_append, ih, List.flatten_append]
      rfl

theorem takenOn_success {result : WorkerResult} (success : TrueSuccess spec w result)
    (s : OutputStream) : takenOn s (logOf spec w.trace) = readOn w s := by
  rw [readOn]
  split
  · rename_i pipe held
    have delivered := (success.delivered s pipe held).2
    rw [publishedOn] at delivered
    rw [takenOn, delivered, flatMap_numbered]
  · rename_i untaken
    have nothing := success.untaken s untaken
    rw [publishedOn] at nothing
    rw [takenOn, nothing]
    rfl

theorem join_done {result : WorkerResult} {collected : Collected}
    (joined : host.join spec budget = some (result, false, collected)) :
    (host.atTimeout spec budget).supervisor = pure result ∧
      collected = .after budget (host.atTimeout spec budget).trace := by
  rw [Host.join] at joined
  split at joined
  · rename_i done
    cases joined
    exact ⟨done, rfl⟩
  · split at joined <;> cases joined

theorem success_of_exited (exited : (host.atTimeout spec budget).supervisor =
    pure (.exitedNormally exitCode)) :
    TrueSuccess spec (host.atTimeout spec budget) (.exitedNormally exitCode) := by
  rcases @collectRun_run host.turns budget spec (World.begin host.turns spec)
    (host.early.map unhurried) with ⟨schedule, same⟩
  have coherent : Coherent host.turns spec (host.atTimeout spec budget) := by
    rw [Host.atTimeout, same]
    exact coherent_run schedule
  have run := coherent.supervisor
  rw [exited] at run
  exact coherent.trueSuccess (((run_final run).owned (launched_of_exited run)).success rfl)

theorem verifySealed_vouched
    (returned : verifySealed sha256 requirement host repo root command trust staged staged.content =
      some evidence) (completed : evidence.outcome = .completed exitCode)
    (small : command.outputLimits.maxTotalBytes.toNat < usizeMax) :
    let w := ranTo sha256 requirement host repo root command staged
    evidence.repo = repo ∧ evidence.command = command ∧
      evidence.executableIdentity = some (.ofBytes sha256 staged.content) ∧
      requirement.isSatisfiedBy host.attestation = true ∧
      w.supervisor = pure (.exitedNormally exitCode) ∧
      TrueSuccess (workerSpec requirement staged root command
        (structuralCommandDigest sha256 repo command)) w (.exitedNormally exitCode) ∧
      evidence.stdout = readOn w .stdout ∧ evidence.stderr = readOn w .stderr ∧
      evidence.stdout.length + evidence.stderr.length ≤
        command.outputLimits.maxTotalBytes.toNat := by
  intro w
  rw [verifySealed] at returned
  dsimp only at returned
  split at returned
  · cases returned
    cases completed
  · split at returned
    · cases returned
      cases completed
    · rename_i satisfied
      rw [Bool.not_eq_true', Bool.not_eq_false] at satisfied
      rcases Option.map_eq_some_iff.mp returned with ⟨⟨result, timedOut, collected⟩, joined, same⟩
      subst same
      rcases mapOutcome_completed_iff.mp completed with ⟨rfl, rfl, _⟩
      rcases join_done joined with ⟨exited, rfl⟩
      have success := success_of_exited exited
      have retained : Retained command.outputLimits.maxTotalBytes.toNat _ w.trace :=
        retained_run small (host.early.map unhurried) retained_nil
      have held : ∀ s, (Collected.after command.outputLimits.maxTotalBytes.toNat w.trace).held s =
          readOn w s := fun s => (retained.held s).trans (takenOn_success success s)
      refine ⟨rfl, rfl, rfl, satisfied, exited, success, held .stdout, held .stderr, ?_⟩
      have total := retained.total
      have within := retained.within
      rw [← retained.held, ← retained.held] at total
      rw [total] at within
      exact within

theorem notRun_rejected {structural : CommandDigest} {identity : Option ExecutableIdentity}
    {digest : Option CommandDigest} {enforcement : Option AttestedEnforcement} {reason : String}
    (same : some (notRun repo command structural identity digest enforcement reason) =
      some evidence) : evidence.outcome ≠ .completed exitCode := by
  cases same
  nofun

theorem verify_completed
    (returned : verify sha256 requirement host repo root command trust = some evidence)
    (completed : evidence.outcome = .completed exitCode) :
    command.boundaryRequirement.requirement = requirement ∧
      command.outputLimits.maxTotalBytes.toNat < usizeMax ∧
      ∃ source staged, acquireExecutable host.source = .ok source ∧
        host.stage source = .ok staged ∧
        verifySealed sha256 requirement host repo root command trust staged staged.content =
          some evidence := by
  rw [verify] at returned
  split at returned
  · exact absurd completed (notRun_rejected returned)
  · rename_i required
    split at returned
    · exact absurd completed (notRun_rejected returned)
    · rename_i valid
      have small : command.outputLimits.maxTotalBytes.toNat < usizeMax :=
        lt_of_le_of_lt (TrustedCommand.validate_budget valid) (by decide)
      split at returned
      · exact absurd completed (notRun_rejected returned)
      · rename_i source acquired
        split at returned
        · exact absurd completed (notRun_rejected returned)
        · rename_i staged sealed'
          refine ⟨not_not.mp required, small, source, staged, acquired, sealed', ?_⟩
          split at returned
          · exact absurd completed (notRun_rejected returned)
          · rename_i bytes readBack
            unfold StagedExecutable.readBack at readBack
            split at readBack
            · cases readBack
            · cases readBack
              exact returned

/-- Evidence is accepted exactly where it carries all that acceptance asks for; and where a run of the
verifier returned it, the run behind it was sound. -/
theorem verify_then_adjudicate (sha256 : Sha256) :
    (∀ evidence store, adjudicate sha256 evidence store = .accepted ↔
      ∃ identity exitCode, Acceptable sha256 evidence store identity exitCode) ∧
    ∀ requirement host repo root command trust store evidence,
      verify sha256 requirement host repo root command trust = some evidence →
        adjudicate sha256 evidence store = .accepted →
          ∃ staged exitCode, Vouched sha256 requirement host repo root command store evidence staged
            exitCode (ranTo sha256 requirement host repo root command staged) := by
  refine ⟨adjudicate_accepted_iff sha256, ?_⟩
  intro requirement host repo root command trust store evidence returned accepted
  rcases (adjudicate_accepted_iff sha256 evidence store).mp accepted with
    ⟨identity, exitCode, acceptable⟩
  rcases verify_completed returned acceptable.completed with
    ⟨required, small, source, staged, acquired, held, ran⟩
  rcases verifySealed_vouched ran acceptable.completed small with
    ⟨ownRepo, ownCommand, ownIdentity, attested, exited, success, stdout, stderr, within⟩
  have stored := acceptable.stored
  have inPolicy := acceptable.inPolicy
  cases acceptable.carried.symm.trans ownIdentity
  rw [ownRepo, ownCommand] at stored
  rw [ownCommand] at inPolicy
  exact ⟨staged, exitCode, ⟨source, acquired, held⟩, stored, required, attested, exited,
    uncancelled_run host.early nofun, success, inPolicy, stdout, stderr, within⟩

end Accepted

/-! ### A sample run -/

namespace Sample

open Run (standardSha256)
open PrecedenceSample (attestation)

def repo : CanonicalRepoId := ⟨.ofText "/repo/.git" (by decide), 1, 2⟩

/-- `/bin/check` in the worktree, for exit code 0. -/
def command : TrustedCommand :=
  { executable := .ofText "/bin/check" (by decide)
    arguments := .nil
    cwdPolicy := .worktreeRoot
    environment := ⟨.nil, List.Pairwise.nil⟩
    timeout := ⟨1000000000, by norm_num⟩
    outputLimits := ⟨1024⟩
    exitPolicy := ⟨⟨[0], by norm_num⟩, List.pairwise_singleton _ _⟩
    boundaryRequirement := .requireFullyEnforced }

theorem root_short : (ByteCodec.utf8Bytes "/worktree").length < 2 ^ 63 := by decide

def root : Bytes := .ofText "/worktree" root_short

def staged : StagedExecutable := ⟨"/proc/1/fd/3", [0x7f, 0x45]⟩

/-- A host that runs the command to its end, with both streams read. -/
def host : Host :=
  { attestation := attestation
    source := ⟨.ok (), .ok (0o100755, 2), .ok [0x7f, 0x45]⟩
    stage := fun bytes => .ok ⟨"/proc/1/fd/3", bytes⟩
    readFault := none
    display := latin
    turns := 2
    early := SuccessSample.written
    late := [] }

def identity : ExecutableIdentity := .ofBytes standardSha256 staged.content

def structural : CommandDigest := structuralCommandDigest standardSha256 repo command

def store : TrustStore := TrustStore.new.trust (.fromParts standardSha256 repo command identity)

def evidence : VerifierEvidence :=
  ⟨.completed 0, true, some .fullyEnforced, repo, command, some identity,
    some (commandDigest standardSha256 repo command identity), structural, [104, 105], []⟩

theorem joined : host.join (workerSpec .requireFullyEnforced staged root command structural) 1024 =
    some (.exitedNormally 0, false, ⟨[104, 105], [], 2, false⟩) := by
  decide +kernel

theorem verified :
    verify standardSha256 .requireFullyEnforced host repo root command store = some evidence := by
  have valid : command.validate = .ok () := rfl
  have acquired : acquireExecutable host.source = .ok [0x7f, 0x45] := rfl
  have trusted : store.isTrusted (.fromParts standardSha256 repo command identity) = true :=
    TrustStore.isTrusted_trust _ _
  have attested : BoundaryRequirement.isSatisfiedBy host.attestation .requireFullyEnforced =
      true := rfl
  have required : command.boundaryRequirement.requirement = .requireFullyEnforced := rfl
  rw [verify, if_neg (not_not.mpr required), valid, acquired]
  change verifySealed standardSha256 .requireFullyEnforced host repo root command store staged
    staged.content = some evidence
  rw [verifySealed, TrustAnchor.forExecutableBytes]
  rw [show ExecutableIdentity.ofBytes standardSha256 staged.content = identity from rfl, trusted,
    Bool.not_true, if_neg Bool.false_ne_true, attested, Bool.not_true, if_neg Bool.false_ne_true]
  exact congrArg (Option.map _) joined

theorem accepted : adjudicate standardSha256 evidence store = .accepted := by
  rw [adjudicate_accepted_iff]
  have stored : commandDigest standardSha256 repo command identity ∈ store.trusted :=
    TrustStore.mem_trust .new _
  exact ⟨identity, 0, rfl, rfl, stored, fun _ => rfl, rfl, rfl⟩

end Sample

open Sample

theorem verify_then_adjudicate_sample : ∃ staged exitCode,
    Vouched Run.standardSha256 .requireFullyEnforced host repo root command store evidence staged
      exitCode (ranTo Run.standardSha256 .requireFullyEnforced host repo root command staged) :=
  (verify_then_adjudicate Run.standardSha256).2 .requireFullyEnforced host repo root command store
    store evidence verified accepted

end O7Formal.Verifier
