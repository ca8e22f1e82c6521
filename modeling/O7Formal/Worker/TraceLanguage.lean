import O7Formal.Worker.Success

/-! The language of the observations that the sink has taken, at every point of a run. -/

namespace O7Formal.Worker

open Program

variable {turns : Nat} {spec : WorkerSpec} {w : World} {log : Log}

/-- The numbers 0, 1, 2, … as far as the width of the counter keeps them apart. -/
def counted (n : Nat) : List UInt64 := (List.range n).map UInt64.ofNat

theorem counted_succ (n : Nat) : counted (n + 1) = counted n ++ [UInt64.ofNat n] := by
  rw [counted, List.range_succ, List.map_append]
  rfl

theorem length_counted (n : Nat) : (counted n).length = n := by
  rw [counted, List.length_map, List.length_range]

/-- What the sink has taken: every observation fits what was taken before it, a report of the
supervisor's failure is the last one, and the chunks are the first ones received. -/
structure Spoken (log : Log) : Prop where
  order : ∀ before o later, log.accepted = before ++ o :: later → Follows before o
  last : ∀ before o later, log.accepted = before ++ o :: later → isSupervisorFailed o = true →
    later = []
  received : chunksOf log.accepted <+: chunksSent log.received
  heartbeats : heartbeatsOf log.accepted = counted (heartbeatsOf log.accepted).length

theorem spoken_start : Spoken .start := by
  refine ⟨?_, ?_, List.prefix_refl _, rfl⟩
  · intro before o later split
    cases before <;> cases split
  · intro before o later split
    cases before <;> cases split

theorem Spoken.same {log' : Log} (spoken : Spoken log) (accepted : log'.accepted = log.accepted)
    (received : log.received <+: log'.received) : Spoken log' := by
  refine ⟨accepted ▸ spoken.order, accepted ▸ spoken.last, ?_, accepted ▸ spoken.heartbeats⟩
  rw [accepted]
  exact spoken.received.trans (received.filterMap _)

theorem split_concat {α : Type} {xs before later : List α} {x o : α}
    (split : xs ++ [x] = before ++ o :: later) :
    before = xs ∧ o = x ∧ later = [] ∨ ∃ later', xs = before ++ o :: later' ∧ later = later' ++ [x] := by
  cases later using List.reverseRecOn with
  | nil =>
      rcases List.append_inj' split rfl with ⟨same, last⟩
      cases last
      exact .inl ⟨same.symm, rfl, rfl⟩
  | append_singleton later' y _ =>
      rw [← List.cons_append, ← List.append_assoc] at split
      rcases List.append_inj' split rfl with ⟨same, last⟩
      cases last
      exact .inr ⟨later', same, rfl⟩

theorem counted_next {before : List WorkerObservation} {o : WorkerObservation}
    (follows : Follows before o)
    (held : heartbeatsOf before = counted (heartbeatsOf before).length) :
    heartbeatsOf (before ++ [o]) = counted (heartbeatsOf (before ++ [o])).length := by
  rw [heartbeatsOf_append]
  cases o with
  | heartbeat workerId sequence uptime identity =>
      change heartbeatsOf before ++ [sequence] = counted (heartbeatsOf before ++ [sequence]).length
      rw [List.length_append, List.length_singleton, counted_succ, ← held, ← follows.2]
  | _ => simpa [heartbeatsOf] using held

theorem Spoken.accept {o : WorkerObservation} (spoken : Spoken log) (fits : Fits log o) :
    Spoken (log.accept o) := by
  constructor
  · intro before o' later split
    cases split_concat split with
    | inl last =>
        rcases last with ⟨rfl, rfl, rfl⟩
        exact fits.follows
    | inr earlier =>
        rcases earlier with ⟨later', same, _⟩
        exact spoken.order before o' later' same
  · intro before o' later split failed
    cases split_concat split with
    | inl last => exact last.2.2
    | inr earlier =>
        -- Nothing was taken after a failure, and `o` is.
        rcases earlier with ⟨later', same, _⟩
        have member : o' ∈ log.accepted := same ▸ List.mem_append_right _ List.mem_cons_self
        rw [fits.unfinished o' member] at failed
        cases failed
  · change chunksOf (log.accepted ++ [o]) <+: chunksSent log.received
    rw [chunksOf, List.filterMap_append]
    cases o with
    | outputChunk c =>
        rw [fits.chunk c rfl]
        exact List.prefix_refl _
    | _ => simpa [chunksOf] using spoken.received
  · exact counted_next fits.follows spoken.heartbeats

theorem Spoken.note {c : Call} (spoken : Spoken log) (r : c.Answer) (permitted : Lawful log c) :
    Spoken (log.note spec c r) := by
  cases carried : messageOf c r with
  | some message =>
      rcases note_message carried with ⟨accepted, received, _⟩
      refine spoken.same accepted ?_
      rw [received]
      exact List.prefix_append _ _
  | none =>
      cases accepted : acceptedBy c r with
      | some o =>
          have both : c = .publish o ∧ log.note spec c r = log.accept o := note_accepted accepted
          rcases both with ⟨rfl, noted⟩
          rw [noted]
          exact spoken.accept permitted
      | none =>
          have same : Same log (log.note spec c r) := note_same carried accepted
          exact spoken.same same.accepted (same.received ▸ List.prefix_refl _)

theorem spoken_run {trace : Trace Call Call.Answer} {rest : Supervised WorkerResult}
    (run : After (runInner turns spec) trace rest) : Spoken (logOf spec trace) := by
  apply run.invariant ?_ spoken_start (obeys_runInner turns spec) fun _ _ => trivial
  intro log c r spoken permitted _
  exact spoken.note r permitted

theorem sequences_numbered (s : OutputStream) (reads : List (List UInt8)) :
    (numbered s reads).map (·.sequence) = counted reads.length := by
  induction reads using List.reverseRecOn with
  | nil => rfl
  | append_singleton reads bytes ih =>
      rw [numbered_concat, List.map_append, ih, List.length_append, List.length_singleton,
        counted_succ]
      rfl

theorem counted_prefix {numbers : List UInt64} {n : Nat} (begins : numbers <+: counted n) :
    numbers = counted numbers.length := by
  have shorter := begins.length_le
  rw [length_counted] at shorter
  rw [List.prefix_iff_eq_take.mp begins, counted, ← List.map_take, List.take_range,
    List.length_map, List.length_range, Nat.min_eq_left shorter]
  rfl

theorem Coherent.sequences (coherent : Coherent turns spec w) (s : OutputStream) :
    (publishedOn spec w s).map (·.sequence) = counted (publishedOn spec w s).length := by
  have received : publishedOn spec w s <+:
      chunksOn s (chunksSent ((logOf spec w.trace).received ++ w.queue)) := by
    rw [chunksSent_append]
    exact ((spoken_run coherent.supervisor).received.trans (List.prefix_append _ _)).filter _
  rw [coherent.chunks s] at received
  have read : ∃ reads, publishedOn spec w s <+: numbered s reads := by
    rw [sentOn] at received
    split at received
    · rename_i pipe held
      rcases coherent.readers s pipe held with ⟨⟨maxChunk, run⟩, taken⟩
      exact ⟨_, received.trans (sent_begins run taken)⟩
    · exact ⟨[], received⟩
  rcases read with ⟨reads, begins⟩
  have numbers := begins.map (·.sequence)
  rw [sequences_numbered] at numbers
  have counted := counted_prefix numbers
  rwa [List.length_map] at counted

/-- The observations, the calls and the result of a run at one of its points. -/
structure Language (spec : WorkerSpec) (w : World) : Prop
    extends Spoken (logOf spec w.trace) where
  chunks : ∀ s, (publishedOn spec w s).map (·.sequence) = counted (publishedOn spec w s).length
  published : ∀ before o r later, w.trace = before ++ ⟨.publish o, r⟩ :: later →
    (logOf spec before).refused = [] ∧ (o = .cleanupCompleted → Proven (logOf spec before))
  transitions : ∀ before state next r later,
    w.trace = before ++ ⟨.transition state next, r⟩ :: later →
      (logOf spec before).state = state ∧ state.canTransitionTo next = true
  failed : ∀ result, w.supervisor = pure result → ∀ o ∈ (logOf spec w.trace).accepted,
    isSupervisorFailed o = true → result.isFailure = true
  terminal : ∀ result, w.supervisor = pure result → ∀ identity,
    .spawned identity ∈ (logOf spec w.trace).accepted → (logOf spec w.trace).state.isTerminal = true

/-- Whatever the boundary, the sink, the streams, the clock and the cancel signal have done so far,
and in whatever order, the observations are in the language. -/
theorem trace_language (turns : Nat) (spec : WorkerSpec) (schedule : List Turn) :
    Language spec ((World.begin turns spec).run turns spec schedule) := by
  have coherent : Coherent turns spec _ := coherent_run schedule
  have run := coherent.supervisor
  refine ⟨spoken_run run, coherent.sequences, ?_, ?_, ?_, ?_⟩
  · intro before o r later split
    have fits : Fits _ o := run_lawful run split
    exact ⟨fits.alive, fits.cleanup⟩
  · intro before state next r later split
    exact run_lawful run split
  · intro result returned
    rw [returned] at run
    exact (run_final run).failed
  · intro result returned
    rw [returned] at run
    exact (run_final run).state

namespace LanguageSample

open PrecedenceSample SuccessSample

def beating : WorkerSpec := { sandboxed with heartbeat := ⟨true, 1⟩ }

/-- `n` steps of a supervisor whose heartbeat always wins. -/
def beats (n : Nat) : List Turn := supervised n false (.heartbeat 0)

/-- A run that is in its run loop, with `n` turns left. -/
def Looping (n : Nat) (w : World) : Prop :=
  ∃ (f : Phase × Publisher → Supervised WorkerResult) (pubr : Publisher) (sequence : UInt64)
    (outputOpen : Bool), pubr.alive = true ∧
      w.supervisor = selectLoop beating leader n pubr sequence outputOpen >>= f

theorem beat_step {n : Nat} (looping : Looping (n + 1) w) :
    let w' := w.run turns beating (beats 2)
    Looping n w' ∧ ∃ sequence, (logOf beating w'.trace).accepted =
      (logOf beating w.trace).accepted ++ [.heartbeat "w" sequence 0 leader] := by
  rcases looping with ⟨f, ⟨timeout, _, lastError⟩, sequence, outputOpen, rfl, same⟩
  rcases w with ⟨supervisor, trace, readers, queue, aborted⟩
  change supervisor = _ at same
  subst same
  refine ⟨⟨f, ⟨timeout, true, lastError⟩, sequence + 1, outputOpen, rfl, rfl⟩, sequence, ?_⟩
  change (logOf beating ((trace ++ [⟨.select outputOpen true, .heartbeat 0⟩]) ++
    [⟨.publish (.heartbeat "w" sequence 0 leader), .done ()⟩])).accepted = _
  rw [logOf_snoc, logOf_snoc]
  rfl

theorem beats_add (n : Nat) : beats (2 * (n + 1)) = beats 2 ++ beats (2 * n) := by
  rw [beats, beats, beats, supervised, supervised, supervised, List.replicate_append_replicate,
    Nat.mul_succ, Nat.add_comm]

/-- After `n` turns of the run loop, `n` heartbeats more were taken. -/
theorem beats_taken {n : Nat} (looping : Looping n w) :
    (heartbeatsOf (logOf beating (w.run turns beating (beats (2 * n))).trace).accepted).length =
      (heartbeatsOf (logOf beating w.trace).accepted).length + n := by
  induction n generalizing w with
  | zero => rfl
  | succ n ih =>
      rcases @beat_step turns w n looping with ⟨looping', sequence, taken⟩
      have later : w.run turns beating (beats (2 * (n + 1))) =
          (w.run turns beating (beats 2)).run turns beating (beats (2 * n)) := by
        rw [beats_add, World.run, List.foldl_append]
        rfl
      rw [later, ih looping', taken, heartbeatsOf_append, List.length_append]
      simp only [heartbeatsOf, List.filterMap_cons, List.filterMap_nil, List.length_singleton]
      omega

def ended (n : Nat) : Phase × Publisher → Supervised WorkerResult | (phase, pubr) => do
  let (termination, pubr, state) ← terminate n beating .running phase pubr
  let (faults, pubr) ← tearDown n termination pubr
  let cleanup := composeCleanup termination faults
  let (drain, pubr) ← drainOutput n beating cleanup pubr
  ask .shutdownReaders
  let _ ← tryAdvance state .exited
  conclude termination cleanup drain pubr

theorem looping_of_managed {n : Nat}
    (managed : w.supervisor = manage n beating ⟨1000000000, true, none⟩ leader .running) :
    Looping n (w.run turns beating (beats 2)) := by
  rcases w with ⟨supervisor, trace, readers, queue, aborted⟩
  change supervisor = _ at managed
  subst managed
  exact ⟨ended n, ⟨1000000000, true, none⟩, 0, true, rfl, rfl⟩

/-- A run in which the sink takes `n` heartbeats. -/
def beaten (n : Nat) : World :=
  (World.begin n beating).run n beating (beats 12 ++ beats (2 * n))

theorem beaten_heartbeats (n : Nat) : ∃ before,
    heartbeatsOf (logOf beating (beaten n).trace).accepted = counted (before + n) := by
  have run : After (runInner n beating) (beaten n).trace (beaten n).supervisor :=
    (coherent_run _).supervisor
  have looping : Looping n ((World.begin n beating).run n beating (beats 12)) :=
    looping_of_managed (w := (World.begin n beating).run n beating (beats 10)) rfl
  have parts : beaten n =
      ((World.begin n beating).run n beating (beats 12)).run n beating (beats (2 * n)) :=
    List.foldl_append
  rw [(spoken_run run).heartbeats, parts, beats_taken looping]
  exact ⟨_, rfl⟩

theorem counted_again (n : Nat) : ¬ (counted (n + (2 ^ 64 + 1))).Nodup := by
  intro nodup
  have same : (0 : Nat) = 2 ^ 64 :=
    List.inj_on_of_nodup_map nodup (List.mem_range.mpr (by omega)) (List.mem_range.mpr (by omega))
      (by decide)
  omega

end LanguageSample

open LanguageSample

/-- A run can publish so many heartbeats that a number comes again. -/
theorem heartbeat_again :
    ¬ (heartbeatsOf (logOf beating (beaten (2 ^ 64 + 1)).trace).accepted).Nodup := by
  rcases beaten_heartbeats (2 ^ 64 + 1) with ⟨before, same⟩
  rw [same]
  exact counted_again before

end O7Formal.Worker
