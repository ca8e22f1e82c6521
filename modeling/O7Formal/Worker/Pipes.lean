import O7Formal.Worker.Precedence

/-! The supervisor beside its readers: the calls of the three in any order, and the bounded channel
between them. -/

namespace O7Formal.Worker

open Program

structure Pipe where
  reader : Reader
  trace : ReaderTrace

/-- The supervisor, the readers that were started, and the messages on their way. -/
structure World where
  supervisor : Supervised WorkerResult
  trace : Trace Call Call.Answer
  readers : OutputStream → Option Pipe
  queue : List ReaderMessage
  aborted : Bool

/-- One of the three takes its next step. What answers its call is open; `none` is no answer. -/
inductive Turn where
  | supervisor (answer : (c : Call) → Option c.Answer)
  | reader (s : OutputStream) (answer : (c : ReaderCall) → Option c.Answer)

def isReturned : Reader → Bool
  | .done _ => true
  | .call _ _ => false

def World.begin (turns : Nat) (spec : WorkerSpec) : World :=
  ⟨runInner turns spec, [], fun _ => none, [], false⟩

namespace World

variable (w : World)

def quiet : Bool :=
  (w.readers .stdout).all (isReturned ·.reader) && (w.readers .stderr).all (isReturned ·.reader)

/-- `recv`: the first message, or the end of the channel once every sender is gone. -/
def receive : Option (Option ReaderMessage × World) :=
  match w.queue with
  | m :: rest => some (some m, { w with queue := rest })
  | [] => if w.quiet then some (none, w) else none

def startReader (turns : Nat) (s : OutputStream) (maxChunk : Nat) : World :=
  { w with readers := Function.update w.readers s (some ⟨readStream s maxChunk turns 0, []⟩) }

/-- What a call of the supervisor is answered, and the world after it. A stream is given once. -/
def answer (turns : Nat) : (c : Call) → c.Answer → Option (c.Answer × World)
  | .takeStream s maxChunk, true =>
      if (w.readers s).isSome then none else some (true, w.startReader turns s maxChunk)
  | .select outputOpen _, .output _ =>
      if outputOpen then w.receive.map fun received => (.output received.1, received.2) else none
  | .select _ enabled, .heartbeat uptime =>
      if enabled then some (.heartbeat uptime, w) else none
  | .recvWithin, .message _ => w.receive.map fun received => (.message received.1, received.2)
  | .shutdownReaders, _ => some ((), { w with aborted := true })
  | _, r => some (r, w)

/-- What a call of a reader is answered, and the queue after it. -/
def serve (capacity : Nat) (queue : List ReaderMessage) :
    (c : ReaderCall) → c.Answer → Option (c.Answer × List ReaderMessage)
  | .read limit, .ok bytes => if bytes.length ≤ limit then some (.ok bytes, queue) else none
  | .send message, _ => if queue.length < capacity then some (true, queue ++ [message]) else none
  | _, r => some (r, queue)

def setPipe (s : OutputStream) (pipe : Pipe) (queue : List ReaderMessage) : World :=
  { w with readers := Function.update w.readers s (some pipe), queue := queue }

def supervise (turns : Nat) (answers : (c : Call) → Option c.Answer) : World :=
  match w.supervisor with
  | .done _ => w
  | .call c next =>
      match (answers c).bind (w.answer turns c) with
      | some (r, w') => { w' with supervisor := next r, trace := w.trace ++ [⟨c, r⟩] }
      | none => w

def read (capacity : Nat) (s : OutputStream) (pipe : Pipe)
    (answers : (c : ReaderCall) → Option c.Answer) : World :=
  match pipe.reader with
  | .done _ => w
  | .call c next =>
      match (answers c).bind (serve capacity w.queue c) with
      | some (r, queue) => w.setPipe s ⟨next r, pipe.trace ++ [⟨c, r⟩]⟩ queue
      | none => w

def step (turns : Nat) (spec : WorkerSpec) : Turn → World
  | .supervisor answers => w.supervise turns answers
  | .reader s answers =>
      match w.aborted, w.readers s with
      | false, some pipe => w.read spec.output.channelCapacity s pipe answers
      | _, _ => w

def run (turns : Nat) (spec : WorkerSpec) (schedule : List Turn) : World :=
  schedule.foldl (fun w turn => w.step turns spec turn) w

end World

def chunksOn (stream : OutputStream) (chunks : List OutputChunk) : List OutputChunk :=
  chunks.filter fun c => decide (c.stream = stream)

def sentOn (w : World) (s : OutputStream) : List ReaderMessage :=
  match w.readers s with
  | some pipe => sentOf pipe.trace
  | none => []

/-- What holds between the supervisor, the readers and the channel. -/
structure Coherent (turns : Nat) (spec : WorkerSpec) (w : World) : Prop where
  supervisor : After (runInner turns spec) w.trace w.supervisor
  readers : ∀ s pipe, w.readers s = some pipe → (∃ maxChunk,
    After (readStream s maxChunk turns 0) pipe.trace pipe.reader) ∧
      ∀ entry ∈ pipe.trace, Taken entry.1 entry.2
  chunks : ∀ s, chunksOn s (chunksSent ((logOf spec w.trace).received ++ w.queue)) =
    chunksSent (sentOn w s)
  errors : ∀ s err, .readError err ∈ sentOn w s →
    .readError err ∈ (logOf spec w.trace).received ++ w.queue
  closed : (logOf spec w.trace).closed = true → w.queue = [] ∧ w.quiet = true

/-- The message of the channel that an answer carries, or the channel's end. -/
def messageOf : (c : Call) → c.Answer → Option (Option ReaderMessage)
  | .select _ _, .output message => some message
  | .recvWithin, .message message => some message
  | _, _ => none

variable {turns : Nat} {spec : WorkerSpec} {w w' : World} {log : Log}

structure Same (log log' : Log) : Prop where
  accepted : log'.accepted = log.accepted
  received : log'.received = log.received
  closed : log'.closed = log.closed

theorem same_blame (cause : Cause) : Same log (log.blame cause) := by
  rw [Log.blame]
  split <;> exact ⟨rfl, rfl, rfl⟩

theorem same_fail (step : Step) (timedOut : Bool) (text : String) :
    Same log (log.fail step timedOut text) := by
  have same : Same (log.fault step timedOut text) _ := same_blame (.boundary text)
  exact ⟨same.accepted, same.received, same.closed⟩

theorem same_refuse (o : WorkerObservation) (why : String) : Same log (log.refuse o why) := by
  rw [Log.refuse]
  split
  · have same : Same { log with refused := log.refused ++ [why] } _ := same_blame (.sink why)
    exact ⟨same.accepted, same.received, same.closed⟩
  · exact ⟨rfl, rfl, rfl⟩

theorem same_bounded (stage : Stage) (step : Step) (timedOut : Bool) (text : String) :
    Same log (log.bounded stage step timedOut text) := by
  cases stage with
  | cancelling => exact same_fail step timedOut text
  | teardown => exact ⟨rfl, rfl, rfl⟩

theorem same_entered (stage : Stage) : Same log (log.entered stage) := by
  cases stage <;> exact ⟨rfl, rfl, rfl⟩

theorem same_reaped (stage : Stage) (e : BoundaryExit) : Same log ((log.entered stage).exit e) := by
  cases stage <;> exact ⟨rfl, rfl, rfl⟩

theorem same_launched (evidence : BoundaryEvidence) : Same log (log.launched spec evidence) := by
  rw [Log.launched]
  split
  · exact ⟨rfl, rfl, rfl⟩
  · split
    · exact ⟨rfl, rfl, rfl⟩
    · rename_i attestation _ _
      have same : Same { log with launch := some evidence } _ :=
        same_blame (.evidence (evidenceMessage spec attestation evidence))
      exact ⟨same.accepted, same.received, same.closed⟩

theorem receive_accepted (message : Option ReaderMessage) :
    (log.receive message).accepted = log.accepted := by
  match message with
  | none => rfl
  | some (.chunk c) => rfl
  | some (.readError m) => exact (same_blame _).accepted

theorem receive_received (message : Option ReaderMessage) :
    (log.receive message).received = log.received ++ message.toList ∧
      ((log.receive message).closed = true ↔ log.closed = true ∨ message = none) := by
  match message with
  | none => exact ⟨(List.append_nil _).symm, by simp [Log.receive]⟩
  | some (.chunk c) => exact ⟨rfl, by simp [Log.receive]⟩
  | some (.readError m) =>
      rw [Log.receive, (same_blame _).received, (same_blame _).closed]
      exact ⟨rfl, by simp⟩

def acceptedBy : (c : Call) → c.Answer → Option WorkerObservation
  | .publish o, .done _ => some o
  | _, _ => none

theorem note_same {c : Call} {r : c.Answer} (silent : messageOf c r = none)
    (idle : acceptedBy c r = none) : Same log (log.note spec c r) := by
  match c, r, silent, idle with
  | .attestation, _, _, _ => exact ⟨rfl, rfl, rfl⟩
  | .publish _, .failed _, _, _ => exact same_refuse _ _
  | .publish _, .timedOut, _, _ => exact same_refuse _ _
  | .transition _ _, _, _, _ => exact ⟨rfl, rfl, rfl⟩
  | .cancelRequested, _, _, _ => exact ⟨rfl, rfl, rfl⟩
  | .spawn _, .none, _, _ => exact ⟨rfl, rfl, rfl⟩
  | .spawn _, .some (.error _), _, _ => exact ⟨rfl, rfl, rfl⟩
  | .spawn _, .some (.ok evidence), _, _ => exact same_launched evidence
  | .identity, _, _, _ => exact ⟨rfl, rfl, rfl⟩
  | .takeStream _ _, _, _, _ => exact ⟨rfl, rfl, rfl⟩
  | .select _ _, .exit (.ok _), _, _ => exact ⟨rfl, rfl, rfl⟩
  | .select _ _, .exit (.error _), _, _ => exact same_fail _ _ _
  | .select _ _, .heartbeat _, _, _ => exact ⟨rfl, rfl, rfl⟩
  | .select _ _, .cancelled, _, _ => exact ⟨rfl, rfl, rfl⟩
  | .gracefulStop, .done _, _, _ => exact ⟨rfl, rfl, rfl⟩
  | .gracefulStop, .failed _, _, _ => exact same_fail _ _ _
  | .gracefulStop, .timedOut, _, _ => exact ⟨rfl, rfl, rfl⟩
  | .gracefulWait _, .done _, _, _ => exact ⟨rfl, rfl, rfl⟩
  | .gracefulWait _, .failed _, _, _ => exact same_fail _ _ _
  | .gracefulWait _, .timedOut, _, _ => exact ⟨rfl, rfl, rfl⟩
  | .forceStop stage, .done _, _, _ => exact same_entered stage
  | .forceStop stage, .failed _, _, _ => exact same_bounded stage _ _ _
  | .forceStop stage, .timedOut, _, _ => exact same_bounded stage _ _ _
  | .reap stage, .done e, _, _ => exact same_reaped stage e
  | .reap stage, .failed _, _, _ => exact same_bounded stage _ _ _
  | .reap stage, .timedOut, _, _ => exact same_bounded stage _ _ _
  | .members .cancelling, .done _, _, _ => exact ⟨rfl, rfl, rfl⟩
  | .members .cancelling, .failed _, _, _ => exact same_fail _ _ _
  | .members .cancelling, .timedOut, _, _ => exact same_fail _ _ _
  | .members .teardown, .done _, _, _ => exact ⟨rfl, rfl, rfl⟩
  | .members .teardown, .failed _, _, _ => exact ⟨rfl, rfl, rfl⟩
  | .members .teardown, .timedOut, _, _ => exact ⟨rfl, rfl, rfl⟩
  | .deadlinePassed .cancelling, _, _, _ => exact ⟨rfl, rfl, rfl⟩
  | .deadlinePassed .teardown, true, _, _ => exact ⟨rfl, rfl, rfl⟩
  | .deadlinePassed .teardown, false, _, _ => exact ⟨rfl, rfl, rfl⟩
  | .drainTimeLeft, true, _, _ => exact ⟨rfl, rfl, rfl⟩
  | .drainTimeLeft, false, _, _ => exact ⟨rfl, rfl, rfl⟩
  | .recvWithin, .expired true, _, _ => exact ⟨rfl, rfl, rfl⟩
  | .recvWithin, .expired false, _, _ => exact ⟨rfl, rfl, rfl⟩
  | .shutdownReaders, _, _, _ => exact ⟨rfl, rfl, rfl⟩

theorem note_accepted {c : Call} {r : c.Answer} {o : WorkerObservation}
    (accepted : acceptedBy c r = some o) : c = .publish o ∧ log.note spec c r = log.accept o := by
  match c, r, accepted with
  | .publish _, .done _, accepted => cases accepted; exact ⟨rfl, rfl⟩

theorem note_received {c : Call} {r : c.Answer} (silent : messageOf c r = none) :
    (log.note spec c r).received = log.received ∧ (log.note spec c r).closed = log.closed := by
  cases accepted : acceptedBy c r with
  | none =>
      have same : Same log (log.note spec c r) := note_same silent accepted
      exact ⟨same.received, same.closed⟩
  | some o =>
      rw [(note_accepted accepted).2]
      exact ⟨rfl, rfl⟩

theorem note_message {c : Call} {r : c.Answer} {message : Option ReaderMessage}
    (carried : messageOf c r = some message) :
    (log.note spec c r).accepted = log.accepted ∧
      (log.note spec c r).received = log.received ++ message.toList ∧
      ((log.note spec c r).closed = true ↔ log.closed = true ∨ message = none) := by
  have received := And.intro (@receive_accepted log message) (@receive_received log message)
  match c, r, carried with
  | .select _ _, .output _, carried => cases carried; exact received
  | .recvWithin, .message _, carried => cases carried; exact received

theorem logOf_snoc (trace : Trace Call Call.Answer) (c : Call) (r : c.Answer) :
    logOf spec (trace ++ [⟨c, r⟩]) = (logOf spec trace).note spec c r := by
  rw [logOf, List.foldl_append]
  rfl

/-- What an answered call of the supervisor does to the readers and the channel. -/
inductive Served (turns : Nat) (w : World) (c : Call) (r : c.Answer) (w' : World) : Prop where
  | plain (silent : messageOf c r = none) (readers : w'.readers = w.readers)
      (queue : w'.queue = w.queue)
  | started (silent : messageOf c r = none) (s : OutputStream) (maxChunk : Nat)
      (first : w.readers s = none) (same : w' = w.startReader turns s maxChunk)
      (call : c = .takeStream s maxChunk)
  | message (m : ReaderMessage) (carried : messageOf c r = some (some m))
      (readers : w'.readers = w.readers) (queue : w.queue = m :: w'.queue)
  | ended (carried : messageOf c r = some none) (same : w' = w) (empty : w.queue = [])
      (quiet : w.quiet = true)

theorem served_receive {c : Call} {r : c.Answer} {received : Option ReaderMessage × World}
    (found : w.receive = some received) (carried : messageOf c r = some received.1) :
    Served turns w c r received.2 := by
  rw [World.receive] at found
  split at found
  · rename_i m rest queue
    cases found
    exact .message m carried rfl queue
  · rename_i empty
    split at found
    · rename_i quiet
      cases found
      exact .ended carried rfl empty quiet
    · cases found

theorem served_of_answer {c : Call} {r₀ r : c.Answer} (answered : w.answer turns c r₀ = some (r, w')) :
    Served turns w c r w' := by
  match c, r₀, r, answered with
  | .attestation, _, _, answered => cases answered; exact .plain rfl rfl rfl
  | .publish _, _, _, answered => cases answered; exact .plain rfl rfl rfl
  | .transition _ _, _, _, answered => cases answered; exact .plain rfl rfl rfl
  | .cancelRequested, _, _, answered => cases answered; exact .plain rfl rfl rfl
  | .spawn _, _, _, answered => cases answered; exact .plain rfl rfl rfl
  | .identity, _, _, answered => cases answered; exact .plain rfl rfl rfl
  | .takeStream s maxChunk, false, _, answered => cases answered; exact .plain rfl rfl rfl
  | .takeStream s maxChunk, true, _, answered =>
      simp only [World.answer] at answered
      split at answered
      · cases answered
      · rename_i first
        cases answered
        exact .started rfl s maxChunk (by simpa using first) rfl rfl
  | .select _ _, .exit _, _, answered => cases answered; exact .plain rfl rfl rfl
  | .select _ _, .cancelled, _, answered => cases answered; exact .plain rfl rfl rfl
  | .select _ _, .heartbeat _, _, answered =>
      simp only [World.answer] at answered
      split at answered
      · cases answered
        exact .plain rfl rfl rfl
      · cases answered
  | .select _ _, .output _, _, answered =>
      simp only [World.answer] at answered
      split at answered
      · rcases Option.map_eq_some_iff.mp answered with ⟨received, found, same⟩
        cases same
        exact served_receive found rfl
      · cases answered
  | .gracefulStop, _, _, answered => cases answered; exact .plain rfl rfl rfl
  | .gracefulWait _, _, _, answered => cases answered; exact .plain rfl rfl rfl
  | .forceStop _, _, _, answered => cases answered; exact .plain rfl rfl rfl
  | .reap _, _, _, answered => cases answered; exact .plain rfl rfl rfl
  | .members _, _, _, answered => cases answered; exact .plain rfl rfl rfl
  | .deadlinePassed _, _, _, answered => cases answered; exact .plain rfl rfl rfl
  | .drainTimeLeft, _, _, answered => cases answered; exact .plain rfl rfl rfl
  | .recvWithin, .expired _, _, answered => cases answered; exact .plain rfl rfl rfl
  | .recvWithin, .message _, _, answered =>
      rcases Option.map_eq_some_iff.mp answered with ⟨received, found, same⟩
      cases same
      exact served_receive found rfl
  | .shutdownReaders, _, _, answered => cases answered; exact .plain rfl rfl rfl

theorem quiet_iff : w.quiet = true ↔
    ∀ s pipe, w.readers s = some pipe → isReturned pipe.reader = true := by
  rw [World.quiet, Bool.and_eq_true, Option.all_eq_true, Option.all_eq_true]
  constructor
  · intro both s pipe found
    cases s with
    | stdout => exact both.1 pipe found
    | stderr => exact both.2 pipe found
  · intro all
    exact ⟨all .stdout, all .stderr⟩

theorem coherent_begin : Coherent turns spec (World.begin turns spec) :=
  ⟨.here, nofun, fun _ => rfl, nofun, nofun⟩

theorem coherent_supervise (coherent : Coherent turns spec w)
    (answers : (c : Call) → Option c.Answer) : Coherent turns spec (w.supervise turns answers) := by
  rw [World.supervise]
  split
  · exact coherent
  · rename_i c next called
    split
    · rename_i r w' answered
      rcases Option.bind_eq_some_iff.mp answered with ⟨r₀, _, found⟩
      have run : After (runInner turns spec) (w.trace ++ [⟨c, r⟩]) (next r) := by
        have before := coherent.supervisor
        rw [called] at before
        exact before.snoc r
      have lawful : Lawful (logOf spec w.trace) c := run_lawful run rfl
      have noted : logOf spec (w.trace ++ [⟨c, r⟩]) = _ := logOf_snoc w.trace c r
      cases served_of_answer found with
      | plain silent readers queue =>
          have kept := @note_received spec (logOf spec w.trace) c r silent
          refine ⟨run, ?_, ?_, ?_, ?_⟩
          · intro s pipe held
            exact coherent.readers s pipe (readers ▸ held)
          · intro s
            have before := coherent.chunks s
            rw [sentOn] at before ⊢
            simp only [noted, kept.1, readers, queue]
            exact before
          · intro s err sent
            rw [sentOn] at sent
            simp only [readers] at sent
            simp only [noted, kept.1, queue]
            exact coherent.errors s err sent
          · simp only [noted, kept.2, queue]
            intro closed
            refine ⟨(coherent.closed closed).1, quiet_iff.mpr ?_⟩
            intro s pipe held
            exact quiet_iff.mp (coherent.closed closed).2 s pipe (readers ▸ held)
      | started silent s maxChunk first same call =>
          subst same call
          have kept := @note_received spec (logOf spec w.trace) _ _ silent
          have sent : ∀ s', sentOn (w.startReader turns s maxChunk) s' = sentOn w s' := by
            intro s'
            rw [sentOn, sentOn, World.startReader]
            by_cases here : s' = s
            · subst here
              simp only [Function.update_self, first]
              rfl
            · simp only [Function.update_of_ne here]
          refine ⟨run, ?_, ?_, ?_, ?_⟩
          · intro s' pipe held
            by_cases here : s' = s
            · subst here
              simp only [World.startReader, Function.update_self] at held
              cases held
              exact ⟨⟨maxChunk, .here⟩, nofun⟩
            · simp only [World.startReader, Function.update_of_ne here] at held
              exact coherent.readers s' pipe held
          · intro s'
            simp only [noted, kept.1]
            exact (coherent.chunks s').trans (congrArg chunksSent (sent s').symm)
          · intro s' err member
            simp only [noted, kept.1]
            exact coherent.errors s' err (sent s' ▸ member)
          · simp only [noted, kept.2]
            intro closed
            rw [show (logOf spec w.trace).closed = false from lawful] at closed
            cases closed
      | message m carried readers queue =>
          have received := (@note_message spec (logOf spec w.trace) c r _ carried).2
          have moved : (logOf spec (w.trace ++ [⟨c, r⟩])).received ++ w'.queue =
              (logOf spec w.trace).received ++ w.queue := by
            rw [noted, received.1, queue, List.append_assoc]
            rfl
          refine ⟨run, ?_, ?_, ?_, ?_⟩
          · intro s pipe held
            exact coherent.readers s pipe (readers ▸ held)
          · intro s
            have before := coherent.chunks s
            rw [sentOn] at before ⊢
            simp only [moved, readers]
            exact before
          · intro s err sent
            rw [sentOn] at sent
            simp only [readers] at sent
            simp only [moved]
            exact coherent.errors s err sent
          · simp only [noted, received.2]
            intro closed
            rcases closed with before | none
            · rw [(coherent.closed before).1] at queue
              cases queue
            · cases none
      | ended carried same empty quiet =>
          subst same
          have received := (@note_message spec (logOf spec w'.trace) c r _ carried).2
          have kept : (logOf spec (w'.trace ++ [⟨c, r⟩])).received =
              (logOf spec w'.trace).received := by
            rw [noted, received.1]
            exact List.append_nil _
          refine ⟨run, coherent.readers, ?_, ?_, ?_⟩
          · intro s
            simp only [kept]
            exact coherent.chunks s
          · intro s err sent
            simp only [kept]
            exact coherent.errors s err sent
          · exact fun _ => ⟨empty, quiet⟩
    · exact coherent

theorem chunk_of_numbered {stream : OutputStream} {reads : List (List UInt8)} {c : OutputChunk}
    (member : c ∈ numbered stream reads) : c.stream = stream := by
  rcases List.mem_mapIdx.mp member with ⟨i, inside, same⟩
  rw [← same]

theorem serve_queue {capacity : Nat} {queue queue' : List ReaderMessage} {c : ReaderCall}
    {r₀ r : c.Answer} (served : World.serve capacity queue c r₀ = some (r, queue')) :
    Taken c r ∧ queue' = queue ++ sentOf [⟨c, r⟩] := by
  match c, r₀, r, served with
  | .read _, .ok [], _, served =>
      simp only [World.serve] at served
      split at served
      · cases served
        exact ⟨trivial, (List.append_nil _).symm⟩
      · cases served
  | .read _, .ok (_ :: _), _, served =>
      simp only [World.serve] at served
      split at served
      · cases served
        exact ⟨trivial, (List.append_nil _).symm⟩
      · cases served
  | .read _, .error _, _, served =>
      cases served
      exact ⟨trivial, (List.append_nil _).symm⟩
  | .send m, _, _, served =>
      simp only [World.serve] at served
      split at served
      · cases served
        exact ⟨rfl, rfl⟩
      · cases served

theorem coherent_read (coherent : Coherent turns spec w) {capacity : Nat} {s : OutputStream}
    {pipe : Pipe} (held : w.readers s = some pipe) (answers : (c : ReaderCall) → Option c.Answer) :
    Coherent turns spec (w.read capacity s pipe answers) := by
  rw [World.read]
  split
  · exact coherent
  · rename_i c next called
    split
    · rename_i r queue answered
      rcases Option.bind_eq_some_iff.mp answered with ⟨r₀, _, served⟩
      rcases serve_queue served with ⟨taken, rfl⟩
      rcases coherent.readers s pipe held with ⟨⟨maxChunk, run⟩, past⟩
      rw [called] at run
      have run' := run.snoc r
      have past' : ∀ entry ∈ pipe.trace ++ [⟨c, r⟩], Taken entry.1 entry.2 := by
        intro entry member
        rcases List.mem_append.mp member with before | last
        · exact past entry before
        · rw [List.mem_singleton.mp last]
          exact taken
      have own : ∀ chunk ∈ chunksSent (sentOf [⟨c, r⟩]), chunk.stream = s := by
        intro chunk member
        apply chunk_of_numbered
        apply (sent_begins run' past').subset
        rw [sentOf_append, chunksSent_append]
        exact List.mem_append_right _ member
      have sent : ∀ s', sentOn (w.setPipe s ⟨next r, pipe.trace ++ [⟨c, r⟩]⟩
          (w.queue ++ sentOf [⟨c, r⟩])) s' =
          if s' = s then sentOn w s ++ sentOf [⟨c, r⟩] else sentOn w s' := by
        intro s'
        by_cases here : s' = s
        · subst here
          rw [if_pos rfl, sentOn, sentOn, held, World.setPipe]
          simp only [Function.update_self, sentOf_append]
        · rw [if_neg here, sentOn, sentOn, World.setPipe]
          simp only [Function.update_of_ne here]
      refine ⟨coherent.supervisor, ?_, ?_, ?_, ?_⟩
      · intro s' pipe' found
        by_cases here : s' = s
        · subst here
          simp only [World.setPipe, Function.update_self] at found
          cases found
          exact ⟨⟨maxChunk, run'⟩, past'⟩
        · simp only [World.setPipe, Function.update_of_ne here] at found
          exact coherent.readers s' pipe' found
      · intro s'
        rw [sent]
        change chunksOn s' (chunksSent ((logOf spec w.trace).received ++ (w.queue ++ _))) = _
        have before := coherent.chunks s'
        rw [← List.append_assoc, chunksSent_append _ (sentOf _), chunksOn, List.filter_append]
        rw [chunksOn] at before
        rw [before]
        split
        · rename_i here
          subst here
          have all : (chunksSent (sentOf [⟨c, r⟩])).filter (fun c => decide (c.stream = s')) =
              chunksSent (sentOf [⟨c, r⟩]) :=
            List.filter_eq_self.mpr fun chunk member => decide_eq_true (own chunk member)
          rw [all, chunksSent_append]
        · rename_i other
          have none : (chunksSent (sentOf [⟨c, r⟩])).filter (fun c => decide (c.stream = s')) =
              [] := by
            apply List.filter_eq_nil_iff.mpr
            intro chunk member
            rw [own chunk member]
            simpa using Ne.symm other
          rw [none, List.append_nil]
      · intro s' err member
        change _ ∈ (logOf spec w.trace).received ++ (w.queue ++ _)
        rw [← List.append_assoc]
        rw [sent] at member
        split at member
        · rcases List.mem_append.mp member with before | last
          · exact List.mem_append_left _ (coherent.errors s err before)
          · exact List.mem_append_right _ last
        · exact List.mem_append_left _ (coherent.errors s' err member)
      · intro closed
        have returned := quiet_iff.mp (coherent.closed closed).2 s pipe held
        rw [called] at returned
        cases returned
    · exact coherent

theorem coherent_step (coherent : Coherent turns spec w) (turn : Turn) :
    Coherent turns spec (w.step turns spec turn) := by
  cases turn with
  | supervisor answers => exact coherent_supervise coherent answers
  | reader s answers =>
      rw [World.step]
      split
      · rename_i held
        exact coherent_read coherent held answers
      · exact coherent

theorem coherent_run (schedule : List Turn) :
    Coherent turns spec ((World.begin turns spec).run turns spec schedule) :=
  List.foldlRecOn schedule _ coherent_begin fun _ held turn _ => coherent_step held turn

end O7Formal.Worker
