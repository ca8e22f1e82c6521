import O7Formal.Dispatch.Footprint
import O7Formal.Dispatch.Continue

/-! The durable writes of a run as a protocol: the next item of a script, or nothing more. What writes
nothing leaves the pen alone, and what it may fail with comes from outside. -/

namespace O7Formal.Dispatch

open Fallible Program
open O7Formal.Ledger (ConversationId LedgerError Stamp)
open O7Formal.Run (EventChain RunEvent RunEventKind Sha256)

inductive Item where
  | file (file : RecordFile)
  | event (kind : RunEventKind)

/-- What is still to be written, and the chain that the next event is minted from. -/
structure Pen where
  rest : List Item
  chain : EventChain
  stopped : Bool

def extendChain (chain : EventChain) (event : RunEvent) : EventChain :=
  { chain with
    prev := event.eventDigest
    seq := chain.seq + 1
    out := chain.out ++ [event] }

def Minted (sha256 : Sha256) (chain : EventChain) (event : RunEvent) : Prop :=
  ∃ now, chain.push sha256 now event.kind = .ok (extendChain chain event)

/-- A failure that no content of the stream is the reason of: the disk, the ledger, the clock, the
number of events, a run without an id. -/
inductive Outer : Fault → Prop where
  | io (why : String) : Outer (.io why)
  | ledger (error : LedgerError) : Outer (.ledger error)
  | clock : Outer (.chain .clock)
  | sequenceOverflow : Outer (.chain .sequenceOverflow)
  | unnamed : Outer (.id ⟨Run.IdKind.run.text⟩)
  | reply : Outer (.refused "unexpected reply")
  | unresolved (conversationId : ConversationId) :
      Outer (.refused ("--conversation-id " ++ conversationId ++
        " does not resolve to an existing ledger conversation — refusing to guess or create one " ++
        "under a caller-supplied id"))

abbrev Within {α : Type} (r : Except Fault α) : Prop := FailsWithin Outer r

def plainAnswer : (c : Call) → c.Answer → Prop
  | .ledger _, r => Within r
  | .command _, r => Within r
  | .run _, r => Within r
  | .conversation _, r => Within r
  | .runningAttempt _, r | .latestAttempt _, r => Within r
  | .write _ _, r | .append _ _, r | .invoke _ _, r | .spawn _, r | .attempt _, r => Within r
  | _, _ => True

section Writing

variable (sha256 : Sha256) (runId : RunId)

def Pen.permits (m : Pen) : Call → Prop
  | .write id file => m.stopped = false ∧ id = runId ∧ ∃ rest, m.rest = .file file :: rest
  | .append id event => m.stopped = false ∧ id = runId ∧
      (∃ rest, m.rest = .event event.kind :: rest) ∧ Minted sha256 m.chain event
  | _ => True

def Pen.learns (m : Pen) : (c : Call) → c.Answer → Pen
  | .write _ _, answer =>
      { m with rest := m.rest.tail, stopped := m.stopped || !answer.isOk }
  | .append _ event, answer =>
      { rest := m.rest.tail
        chain := extendChain m.chain event
        stopped := m.stopped || !answer.isOk }
  | _, _ => m

def writing (given : (c : Call) → c.Answer → Prop) : Protocol Call Call.Answer Pen :=
  ⟨Pen.permits sha256 runId, given, Pen.learns⟩

end Writing

section Quiet

variable {sha256 : Sha256} {runId : RunId} {α β : Type}

abbrev Quiet (sha256 : Sha256) (runId : RunId) (x : Code α) : Prop :=
  ∀ given m, Keeps (writing sha256 runId given) (fun m' => m' = m) x

/-- Code that writes nothing and fails only where it is answered with a failure. -/
def Tame (sha256 : Sha256) (runId : RunId) (x : Fallible Fault α) : Prop :=
  ∀ given m, x.run.Obeys (writing sha256 runId given) m fun r m' =>
    m' = m ∧ ((∀ c r, given c r → plainAnswer c r) → Within r)

theorem quiet_clock : Quiet sha256 runId clockCall := by
  intro given m
  apply keeps_perform
  · exact fun _ _ => trivial
  · exact fun _ _ same => same

theorem quiet_projects {x : Code α} (only : Only Projects x) : Quiet sha256 runId x := by
  intro given m
  apply keeps_of_only only
  · intro m' c _ listed
    cases c <;> first | exact trivial | cases listed
  · intro m' c r same listed
    cases c <;> first | exact same | cases listed

theorem tame_pure (a : α) : Tame sha256 runId (pure a) :=
  fun _ _ => ⟨rfl, fun _ => failsWithin_ok a⟩

theorem tame_bind {x : Fallible Fault α} {f : α → Fallible Fault β} (first : Tame sha256 runId x)
    (later : ∀ a, Tame sha256 runId (f a)) : Tame sha256 runId (x >>= f) := by
  intro given m
  apply obeys_try
  apply obeys_mono (first given m)
  intro r m' reached
  constructor
  · intro a _
    rw [reached.1]
    exact later a given m
  · intro e here
    refine ⟨reached.1, ?_⟩
    intro answered e' same
    cases same
    exact reached.2 answered e here

theorem tame_lift {x : Code α} (quiet : Quiet sha256 runId x) : Tame sha256 runId (liftM x) := by
  intro given m
  apply obeys_lift
  apply obeys_mono (quiet given m m rfl)
  intro a m' same
  exact ⟨same, fun _ => failsWithin_ok a⟩

theorem tame_some {x : Option α} {why : String} (outer : Outer (.refused why)) :
    Tame sha256 runId (okOrThrow x why) := by
  cases x with
  | some a => exact tame_pure a
  | none =>
      intro given m
      refine ⟨rfl, ?_⟩
      intro _ e same
      cases same
      exact outer

theorem tame_attempt (what : String) : Tame sha256 runId (attempt what) :=
  fun _ _ => ⟨trivial, fun r answered => ⟨rfl, fun plain => plain _ r answered⟩⟩

theorem tame_invoke (commandId : Ledger.CommandId) (id : RunId) :
    Tame sha256 runId (invokeProvider commandId id) :=
  fun _ _ => ⟨trivial, fun r answered => ⟨rfl, fun plain => plain _ r answered⟩⟩

theorem tame_ledgerOp (op : Ledger.Op) : Tame sha256 runId (ledgerOp op) :=
  fun _ _ => ⟨trivial, fun r answered => ⟨rfl, fun plain => plain _ r answered⟩⟩

theorem tame_conversation (id : ConversationId) : Tame sha256 runId (ledgerConversation id) :=
  fun _ _ => ⟨trivial, fun r answered => ⟨rfl, fun plain => plain _ r answered⟩⟩

theorem tame_runningAttempt (id : RunId) : Tame sha256 runId (runningAttempt id) :=
  fun _ _ => ⟨trivial, fun r answered => ⟨rfl, fun plain => plain _ r answered⟩⟩

theorem tame_latestAttempt (id : RunId) : Tame sha256 runId (latestAttempt id) :=
  fun _ _ => ⟨trivial, fun r answered => ⟨rfl, fun plain => plain _ r answered⟩⟩

theorem tame_ledgerCall (read : Ledger.Reply → Option α) (op : Stamp → Ledger.Op) :
    Tame sha256 runId (ledgerCall read op) := by
  apply tame_bind (tame_lift (quiet_projects only_stamp))
  intro stamp
  apply tame_bind (tame_ledgerOp _)
  intro reply
  exact tame_some .reply

theorem tame_openProjection (conversationId : ConversationId) :
    Tame sha256 runId (openProjection conversationId) := by
  apply tame_bind (tame_conversation _)
  intro found
  apply tame_bind (tame_some (.unresolved conversationId))
  intro _
  exact tame_pure _

theorem tame_startQueued (run : Ledger.Run) : Tame sha256 runId (startQueued run) := by
  unfold startQueued
  split
  · apply tame_bind (tame_ledgerCall _ _)
    intro _
    exact tame_pure _
  · exact tame_pure _

theorem tame_attachedAttempt (run : Ledger.Run) : Tame sha256 runId (attachedAttempt run) := by
  unfold attachedAttempt
  split
  · apply tame_bind (tame_runningAttempt _)
    intro found
    cases found with
    | some attempt => exact tame_pure _
    | none =>
        apply tame_bind (tame_ledgerCall _ _)
        intro made
        exact tame_pure _
  · apply tame_bind (tame_latestAttempt _)
    intro last
    exact tame_pure _

theorem tame_attachRun (conversationId : ConversationId) (id : CanonicalRunId)
    (agent role : String) (parentRunId : Option CanonicalRunId) :
    Tame sha256 runId (attachRun conversationId id agent role parentRunId) := by
  apply tame_bind (tame_ledgerCall _ _)
  intro run
  apply tame_bind (tame_startQueued run)
  intro _
  apply tame_bind (tame_attachedAttempt run)
  intro attemptId
  exact tame_pure _

theorem tame_persist (a : ContinueArgs) (o : Outside) :
    Tame sha256 runId (persistProviderSession a o) := by
  unfold persistProviderSession
  split
  · exact tame_pure _
  · apply tame_bind
    · exact tame_lift (quiet_projects (only_ledgerCall fun _ => rfl))
    · intro _
      exact tame_pure _

end Quiet

section Smooth

variable {env : Setting} {a : ContinueArgs} {chain : EventChain} {α β : Type}

/-- A reply of the kind that a run waits for. -/
def Fitting : Ledger.Op → Ledger.Reply → Prop
  | .createRunWithId _ _ _ _, reply | .startRun _ _, reply => ∃ row, reply = .run row
  | .createAttempt _ _ _, reply => ∃ row, reply = .attempt row
  | _, _ => True

theorem replying_kind {f : α → Ledger.Reply} {x : Except LedgerError (α × Ledger.Tables)}
    {reply : Ledger.Reply} {s : Ledger.Tables} (done : Ledger.replying f x = .ok (reply, s)) :
    ∃ row, reply = f row := by
  rcases x with _ | ⟨row, s'⟩
  · cases done
  · cases done
    exact ⟨row, rfl⟩

theorem exec_fitting {s s' : Ledger.Tables} {op : Ledger.Op} {reply : Ledger.Reply}
    (done : Ledger.exec env.sha256 env.serde s op = .ok (reply, s')) : Fitting op reply := by
  cases op with
  | createRunWithId => exact replying_kind done
  | startRun => exact replying_kind done
  | createAttempt => exact replying_kind done
  | _ => trivial

def Succeeds (fits : α → Prop) (r : Except Fault α) : Prop := ∃ b, fits b ∧ r = .ok b

/-- An answer that is no failure: the clock stands where a time can be read off it, the disk takes
what is written, the ledger has the conversation and replies as it does. -/
def smooth : (c : Call) → c.Answer → Prop
  | .clock, now => (now : Option Int64) ≠ none
  | .ledger op, reply => Succeeds (Fitting op) reply
  | .command _, found => Succeeds (fun _ => True) found
  | .run _, found => Succeeds (fun _ => True) found
  | .conversation _, found => Succeeds (fun row => row ≠ none) found
  | .runningAttempt _, found | .latestAttempt _, found => Succeeds (fun _ => True) found
  | .write _ _, went | .append _ _, went | .invoke _ _, went | .spawn _, went
  | .attempt _, went => Succeeds (fun _ => True) went
  | _, _ => True

theorem Succeeds.within {fits : α → Prop} {r : Except Fault α} (succeeds : Succeeds fits r) :
    Within r := by
  rcases succeeds with ⟨b, _, rfl⟩
  exact failsWithin_ok b

theorem plainAnswer_of_smooth {c : Call} {r : c.Answer} (fine : smooth c r) : plainAnswer c r := by
  cases c with
  | ledger | command | run | conversation | runningAttempt | latestAttempt => exact fine.within
  | write | append | invoke | spawn | attempt => exact fine.within
  | _ => trivial

def calm : Protocol Call Call.Answer Unit := ⟨fun _ _ => True, smooth, fun _ _ _ => ()⟩

inductive Unreduced : Fault → Prop where
  | rejected : Unreduced (.refused "canonical reduction failed")
  | unsealed : Unreduced (.refused "canonical stream is not sealed — no verdict")

theorem Unreduced.not_outer {e : Fault} (unreduced : Unreduced e) : ¬ Outer e := by
  have other : ∀ why, Outer (.refused why) → why.toList.take 1 ≠ ['c'] := by
    intro why outer
    generalize same : Fault.refused why = fault at outer
    cases outer with
    | reply =>
        cases same
        decide
    | unresolved conversationId =>
        cases same
        simp
    | _ => cases same
  intro outer
  cases unreduced with
  | rejected => exact other _ outer (by decide)
  | unsealed => exact other _ outer (by decide)

/-- Where no answer is a failure the code returns a result that fits, or finds no verdict in what it
has minted. -/
def Sails (x : Fallible Fault α) (post : α → Prop) : Prop :=
  x.run.Obeys calm () fun r _ => (∀ e, r = .error e → Unreduced e) ∧ ∀ b, r = .ok b → post b

variable {x : Fallible Fault α} {f : α → Fallible Fault β} {post : α → Prop} {final : β → Prop}

theorem sails_pure {b : α} (fits : post b) : Sails (pure b) post := by
  constructor
  · intro e same
    cases same
  · intro b' same
    cases same
    exact fits

theorem sails_bind (first : Sails x post) (later : ∀ b, post b → Sails (f b) final) :
    Sails (x >>= f) final := by
  apply obeys_try
  apply obeys_mono first
  intro r _ reached
  constructor
  · intro b here
    exact later b (reached.2 b here)
  · intro e here
    constructor
    · intro e' same
      cases same
      exact reached.1 e here
    · intro b same
      cases same

theorem sails_after (first : Sails x fun _ => True) (later : ∀ b, Sails (f b) final) :
    Sails (x >>= f) final :=
  sails_bind first fun b _ => later b

theorem sails_call {c : Call} {next : c.Answer → Code (Except Fault α)}
    (fits : ∀ r, smooth c r → ∃ b, post b ∧ next r = pure (.ok b)) :
    Sails (ExceptT.mk (.call c next)) post := by
  refine ⟨trivial, ?_⟩
  intro r fine
  rcases fits r fine with ⟨b, fit, returns⟩
  rw [returns]
  exact sails_pure fit

theorem Succeeds.returns {fits : α → Prop} {r : Except Fault α} (succeeds : Succeeds fits r) :
    ∃ b, fits b ∧ (.done r : Code (Except Fault α)) = pure (.ok b) := by
  rcases succeeds with ⟨b, fit, rfl⟩
  exact ⟨b, fit, rfl⟩

theorem sails_made {y : Except Fault α} {b : α} (made : y = .ok b) (later : Sails (f b) final) :
    Sails (ofExcept y >>= f) final := by
  rw [made]
  exact later

theorem sails_some {y : Option α} {b : α} {why : String} (there : y = some b)
    (later : Sails (f b) final) : Sails (okOrThrow y why >>= f) final := by
  rw [there]
  exact later

theorem sails_lift (y : Code α) : Sails (liftM y) fun _ => True := by
  apply obeys_lift
  apply obeys_mono (obeys_free (fun _ _ => trivial) y)
  intro b _ _
  exact sails_pure trivial

theorem sails_clock : Sails (liftM clockCall) fun now => now ≠ none := by
  apply obeys_lift
  refine ⟨trivial, ?_⟩
  intro now ticks
  have stands : (now : Option Int64) ≠ none := ticks
  exact sails_pure stands

theorem sails_attempt (what : String) : Sails (attempt what) fun _ => True :=
  sails_call fun _ fine => fine.returns

theorem sails_write (runId : RunId) (file : RecordFile) :
    Sails (writeRecord runId file) fun _ => True :=
  sails_call fun _ fine => fine.returns

theorem sails_append (runId : RunId) (event : RunEvent) :
    Sails (appendEvent runId event) fun _ => True :=
  sails_call fun _ fine => fine.returns

theorem sails_invoke (commandId : Ledger.CommandId) (runId : RunId) :
    Sails (invokeProvider commandId runId) fun _ => True :=
  sails_call fun _ fine => fine.returns

theorem sails_conversation (id : ConversationId) :
    Sails (ledgerConversation id) fun found => found ≠ none :=
  sails_call fun _ fine => fine.returns

theorem sails_runningAttempt (id : RunId) : Sails (runningAttempt id) fun _ => True :=
  sails_call fun _ fine => fine.returns

theorem sails_latestAttempt (id : RunId) : Sails (latestAttempt id) fun _ => True :=
  sails_call fun _ fine => fine.returns

theorem sails_ledgerOp (op : Ledger.Op) : Sails (ledgerOp op) (Fitting op) :=
  sails_call fun _ fine => fine.returns

theorem sails_ledgerCall {read : Ledger.Reply → Option α} {op : Stamp → Ledger.Op}
    (reads : ∀ stamp reply, Fitting (op stamp) reply → ∃ row, read reply = some row) :
    Sails (ledgerCall read op) fun _ => True := by
  apply sails_after (sails_lift _)
  intro stamp
  apply sails_bind (sails_ledgerOp _)
  intro reply fits
  rcases reads stamp reply fits with ⟨row, here⟩
  rw [here]
  exact sails_pure trivial

theorem reads_run {reply : Ledger.Reply} (fits : ∃ row, reply = .run row) :
    ∃ row, asRun reply = some row := by
  rcases fits with ⟨row, rfl⟩
  exact ⟨row, rfl⟩

theorem reads_attempt {reply : Ledger.Reply} (fits : ∃ row, reply = .attempt row) :
    ∃ row, asAttempt reply = some row := by
  rcases fits with ⟨row, rfl⟩
  exact ⟨row, rfl⟩

theorem sails_openProjection (conversationId : ConversationId) :
    Sails (openProjection conversationId) fun _ => True := by
  apply sails_bind (sails_conversation _)
  intro found there
  rcases Option.ne_none_iff_exists'.mp there with ⟨row, here⟩
  apply sails_some here
  exact sails_pure trivial

theorem sails_startQueued (run : Ledger.Run) : Sails (startQueued run) fun _ => True := by
  unfold startQueued
  split
  · refine sails_after (sails_ledgerCall ?_) ?_
    · exact fun _ _ fits => reads_run fits
    · intro _
      exact sails_pure trivial
  · exact sails_pure trivial

theorem sails_attachedAttempt (run : Ledger.Run) : Sails (attachedAttempt run) fun _ => True := by
  unfold attachedAttempt
  split
  · apply sails_after (sails_runningAttempt _)
    intro found
    cases found with
    | some attempt => exact sails_pure trivial
    | none =>
        refine sails_after (sails_ledgerCall ?_) ?_
        · exact fun _ _ fits => reads_attempt fits
        · intro made
          exact sails_pure trivial
  · apply sails_after (sails_latestAttempt _)
    intro last
    exact sails_pure trivial

theorem sails_attachRun (conversationId : ConversationId) (id : CanonicalRunId)
    (agent role : String) (parentRunId : Option CanonicalRunId) :
    Sails (attachRun conversationId id agent role parentRunId) fun _ => True := by
  refine sails_after (sails_ledgerCall ?_) ?_
  · exact fun _ _ fits => reads_run fits
  · intro run
    apply sails_after (sails_startQueued run)
    intro _
    apply sails_after (sails_attachedAttempt run)
    intro attemptId
    exact sails_pure trivial

theorem sails_persist (o : Outside) : Sails (persistProviderSession a o) fun _ => True := by
  unfold persistProviderSession
  split
  · exact sails_pure trivial
  · apply sails_after (sails_lift _)
    intro _
    exact sails_pure trivial

def Room (k : Nat) (chain : EventChain) : Prop := chain.seq.toNat + k < 2 ^ 64

theorem push_room {time : Int64} {kind : RunEventKind} {k : Nat} (room : Room (k + 1) chain) :
    ∃ chain', chain.push env.sha256 (some time) kind = .ok chain' ∧ Room k chain' ∧
      ∃ event, chain'.out.getLast? = some event := by
  have nonempty : EventChain.idText chain.runId chain.seq.toNat ≠ "" := by
    simp [EventChain.idText]
  have minted : (Run.Id.new .runEvent (EventChain.idText chain.runId chain.seq.toNat)).mapError
      Run.PushError.eventId = .ok ⟨_, nonempty⟩ := by
    simp [Run.Id.new, nonempty, Except.mapError]
  have next : (chain.seq + 1).toNat = (chain.seq.toNat + 1) % 2 ^ 64 := UInt64.toNat_add _ _
  unfold Room at room
  have full : ¬ chain.seq.toNat + 1 = 2 ^ 64 := by omega
  refine ⟨extendChain chain (chain.mint env.sha256 ⟨_, nonempty⟩ time kind), ?_, ?_, _,
    List.getLast?_concat⟩
  · rw [EventChain.push, minted, ok_bind]
    simp only [refuseIf, if_neg full]
    rfl
  · simp only [Room, extendChain, next]
    omega

theorem sails_appendOnly {k : Nat} (kind : RunEventKind) (room : Room (k + 1) chain) :
    Sails (appendOnly env a chain kind) fun r => Room k r.1 := by
  apply sails_bind sails_clock
  intro now ticks
  rcases Option.ne_none_iff_exists'.mp ticks with ⟨time, rfl⟩
  rcases push_room room with ⟨chain', pushed, left, event, last⟩
  apply sails_made (Fallible.mapError_ok_iff.mpr pushed)
  apply sails_some last
  apply sails_after (sails_append _ _)
  intro _
  exact sails_pure left

theorem sails_appendProjected {k : Nat} {projector : LiveLedgerProjector} (kind : RunEventKind)
    (room : Room (k + 1) chain) :
    Sails (appendProjected env a projector chain kind) (Room k) := by
  apply sails_bind (sails_appendOnly kind room)
  intro appended left
  apply sails_after (sails_lift _)
  intro _
  exact sails_pure left

end Smooth

end O7Formal.Dispatch
