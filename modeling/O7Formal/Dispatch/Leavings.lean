import O7Formal.Dispatch.Script
import O7Formal.Dispatch.System

/-! What a run leaves in its record, wherever it stops: the directory that a part of its script has
written, each write whole. -/

namespace O7Formal.Dispatch

open Program
open O7Formal.Run (EventChain RunEvent RunEventKind Sha256)

def touched (runId : RunId) (applied : Bool) (dir : RecordDir) (entry : (c : Call) × c.Answer) :
    RecordDir :=
  match entry with
  | ⟨.write id file, answer⟩ =>
      if id = runId ∧ (answer.isOk || applied) = true then file.store dir else dir
  | ⟨.append id event, answer⟩ =>
      if id = runId ∧ (answer.isOk || applied) = true then dir.append event else dir
  | _ => dir

def leaves (runId : RunId) (applied : Bool) (start : RecordDir)
    (trace : Trace Call Call.Answer) : RecordDir :=
  trace.foldl (touched runId applied) start

def itemFiles (items : List Item) : List RecordFile :=
  items.filterMap fun item => match item with
    | .file file => some file
    | .event _ => none

def itemKinds (items : List Item) : List RunEventKind :=
  items.filterMap fun item => match item with
    | .file _ => none
    | .event kind => some kind

def built (start : RecordDir) (files : List RecordFile) (events : List RunEvent) : RecordDir :=
  { files.foldl (fun dir file => file.store dir) start with
    events := events.foldl EventsFile.append start.events }

@[simp] theorem itemFiles_append (a b : List Item) :
    itemFiles (a ++ b) = itemFiles a ++ itemFiles b := List.filterMap_append

@[simp] theorem itemKinds_append (a b : List Item) :
    itemKinds (a ++ b) = itemKinds a ++ itemKinds b := List.filterMap_append

theorem built_file (start : RecordDir) (files : List RecordFile) (events : List RunEvent)
    (file : RecordFile) :
    file.store (built start files events) = built start (files ++ [file]) events := by
  rw [built, built, List.foldl_append]
  cases file <;> rfl

theorem built_event (start : RecordDir) (files : List RecordFile) (events : List RunEvent)
    (event : RunEvent) :
    (built start files events).append event = built start files (events ++ [event]) := by
  rw [built, built, List.foldl_append]
  rfl

structure Shows (sha256 : Sha256) (rid : CanonicalRunId) (start : RecordDir) (script : List Item)
    (dir : RecordDir) (done : List Item) (chain : EventChain) : Prop where
  part : done <+: script
  mints : (EventChain.new rid).Mints sha256 (itemKinds done) chain
  dir : dir = built start (itemFiles done) chain.out

def Keeping (sha256 : Sha256) (rid : CanonicalRunId) (start : RecordDir) (script : List Item)
    (dir : RecordDir) (m : Pen) : Prop :=
  ∃ done chain, Shows sha256 rid start script dir done chain ∧
    (m.stopped = false → m.chain = chain ∧ done ++ m.rest = script)

section Leavings

variable {sha256 : Sha256} {rid : CanonicalRunId} {start dir : RecordDir} {script : List Item}
  {runId : RunId} {applied : Bool}

theorem keeping_start : Keeping sha256 rid start script start ⟨script, .new rid, false⟩ := by
  refine ⟨[], .new rid, ⟨List.nil_prefix, .nil, ?_⟩, fun _ => ⟨rfl, rfl⟩⟩
  rfl

theorem keeping_file (applied : Bool) {m : Pen} {file : RecordFile} {rest : List Item}
    (answer : Except Fault Unit) (keeping : Keeping sha256 rid start script dir m) (going : m.stopped = false)
    (next : m.rest = .file file :: rest) :
    Keeping sha256 rid start script
      (if (answer.isOk || applied) = true then file.store dir else dir)
      { m with rest := m.rest.tail, stopped := m.stopped || !answer.isOk } := by
  rcases keeping with ⟨done, chain, shows, stands⟩
  rcases stands going with ⟨here, whole⟩
  rw [next] at whole
  split
  · refine ⟨done ++ [.file file], chain, ⟨?_, ?_, ?_⟩, ?_⟩
    · exact ⟨rest, by rw [← whole]; simp⟩
    · simpa [itemKinds] using shows.mints
    · rw [shows.dir, built_file, itemFiles_append]
      rfl
    · intro _
      refine ⟨here, ?_⟩
      rw [← whole, next]
      simp
  · rename_i failed
    refine ⟨done, chain, shows, ?_⟩
    intro going'
    have ok : answer.isOk = true := by simpa [going] using going'
    exact absurd (by rw [ok, Bool.true_or]) failed

theorem keeping_event (applied : Bool) {m : Pen} {event : RunEvent} {rest : List Item}
    (answer : Except Fault Unit) (keeping : Keeping sha256 rid start script dir m)
    (going : m.stopped = false) (next : m.rest = .event event.kind :: rest)
    (minted : Minted sha256 m.chain event) :
    Keeping sha256 rid start script
      (if (answer.isOk || applied) = true then dir.append event else dir)
      ⟨m.rest.tail, extendChain m.chain event, m.stopped || !answer.isOk⟩ := by
  rcases keeping with ⟨done, chain, shows, stands⟩
  rcases stands going with ⟨here, whole⟩
  rw [next] at whole
  split
  · refine ⟨done ++ [.event event.kind], extendChain m.chain event, ⟨?_, ?_, ?_⟩, ?_⟩
    · exact ⟨rest, by rw [← whole]; simp⟩
    · rcases minted with ⟨now, pushed⟩
      rw [itemKinds_append]
      rw [here] at pushed ⊢
      exact shows.mints.append (.one pushed)
    · rw [shows.dir, built_event, itemFiles_append, here]
      simp [itemFiles, extendChain]
    · intro _
      refine ⟨rfl, ?_⟩
      rw [← whole, next]
      simp
  · rename_i failed
    refine ⟨done, chain, shows, ?_⟩
    intro going'
    have ok : answer.isOk = true := by simpa [going] using going'
    exact absurd (by rw [ok, Bool.true_or]) failed

theorem keeping_step (past : Trace Call Call.Answer) (m : Pen) (c : Call) (r : c.Answer)
    (keeping : Keeping sha256 rid start script (leaves runId applied start past) m)
    (permitted : m.permits sha256 runId c) :
    Keeping sha256 rid start script (leaves runId applied start (past ++ [⟨c, r⟩]))
      (m.learns c r) := by
  have last : leaves runId applied start (past ++ [⟨c, r⟩]) =
      touched runId applied (leaves runId applied start past) ⟨c, r⟩ := by
    rw [leaves, List.foldl_append]
    rfl
  rw [last]
  cases c with
  | write id file =>
      rcases permitted with ⟨going, rfl, rest, next⟩
      have written := keeping_file applied r keeping going next
      simpa [touched, Pen.learns] using written
  | append id event =>
      rcases permitted with ⟨going, rfl, ⟨rest, next⟩, minted⟩
      have written := keeping_event applied r keeping going next minted
      simpa [touched, Pen.learns] using written
  | _ => exact keeping

def answeredIn (trace : Trace Call Call.Answer) (c : Call) (r : c.Answer) : Prop := ⟨c, r⟩ ∈ trace

/-- Wherever a run stops, its record shows a part of its script. Where it succeeds the record shows
all of it, and where it fails the reason is an outer one, unless its own stream has no verdict. -/
theorem leaves_shows (start : RecordDir) (applied : Bool) {α : Type} {x : Fallible Fault α}
    {post : α → EventChain → Prop} {trace : Trace Call Call.Answer} {y : Code (Except Fault α)}
    (follows : Follows sha256 runId (answeredIn trace) x (.new rid) script post)
    (after : After x.run trace y) :
    ∃ done chain,
      Shows sha256 rid start script (leaves runId applied start trace) done chain ∧
      (∀ a, y = pure (.ok a) → done = script ∧ post a chain) ∧
      ((∀ entry ∈ trace, plainAnswer entry.1 entry.2) →
        ∀ e, y = pure (.error e) → Outer e ∨ Undecided sha256 chain.out) := by
  have obeys := follows []
  rw [List.append_nil] at obeys
  have step : ∀ past m c r, Keeping sha256 rid start script (leaves runId applied start past) m →
      (writing sha256 runId (answeredIn trace)).permits m c →
      (writing sha256 runId (answeredIn trace)).answers c r →
      Keeping sha256 rid start script (leaves runId applied start (past ++ [⟨c, r⟩]))
        ((writing sha256 runId (answeredIn trace)).learns m c r) :=
    fun past m c r keeping permitted _ => keeping_step past m c r keeping permitted
  have begun : Keeping sha256 rid start script (leaves runId applied start [])
      ⟨script, .new rid, false⟩ := keeping_start
  have reached := after.keeps (motive := fun past m =>
    Keeping sha256 rid start script (leaves runId applied start past) m) step begun obeys
      fun entry member => member
  rcases reached with ⟨⟨done, chain, shows, stands⟩, obeys'⟩
  refine ⟨done, chain, shows, ?_, ?_⟩
  · intro a same
    subst same
    rcases obeys'.1 a rfl with ⟨rest, going, fits⟩
    rcases stands going with ⟨here, whole⟩
    rw [rest, List.append_nil] at whole
    exact ⟨whole, here ▸ fits⟩
  · intro plain e same
    subst same
    cases obeys'.2 (fun c r member => plain ⟨c, r⟩ member) e rfl with
    | inl outer => exact .inl outer
    | inr fault =>
        rcases fault with ⟨going, undecided⟩
        rw [(stands going).1] at undecided
        exact .inr undecided

end Leavings

end O7Formal.Dispatch
