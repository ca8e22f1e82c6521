import O7Formal.Dispatch.CrashPoints
import O7Formal.Run.Resolvers

/-! A record read while its run goes on writing: the events first, and each file at a moment of its
own after that. No file that a run has written is written again, so what is read is the record of the
moment at which the events were read. -/

namespace O7Formal.Dispatch

open Fallible Program
open O7Formal.Ledger (Command)
open O7Formal.Producers (Contracted GateManifest Outcome)
open O7Formal.Run (CandidateStateContractV1 CandidateStateReceiptV1 EventChain RepositoryIdentity
  RunContract RunEvent kinds)

/-- What is read of a record from one moment to another. -/
structure Glimpse (record : Nat → RecordDir) (t last : Nat) (dir : RecordDir) : Prop where
  events : dir.events = (record t).events
  ledgerBinding : ∃ t', t ≤ t' ∧ t' ≤ last ∧ dir.ledgerBinding = (record t').ledgerBinding
  commandBinding : ∃ t', t ≤ t' ∧ t' ≤ last ∧ dir.commandBinding = (record t').commandBinding
  read : ∀ locator, ∃ t', t ≤ t' ∧ t' ≤ last ∧ dir.read locator = (record t').read locator

/-- What the first directory has, the other one has. -/
structure Covers (dir other : RecordDir) : Prop where
  ledgerBinding : ∀ b, dir.ledgerBinding = .ok (some b) → other.ledgerBinding = .ok (some b)
  commandBinding : ∀ b, dir.commandBinding = .ok (some b) → other.commandBinding = .ok (some b)
  read : ∀ locator bytes, dir.read locator = .ok bytes → other.read locator = .ok bytes

section Covered

variable {sha256 : Run.Sha256} {ext : Run.Externals} {dir other : RecordDir} {runId : RunId}
  {command : Command}

theorem resolver_covers (covers : Covers dir other) {events : List RunEvent} :
    Run.Serves events (recordDirResolver dir) (recordDirResolver other) := by
  intro r bytes _ resolved
  rcases resolver_ok_iff.mp resolved with ⟨confined, read⟩
  exact resolver_ok_iff.mpr ⟨confined, covers.read _ _ read⟩

theorem required_covers {α : Type} {file : String} {sidecar sidecar' : Except String (Option α)}
    (covers : ∀ a, sidecar = .ok (some a) → sidecar' = .ok (some a)) {a : α}
    (present : required file sidecar = .ok a) : required file sidecar' = .ok a := by
  unfold required at present
  split at present
  · cases present
    rw [covers _ rfl]
    rfl
  · cases present
  · cases present

theorem checkTask_covers (covers : Covers dir other) {state : Run.RunState}
    (checked : checkTask sha256 dir state command = .ok ()) :
    checkTask sha256 other state command = .ok () := by
  unfold checkTask at checked ⊢
  cases held : state.task with
  | none =>
      rw [held] at checked
      cases checked
  | some task =>
      rw [held] at checked
      simp only [bind_ok_iff, mapError_ok_iff] at checked ⊢
      rcases checked with ⟨_, digest, bytes, read, same⟩
      exact ⟨(), digest, bytes, covers.read _ _ read, same⟩

theorem checkIdentity_covers (covers : Covers dir other) {state : Run.RunState}
    (checked : checkIdentity sha256 dir runId command state = .ok ()) :
    checkIdentity sha256 other runId command state = .ok () := by
  simp only [checkIdentity, bind_ok_iff] at checked ⊢
  rcases checked with ⟨binding, present, _, own, commandBinding, present', _, bound, task⟩
  exact ⟨binding, required_covers covers.ledgerBinding present, (), own, commandBinding,
    required_covers covers.commandBinding present', (), bound, checkTask_covers covers task⟩

theorem classify_covers (covers : Covers dir other) (events : other.events = dir.events)
    (valid : ∀ reason, classifyCommandChild sha256 ext dir runId command ≠ .invalid reason) :
    classifyCommandChild sha256 ext other runId command =
      classifyCommandChild sha256 ext dir runId command := by
  unfold classifyCommandChild at valid ⊢
  rw [events]
  cases file : dir.events with
  | missing => rfl
  | unreadable why =>
      rw [file] at valid
      exact absurd rfl (valid _)
  | lines held =>
      rw [file] at valid
      simp only at valid ⊢
      cases parsed : parseEvents held with
      | error why => rfl
      | ok stream =>
          rw [parsed] at valid
          cases stream with
          | nil => rfl
          | cons first rest =>
              simp only [classifyStream] at valid ⊢
              split
              · rfl
              · rename_i own
                rw [if_neg own] at valid
                cases verified : Run.verifyPrefix sha256 ext (recordDirResolver dir)
                    (first :: rest) with
                | error e =>
                    rw [verified] at valid
                    exact absurd rfl (valid _)
                | ok found =>
                    rcases found with ⟨state, n⟩
                    rw [verified] at valid
                    rw [Run.verifyPrefix_served (resolver_covers covers) verified]
                    cases checked : checkIdentity sha256 dir runId command state with
                    | error why =>
                        simp only [checked] at valid
                        exact absurd rfl (valid _)
                    | ok _ => simp only [checkIdentity_covers covers checked, checked]

end Covered

def blank (base : String) : RecordDir := ⟨base, .missing, .ok none, .ok none, fun _ => .error ""⟩

theorem blank_covers (base : String) (dir : RecordDir) : Covers (blank base) dir := by
  constructor <;> exact nofun

theorem store_covers {dir other : RecordDir} (covers : Covers dir other) (file : RecordFile) :
    Covers (file.store dir) (file.store other) := by
  have reads : ∀ name content locator bytes,
      Function.update dir.read name (.ok content) locator = .ok bytes →
        Function.update other.read name (.ok content) locator = .ok bytes := by
    intro name content locator bytes read
    by_cases here : locator = name
    · rw [here, Function.update_self] at read ⊢
      exact read
    · rw [Function.update_of_ne here] at read ⊢
      exact covers.read _ _ read
  cases file with
  | ledgerBinding binding => exact ⟨fun _ held => held, covers.commandBinding, covers.read⟩
  | commandBinding binding bytes =>
      exact ⟨covers.ledgerBinding, fun _ held => held, reads _ _⟩
  | file locator bytes => exact ⟨covers.ledgerBinding, covers.commandBinding, reads _ _⟩

theorem touched_covers {runId : RunId} {applied : Bool} {dir other : RecordDir}
    (covers : Covers dir other) (entry : (c : Call) × c.Answer) :
    Covers (touched runId applied dir entry) (touched runId applied other entry) := by
  rcases entry with ⟨c, answer⟩
  cases c with
  | write id file =>
      simp only [touched]
      split
      · exact store_covers covers file
      · exact covers
  | append id event =>
      simp only [touched]
      split
      · exact ⟨covers.ledgerBinding, covers.commandBinding, covers.read⟩
      · exact covers
  | _ => exact covers

theorem leaves_covers {runId : RunId} {applied : Bool} {dir other : RecordDir}
    (covers : Covers dir other) (trace : Trace Call Call.Answer) :
    Covers (leaves runId applied dir trace) (leaves runId applied other trace) := by
  induction trace generalizing dir other with
  | nil => exact covers
  | cons entry rest ih => exact ih (touched_covers covers entry)

theorem leaves_readable {runId : RunId} {applied : Bool} {dir : RecordDir} {locator : String}
    (trace : Trace Call Call.Answer) (readable : (dir.read locator).isOk = true) :
    ((leaves runId applied dir trace).read locator).isOk = true := by
  induction trace generalizing dir with
  | nil => exact readable
  | cons entry rest ih =>
      apply ih
      have stores : ∀ file : RecordFile, ((file.store dir).read locator).isOk = true := by
        intro file
        have written : ∀ name content,
            (Function.update dir.read name (.ok content) locator).isOk = true := by
          intro name content
          by_cases here : locator = name
          · rw [here, Function.update_self]
            rfl
          · rw [Function.update_of_ne here]
            exact readable
        cases file with
        | ledgerBinding binding => exact readable
        | commandBinding binding bytes => exact written _ _
        | file name bytes => exact written _ _
      rcases entry with ⟨c, answer⟩
      cases c with
      | write id file =>
          simp only [touched]
          split
          · exact stores file
          · exact readable
      | append id event =>
          simp only [touched]
          split
          · exact readable
          · exact readable
      | _ => exact readable

theorem read_of_blank {base : String} {items : List Item} {events : List RunEvent}
    {locator : String} {bytes : List UInt8}
    (read : (built (blank base) (itemFiles items) events).read locator = .ok bytes) :
    (locator, bytes) ∈ entries items := by
  have stored : ∀ (files : List RecordFile) (dir : RecordDir),
      (files.foldl (fun dir file => file.store dir) dir).read locator = .ok bytes →
        dir.read locator = .ok bytes ∨ (locator, bytes) ∈ files.filterMap RecordFile.entry := by
    intro files
    induction files with
    | nil => exact fun _ held => .inl held
    | cons file rest ih =>
        intro dir held
        rw [List.filterMap_cons]
        have written : ∀ name content,
            Function.update dir.read name (.ok content) locator = .ok bytes →
              dir.read locator = .ok bytes ∨ (locator, bytes) = (name, content) := by
          intro name content now
          by_cases here : locator = name
          · rw [here, Function.update_self] at now
            cases now
            exact .inr (by rw [here])
          · rw [Function.update_of_ne here] at now
            exact .inl now
        cases ih (file.store dir) held with
        | inr later =>
            right
            cases file.entry with
            | none => exact later
            | some entry => exact List.mem_cons_of_mem _ later
        | inl now =>
            cases file with
            | ledgerBinding binding => exact .inl now
            | commandBinding binding content =>
                refine (written _ _ now).imp_right fun same => ?_
                rw [same]
                exact List.mem_cons_self
            | file name content =>
                refine (written _ _ now).imp_right fun same => ?_
                rw [same]
                exact List.mem_cons_self
  cases stored (itemFiles items) (blank base) read with
  | inl held => cases held
  | inr member => exact member

theorem touched_events {runId : RunId} {applied : Bool} {dir other : RecordDir}
    (same : dir.events = other.events) (entry : (c : Call) × c.Answer) :
    (touched runId applied dir entry).events = (touched runId applied other entry).events := by
  have stored : ∀ (file : RecordFile) (dir : RecordDir), (file.store dir).events = dir.events := by
    intro file dir
    cases file <;> rfl
  rcases entry with ⟨c, answer⟩
  cases c with
  | write id file =>
      simp only [touched]
      split
      · rw [stored, stored, same]
      · exact same
  | append id event =>
      simp only [touched]
      split
      · exact congrArg (·.append event) same
      · exact same
  | _ => exact same

theorem leaves_events {runId : RunId} {applied : Bool} {dir other : RecordDir}
    (same : dir.events = other.events) (trace : Trace Call Call.Answer) :
    (leaves runId applied dir trace).events = (leaves runId applied other trace).events := by
  induction trace generalizing dir other with
  | nil => exact same
  | cons entry rest ih => exact ih (touched_events same entry)

theorem leaves_found {runId : RunId} {applied : Bool} {dir : RecordDir}
    (trace : Trace Call Call.Answer) (found : dir.events ≠ .missing) :
    (leaves runId applied dir trace).events ≠ .missing := by
  induction trace generalizing dir with
  | nil => exact found
  | cons entry rest ih =>
      apply ih
      rcases entry with ⟨c, answer⟩
      cases c with
      | write id file =>
          simp only [touched]
          split
          · cases file <;> exact found
          · exact found
      | append id event =>
          simp only [touched]
          split
          · intro missing
            cases file : dir.events <;> simp [RecordDir.append, EventsFile.append, file] at missing
          · exact found
      | _ => exact found

theorem leaves_append (runId : RunId) (applied : Bool) (dir : RecordDir)
    (past rest : Trace Call Call.Answer) : leaves runId applied dir (past ++ rest) =
      leaves runId applied (leaves runId applied dir past) rest := List.foldl_append

section Writing

variable {env : Setting} {a : ContinueArgs} {o : Outside} {exitCode : Option Int32}
  {ran : List Outcome} {contract : RunContract} {m : GateManifest}
  {runId parentRunId : CanonicalRunId} {start : RecordDir} {applied : Bool}
  {past rest : Trace Call Call.Answer} {done done' : List Item} {chain chain' : EventChain}

theorem written_once (held : m.Valid) (steps : ran.map Prod.fst = m.gate)
    (before : Leaves env a (o.observed exitCode ran) contract runId parentRunId (blank start.base)
      (leaves a.runId applied (blank start.base) past) done chain)
    (behind : Leaves env a (o.observed exitCode ran) contract runId parentRunId (blank start.base)
      (leaves a.runId applied (blank start.base) (past ++ rest)) done' chain')
    {locator : String} {bytes : List UInt8}
    (read : (leaves a.runId applied (blank start.base) past).read locator = .ok bytes) :
    (leaves a.runId applied (blank start.base) (past ++ rest)).read locator = .ok bytes := by
  have readable : ((leaves a.runId applied (blank start.base) (past ++ rest)).read
      locator).isOk = true := by
    rw [leaves_append]
    apply leaves_readable
    rw [read]
    rfl
  rcases exists_of_isOk readable with ⟨bytes', read'⟩
  rw [before.dir] at read
  have now := read'
  rw [behind.dir] at now
  have first := (entries_sub before.part).subset (read_of_blank read)
  have second := (entries_sub behind.part).subset (read_of_blank now)
  have distinct := @continue_distinct env a o exitCode ran contract m parentRunId held steps
  have same : (locator, bytes) = (locator, bytes') :=
    List.inj_on_of_nodup_map distinct first second rfl
  rw [read', (Prod.mk.inj same).2]

theorem opened_before (fresh : start.events = .missing)
    (left : Leaves env a (o.observed exitCode ran) contract runId parentRunId start
      (leaves a.runId applied start past) done chain)
    (found : (leaves a.runId applied start past).events ≠ .missing) :
    openingItems env a parentRunId <+: done := by
  cases shape : itemKinds done with
  | nil =>
      have nothing : chain.out = [] := by
        have listed : kinds chain.out = itemKinds done := left.mints.carries
        rw [shape] at listed
        exact List.map_eq_nil_iff.mp listed
      rw [left.dir, built, nothing, fresh] at found
      exact absurd rfl found
  | cons kind later =>
      have member : kind ∈ itemKinds done := by
        rw [shape]
        exact List.mem_cons_self
      exact opening_before left (mem_itemKinds.mp member)

end Writing

/-- An honest continuation, moment by moment: the calls that it has made. -/
structure AtWork (env : Setting) (writeReceipt : CandidateStateReceiptV1 → List UInt8)
    (repo : RepositoryIdentity) (parent : RecordDir) (a : ContinueArgs) (o : Outside)
    (exitCode : Option Int32) (ran : List Outcome) (base : RunContract)
    (obligation : CandidateStateContractV1) (treeOid : String)
    (calls : Nat → Trace Call Call.Answer) : Prop where
  grows : ∀ t, calls t <+: calls (t + 1)
  runs : ∀ t, ∃ y, After (continueExecute env a (o.observed exitCode ran)
    (withObligation base obligation)).run (calls t) y
  honest : ∀ t, Honest env writeReceipt repo parent a o obligation treeOid (calls t)

section Work

variable {env : Setting} {writeReceipt : CandidateStateReceiptV1 → List UInt8}
  {repo : RepositoryIdentity} {parent : RecordDir} {a : ContinueArgs} {o : Outside}
  {exitCode : Option Int32} {ran : List Outcome} {base : RunContract}
  {obligation : CandidateStateContractV1} {treeOid : String}
  {calls : Nat → Trace Call Call.Answer} {m : GateManifest} {start : RecordDir} {applied : Bool}
  (work : AtWork env writeReceipt repo parent a o exitCode ran base obligation treeOid calls)

include work

theorem calls_prefix {t t' : Nat} (later : t ≤ t') : calls t <+: calls t' := by
  induction t', later using Nat.le_induction with
  | base => exact List.prefix_refl _
  | succ t' _ ih => exact ih.trans (work.grows t')

variable (held : Contracted m base) (steps : ran.map Prod.fst = m.gate)
  (inherited : resolveInheritedCandidateObligation env repo parent a.parentRunId a.conversationId =
    .ok obligation)
  (fresh : start.events = .missing)

include held steps inherited fresh

theorem later_covers {t t' : Nat} (later : t ≤ t')
    (found : (leaves a.runId applied (blank start.base) (calls t)).events ≠ .missing) :
    Covers (leaves a.runId applied (blank start.base) (calls t))
      (leaves a.runId applied start (calls t')) := by
  have declared := (held.withCandidate (some obligation)).valid
  have allowed : Allowed (o.observed exitCode ran) (withObligation base obligation) :=
    observed_allowed held steps obligation
  rcases work.runs t with ⟨y, now⟩
  rcases work.runs t' with ⟨z, behind⟩
  cases named : mintRunId a.runId with
  | error e =>
      exact absurd (unnamed_events ⟨"run", by decide⟩ (unminted_continueExecute (.inl named)) now
        rfl) found
  | ok runId =>
      cases parentNamed : mintRunId a.parentRunId with
      | error e =>
          exact absurd (unnamed_events runId (unminted_continueExecute (.inr parentNamed)) now rfl)
            found
      | ok parentRunId =>
          rcases @crash_leaves env a o exitCode ran runId parentRunId (blank start.base) _
            obligation writeReceipt repo parent treeOid applied _ _ named parentNamed allowed
            inherited (work.honest t) now with ⟨done, chain, before, _⟩
          rcases @crash_leaves env a o exitCode ran runId parentRunId (blank start.base) _
            obligation writeReceipt repo parent treeOid applied _ _ named parentNamed allowed
            inherited (work.honest t') behind with ⟨done', chain', after, _⟩
          rcases @crash_leaves env a o exitCode ran runId parentRunId start _ obligation
            writeReceipt repo parent treeOid applied _ _ named parentNamed allowed inherited
            (work.honest t') behind with ⟨done'', chain'', left, _⟩
          rcases calls_prefix work later with ⟨rest, split⟩
          have found' : (leaves a.runId applied start (calls t')).events ≠ .missing := by
            rw [← split, leaves_append]
            apply leaves_found
            have same : start.events = (blank start.base).events := fresh
            rwa [leaves_events same]
          have own := left_sidecars before (opened_before rfl before found)
          have own' := left_sidecars left (opened_before fresh left found')
          constructor
          · intro b present
            rw [own'.1, ← own.1, present]
          · intro b present
            rw [own'.2, ← own.2, present]
          · intro locator bytes read
            apply (leaves_covers (blank_covers start.base start) (calls t')).read
            rw [← split] at after ⊢
            exact written_once declared steps before after read

theorem glimpsed {t last : Nat} {dir : RecordDir} {command : Command}
    (glimpse : Glimpse (fun t => leaves a.runId applied start (calls t)) t last dir)
    (dispatched : Dispatches command a) :
    CrashPoint (classifyCommandChild env.sha256 env.ext dir a.runId command)
      (kinds (leaves a.runId applied start (calls t)).events.stream) := by
  have events : dir.events = (leaves a.runId applied (blank start.base) (calls t)).events := by
    rw [glimpse.events]
    exact leaves_events fresh _
  rcases work.runs t with ⟨y, now⟩
  have point : CrashPoint (classifyCommandChild env.sha256 env.ext
      (leaves a.runId applied (blank start.base) (calls t)) a.runId command)
      (kinds (leaves a.runId applied (blank start.base) (calls t)).events.stream) :=
    stopped_classified held steps inherited (work.honest t) dispatched rfl now
  rw [← events, glimpse.events] at point
  by_cases found : (leaves a.runId applied (blank start.base) (calls t)).events = .missing
  · rw [classifyCommandChild, events, found]
    rwa [classifyCommandChild, found] at point
  · have covers : Covers (leaves a.runId applied (blank start.base) (calls t)) dir := by
      constructor
      · intro b present
        rcases glimpse.ledgerBinding with ⟨t', later, _, same⟩
        rw [same]
        exact (later_covers work held steps inherited fresh later found).ledgerBinding b present
      · intro b present
        rcases glimpse.commandBinding with ⟨t', later, _, same⟩
        rw [same]
        exact (later_covers work held steps inherited fresh later found).commandBinding b present
      · intro locator bytes read
        rcases glimpse.read locator with ⟨t', later, _, same⟩
        rw [same]
        exact (later_covers work held steps inherited fresh later found).read _ _ read
    rwa [classify_covers covers events point.valid]

end Work

end O7Formal.Dispatch
