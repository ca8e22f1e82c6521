import O7Formal.Ledger.Migrations

/-! Processes that open one database file at the same time. Each decides which migrations to run
from a version it reads before the first of them, so another one can have run them meanwhile: a
replay that fails or that rebuilds the same tables is harmless, but the second migration replayed
on the third version takes a column away and leaves a schema that no version has. -/

namespace O7Formal.Ledger.Migrations

open Fallible Sql Table

inductive Proc where
  | idle
  /-- The version was read; these migrations are still to run. -/
  | running (todo : List Migration)
  | failed (error : MigrationError)
  | crashed

structure State where
  db : Database
  procs : Nat → Proc

inductive Action where
  | read (p : Nat)
  | migrate (p : Nat)
  | crash (p : Nat)
  /-- Any other transaction: the rows it leaves in each table. -/
  | write (contents : String → List Row)

/-- Before the second migration no constraint bounds the statuses; the ledger writes these only. -/
def KnownStatuses (db : Database) : Prop :=
  ∀ t ∈ db.tables, ∀ row ∈ t.rows, (t.name = "run" → runStatusCheck.Holds row) ∧
    (t.name = "run_attempt" → attemptStatusCheck.Holds row)

instance (db : Database) : Decidable (KnownStatuses db) :=
  inferInstanceAs (Decidable (∀ t ∈ db.tables, ∀ row ∈ t.rows, _ ∧ _))

def overwritten (contents : String → List Row) (db : Database) : Database :=
  { db with tables := db.tables.map fun t =>
      { t with rows := (contents t.name).map (restrict t.definition.names) } }

def overwrite (contents : String → List Row) (db : Database) : Database :=
  if (overwritten contents db).Lawful ∧ KnownStatuses (overwritten contents db) then
    overwritten contents db
  else db

/-- The first part of `apply`: read the version, refuse one that is too new. -/
def start (db : Database) : Proc :=
  if currentSchemaVersion < db.userVersion then
    .failed (.schemaTooNew db.userVersion currentSchemaVersion)
  else .running (pending db.userVersion)

def step (s : State) : Action → State
  | .read p =>
      match s.procs p with
      | .idle => { s with procs := Function.update s.procs p (start s.db) }
      | _ => s
  | .migrate p =>
      match s.procs p with
      | .running (m :: todo) =>
          match migrate s.db m with
          | .ok db => ⟨db, Function.update s.procs p (.running todo)⟩
          | .error e => { s with procs := Function.update s.procs p (.failed e) }
      | _ => s
  | .crash p => { s with procs := Function.update s.procs p .crashed }
  | .write contents => { s with db := overwrite contents s.db }

def run (s : State) (actions : List Action) : State := actions.foldl step s

def opened (db : Database) : State := ⟨db, fun _ => .idle⟩

def runDefV3 : TableDef :=
  { runDef "run" [runStatusCheck] with columns := runColumns ++ [providerSessionId] }

def conversationTable : StoredTable := ⟨"conversation", conversationDef, []⟩

def eventTable : StoredTable := ⟨"event", eventDef, []⟩

def idempotencyRecordTable : StoredTable := ⟨"idempotency_record", idempotencyRecordDef, []⟩

def runAttemptTable (checks : List Check) : StoredTable :=
  ⟨"run_attempt", runAttemptDef checks, []⟩

def blank : Nat → Database
  | 0 => .empty
  | 1 => ⟨1, [conversationTable, ⟨"run", runDef "run" [], []⟩, runAttemptTable [], eventTable,
      idempotencyRecordTable],
      [idxRunConversation, idxOneRunningAttempt, idxEventConversationSequence]⟩
  | 2 => ⟨2, [conversationTable, eventTable, idempotencyRecordTable,
      ⟨"run", runDef "run" [runStatusCheck], []⟩, runAttemptTable [attemptStatusCheck]],
      [idxEventConversationSequence, idxRunConversation, idxOneRunningAttempt]⟩
  | _ => ⟨3, [conversationTable, eventTable, idempotencyRecordTable, ⟨"run", runDefV3, []⟩,
      runAttemptTable [attemptStatusCheck], ⟨"command", commandDef, []⟩],
      [idxEventConversationSequence, idxRunConversation, idxOneRunningAttempt,
        idxCommandConversation]⟩

def layout (contents : String → List Row) (version : Nat) : Database :=
  { blank version with
    tables := (blank version).tables.map fun t => { t with rows := contents t.name } }

def reference (version : Nat) : Except MigrationError Database :=
  (migrations.take version).foldlM migrate .empty

theorem version_cases {version : Nat} (known : version ≤ currentSchemaVersion) :
    version = 0 ∨ version = 1 ∨ version = 2 ∨ version = 3 := by
  simp only [currentSchemaVersion] at known
  omega

theorem reference_eq {version : Nat} (known : version ≤ currentSchemaVersion) :
    reference version = .ok (blank version) := by
  rcases version_cases known with rfl | rfl | rfl | rfl <;> rfl

structure Valid (db : Database) : Prop where
  version : db.userVersion ≤ currentSchemaVersion
  schema : ∀ expected, reference db.userVersion = .ok expected →
    schemaObjects db = schemaObjects expected
  lawful : db.Lawful
  statuses : KnownStatuses db
  elsewhere : ∀ t ∈ db.tables, ∀ row ∈ t.rows, ∀ c, c ∉ t.definition.names → row c = .null

def tableOf : String × Object → Option (String × TableDef)
  | (name, .table definition) => some (name, definition)
  | (_, .index _) => none

def indexOf : String × Object → Option Index
  | (_, .table _) => none
  | (_, .index definition) => some definition

theorem schemaObjects_tables (db : Database) : (schemaObjects db).filterMap tableOf =
    db.tables.map fun t => (t.name, t.definition) := by
  have none : (db.indexes.map fun i => (i.name, Object.index i)).filterMap tableOf = [] := by
    simp [List.filterMap_map, tableOf]
  rw [schemaObjects, List.filterMap_append, none, List.append_nil, List.filterMap_map]
  exact congrFun List.filterMap_eq_map' _

theorem schemaObjects_indexes (db : Database) :
    (schemaObjects db).filterMap indexOf = db.indexes := by
  have none : (db.tables.map fun t => (t.name, Object.table t.definition)).filterMap indexOf = [] := by
    simp [List.filterMap_map, indexOf]
  rw [schemaObjects, List.filterMap_append, none, List.nil_append, List.filterMap_map]
  exact List.filterMap_some

theorem tables_filled {ts us : List StoredTable} (keyed : Keyed StoredTable.name us)
    (shape : ts.map (fun t => (t.name, t.definition)) =
      us.map fun t => (t.name, t.definition)) :
    ∃ contents : String → List Row, ts = us.map fun u => { u with rows := contents u.name } := by
  induction us generalizing ts with
  | nil => exact ⟨fun _ => [], List.map_eq_nil_iff.mp shape⟩
  | cons u us ih =>
      rcases List.map_eq_cons_iff.mp shape with ⟨t, ts, rfl, same, others⟩
      rcases List.nodup_cons.mp keyed with ⟨apart, keyed⟩
      rcases ih keyed others with ⟨contents, filled⟩
      refine ⟨Function.update contents u.name t.rows, ?_⟩
      have rest : ∀ v ∈ us, ({ v with rows := Function.update contents u.name t.rows v.name } :
          StoredTable) = { v with rows := contents v.name } := by
        intro v member
        have other : v.name ≠ u.name := fun same => apart (same ▸ List.mem_map_of_mem member)
        rw [Function.update_of_ne other]
      rw [List.map_cons, List.map_congr_left rest, ← filled, Function.update_self]
      cases t
      cases same
      rfl

theorem blank_keyed {version : Nat} (known : version ≤ currentSchemaVersion) :
    (blank version).userVersion = version ∧ Keyed StoredTable.name (blank version).tables := by
  rcases version_cases known with rfl | rfl | rfl | rfl <;> exact ⟨rfl, by rw [Keyed]; decide⟩

theorem Valid.layout {db : Database} (valid : Valid db) :
    ∃ contents, db = layout contents db.userVersion := by
  have objects := valid.schema _ (reference_eq valid.version)
  have shape := congrArg (List.filterMap tableOf) objects
  have indexes := congrArg (List.filterMap indexOf) objects
  rw [schemaObjects_tables, schemaObjects_tables] at shape
  rw [schemaObjects_indexes, schemaObjects_indexes] at indexes
  rcases tables_filled (blank_keyed valid.version).2 shape with ⟨contents, filled⟩
  refine ⟨contents, ?_⟩
  rw [Migrations.layout, ← filled, ← indexes, (blank_keyed valid.version).1]

theorem migrate_ok {db db' : Database} {m : Migration} (ran : execBatch db m.sql = .ok db')
    (clean : ({ db' with userVersion := m.version } : Database).foreignKeyCheck = []) :
    migrate db m = .ok { db' with userVersion := m.version } := by
  simp only [migrate, bind_ok_iff, mapError_ok_iff, refuseIf_ok_iff, pure_ok_iff, not_not]
  exact ⟨db', ran, (), clean, rfl⟩

section Layouts

variable (contents : String → List Row)

theorem first_empty :
    migrate (layout contents 0) ⟨1, schemaV1⟩ = .ok (layout (fun _ => []) 1) := rfl

theorem first_replayed {version : Nat} (known : version ≤ currentSchemaVersion)
    (positive : version ≠ 0) : ∃ e, migrate (layout contents version) ⟨1, schemaV1⟩ = .error e := by
  rcases version_cases known with rfl | rfl | rfl | rfl
  · exact absurd rfl positive
  · exact ⟨_, rfl⟩
  · exact ⟨_, rfl⟩
  · exact ⟨_, rfl⟩

theorem third_replayed : ∃ e, migrate (layout contents 3) ⟨3, schemaV3⟩ = .error e := ⟨_, rfl⟩

theorem first_valid : Valid (layout (fun _ => []) 1) := by
  constructor
  · decide
  · intro expected made
    cases made
    rfl
  · decide
  · decide
  · intro t member row among
    rcases List.mem_map.mp member with ⟨u, _, rfl⟩
    cases among

end Layouts

section Replays

variable {contents : String → List Row} {version : Nat}

theorem runs_stored (small : version = 1 ∨ version = 2) : ∃ checks,
    (⟨"run", runDef "run" checks, contents "run"⟩ : StoredTable) ∈
      (layout contents version).tables := by
  rcases small with rfl | rfl
  · exact ⟨[], by simp [layout, blank]⟩
  · exact ⟨[runStatusCheck], by simp [layout, blank]⟩

theorem attempts_stored (positive : version = 1 ∨ version = 2 ∨ version = 3) : ∃ checks,
    (⟨"run_attempt", runAttemptDef checks, contents "run_attempt"⟩ : StoredTable) ∈
      (layout contents version).tables := by
  rcases positive with rfl | rfl | rfl
  · exact ⟨[], by simp [layout, blank, runAttemptTable]⟩
  · exact ⟨[attemptStatusCheck], by simp [layout, blank, runAttemptTable]⟩
  · exact ⟨[attemptStatusCheck], by simp [layout, blank, runAttemptTable]⟩

theorem untouched_stored (positive : version = 1 ∨ version = 2 ∨ version = 3) :
    ∀ t ∈ [conversationTable, eventTable, idempotencyRecordTable],
      { t with rows := contents t.name } ∈ (layout contents version).tables := by
  have among : ∀ t ∈ [conversationTable, eventTable, idempotencyRecordTable],
      t ∈ (blank version).tables := by
    rcases positive with rfl | rfl | rfl
    · simp [blank]
    · simp [blank]
    · simp [blank]
  intro t member
  exact List.mem_map_of_mem (among t member)

theorem Valid.statusChecked (valid : Valid (Migrations.layout contents version))
    (small : version = 1 ∨ version = 2) :
    (runDef "run" [runStatusCheck]).Lawful (contents "run") ∧
      (runAttemptDef [attemptStatusCheck]).Lawful (contents "run_attempt") := by
  rcases @runs_stored contents version small with ⟨_, run⟩
  rcases @attempts_stored contents version (small.imp_right .inl) with ⟨_, attempt⟩
  constructor
  · apply (valid.lawful.1 _ run).checked (by rfl) (by rfl) (by rfl)
    intro row member check among
    rw [List.mem_singleton.mp among]
    exact (valid.statuses _ run row member).1 rfl
  · apply (valid.lawful.1 _ attempt).checked (by rfl) (by rfl) (by rfl)
    intro row member check among
    rw [List.mem_singleton.mp among]
    exact (valid.statuses _ attempt row member).2 rfl

theorem Valid.kept (valid : Valid (Migrations.layout contents version)) {t : StoredTable}
    (member : t ∈ (Migrations.layout contents version).tables) {names : List String}
    (columns : t.definition.names = names) : t.rows.map (restrict names) = t.rows := by
  rw [← columns]
  exact map_restrict (valid.elsewhere t member)

theorem schemaV2_eq : schemaV2 =
    rebuild "run" "run_v2" (runDef "run_v2" [runStatusCheck]) idxRunConversation ++
      rebuild "run_attempt" "run_attempt_v2" (runAttemptDef [attemptStatusCheck])
        idxOneRunningAttempt := rfl

def halfway (contents : String → List Row) (version : Nat) : Database :=
  ((layout contents version).rebuilt "run" "run_v2" (runDef "run_v2" [runStatusCheck])
    (contents "run")).indexing idxRunConversation

theorem runs_rebuilt (positive : version = 1 ∨ version = 2 ∨ version = 3)
    (lawful : (runDef "run_v2" [runStatusCheck]).Lawful
      ((contents "run").map (restrict (runDef "run_v2" [runStatusCheck]).names))) :
    execBatch (layout contents version)
        (rebuild "run" "run_v2" (runDef "run_v2" [runStatusCheck]) idxRunConversation) =
      .ok (halfway contents version) := by
  have found : ∃ d, (layout contents version).table "run" = some ⟨"run", d, contents "run"⟩ ∧
      (runDef "run_v2" [runStatusCheck]).names ⊆ d.names := by
    rcases positive with rfl | rfl | rfl
    · exact ⟨_, rfl, of_decide_eq_true rfl⟩
    · exact ⟨_, rfl, of_decide_eq_true rfl⟩
    · exact ⟨_, rfl, of_decide_eq_true rfl⟩
  rcases found with ⟨d, found, known⟩
  have unused : ¬ (layout contents version).Mentions "run_v2" ∧
      ¬ ((layout contents version).without "run").Taken "run" ∧
      ¬ ((layout contents version).rebuilt "run" "run_v2" (runDef "run_v2" [runStatusCheck])
        (contents "run")).Taken idxRunConversation.name := by
    rcases positive with rfl | rfl | rfl
    · exact ⟨of_decide_eq_false rfl, of_decide_eq_false rfl, of_decide_eq_false rfl⟩
    · exact ⟨of_decide_eq_false rfl, of_decide_eq_false rfl, of_decide_eq_false rfl⟩
    · exact ⟨of_decide_eq_false rfl, of_decide_eq_false rfl, of_decide_eq_false rfl⟩
  have plain : ∀ rows, idxRunConversation.Lawful rows := fun rows unique => nomatch unique
  exact execBatch_rebuild found unused.1 known lawful unused.2.1 unused.2.2 rfl (by decide)
    (plain _)

def rebuiltTwice (contents : String → List Row) (version : Nat) : Database :=
  ((halfway contents version).rebuilt "run_attempt" "run_attempt_v2"
    (runAttemptDef [attemptStatusCheck]) (contents "run_attempt")).indexing idxOneRunningAttempt

theorem attempts_rebuilt (positive : version = 1 ∨ version = 2 ∨ version = 3)
    (lawful : (runAttemptDef [attemptStatusCheck]).Lawful ((contents "run_attempt").map
      (restrict (runAttemptDef [attemptStatusCheck]).names)))
    (single : idxOneRunningAttempt.Lawful ((contents "run_attempt").map
      (restrict (runAttemptDef [attemptStatusCheck]).names))) :
    execBatch (halfway contents version) (rebuild "run_attempt" "run_attempt_v2"
        (runAttemptDef [attemptStatusCheck]) idxOneRunningAttempt) =
      .ok (rebuiltTwice contents version) := by
  have found : ∃ checks, (halfway contents version).table "run_attempt" =
      some ⟨"run_attempt", runAttemptDef checks, contents "run_attempt"⟩ := by
    rcases positive with rfl | rfl | rfl
    · exact ⟨_, rfl⟩
    · exact ⟨_, rfl⟩
    · exact ⟨_, rfl⟩
  rcases found with ⟨checks, found⟩
  have unused : ¬ (halfway contents version).Mentions "run_attempt_v2" ∧
      ¬ ((halfway contents version).without "run_attempt").Taken "run_attempt" ∧
      ¬ ((halfway contents version).rebuilt "run_attempt" "run_attempt_v2"
        (runAttemptDef [attemptStatusCheck]) (contents "run_attempt")).Taken
          idxOneRunningAttempt.name := by
    rcases positive with rfl | rfl | rfl
    · exact ⟨of_decide_eq_false rfl, of_decide_eq_false rfl, of_decide_eq_false rfl⟩
    · exact ⟨of_decide_eq_false rfl, of_decide_eq_false rfl, of_decide_eq_false rfl⟩
    · exact ⟨of_decide_eq_false rfl, of_decide_eq_false rfl, of_decide_eq_false rfl⟩
  exact execBatch_rebuild found unused.1 (List.Subset.refl _) lawful unused.2.1 unused.2.2 rfl
    (by decide) single

theorem indexesLawful_iff (positive : version = 1 ∨ version = 2 ∨ version = 3) :
    (layout contents version).IndexesLawful ↔
      idxOneRunningAttempt.Lawful (contents "run_attempt") := by
  have unique : idxOneRunningAttempt ∈ (layout contents version).indexes ∧
      ∀ i ∈ (layout contents version).indexes, i.unique = true → i = idxOneRunningAttempt := by
    rcases positive with rfl | rfl | rfl
    · exact of_decide_eq_true rfl
    · exact of_decide_eq_true rfl
    · exact of_decide_eq_true rfl
  rcases @attempts_stored contents version positive with ⟨checks, attempts⟩
  constructor
  · intro all
    exact all _ unique.1 _ attempts rfl
  · intro lawful i member t among on distinct
    cases unique.2 i member distinct
    rcases List.mem_map.mp among with ⟨u, _, rfl⟩
    rw [show u.name = "run_attempt" from on]
    exact lawful distinct

theorem schemaObjects_layout : schemaObjects (layout contents version) =
    schemaObjects (blank version) := by
  simp [schemaObjects, layout, List.map_map, Function.comp_def]

theorem Valid.advance {version' : Nat} (valid : Valid (Migrations.layout contents version))
    (known : version' ≤ currentSchemaVersion)
    (origin : ∀ t' ∈ (blank version').tables, contents t'.name = [] ∨
      ∃ t ∈ (blank version).tables, t.name = t'.name ∧
        t.definition.foreignKeys = t'.definition.foreignKeys ∧
        t.definition.names ⊆ t'.definition.names)
    (kept : ∀ t ∈ (blank version).tables, ∃ t' ∈ (blank version').tables, t'.name = t.name)
    (lawful : ∀ t ∈ (blank version').tables, t.definition.Lawful (contents t.name))
    (indexes : (Migrations.layout contents version').IndexesLawful) :
    Valid (Migrations.layout contents version') := by
  have named := (blank_keyed known).1
  have rows : ∀ t' ∈ (blank version').tables, ∀ row ∈ contents t'.name,
      ∃ t ∈ (Migrations.layout contents version).tables, t.name = t'.name ∧ row ∈ t.rows ∧
        t.definition.names ⊆ t'.definition.names := by
    intro t' member row among
    rcases origin t' member with none | ⟨t, there, name, _, names⟩
    · rw [none] at among
      cases among
    · refine ⟨_, List.mem_map_of_mem there, name, ?_, names⟩
      rw [name]
      exact among
  constructor
  · exact named.trans_le known
  · intro expected made
    rw [show (Migrations.layout contents version').userVersion = version' from named,
      reference_eq known] at made
    cases made
    exact schemaObjects_layout
  · refine ⟨?_, indexes, ?_⟩
    · intro t member
      rcases List.mem_map.mp member with ⟨u, among, rfl⟩
      exact lawful u among
    · apply foreignKeyCheck_same valid.lawful.2.2
      · intro t' member
        rcases List.mem_map.mp member with ⟨u', among, rfl⟩
        rcases origin u' among with none | ⟨u, there, name, keys, _⟩
        · exact .inl none
        · refine .inr ⟨_, List.mem_map_of_mem there, ?_, keys⟩
          exact congrArg contents name
      · intro t member
        rcases List.mem_map.mp member with ⟨u, among, rfl⟩
        rcases kept u among with ⟨u', there, name⟩
        exact ⟨_, List.mem_map_of_mem there, name, congrArg contents name⟩
  · intro t member row among
    rcases List.mem_map.mp member with ⟨u, there, rfl⟩
    rcases rows u there row among with ⟨t, held, name, inside, _⟩
    have known := valid.statuses t held row inside
    rw [name] at known
    exact known
  · intro t member row among c elsewhere
    rcases List.mem_map.mp member with ⟨u, there, rfl⟩
    rcases rows u there row among with ⟨t, held, _, inside, names⟩
    exact valid.elsewhere t held row inside c fun named => elsewhere (names named)

theorem second_ok (valid : Valid (Migrations.layout contents version))
    (small : version = 1 ∨ version = 2) :
    migrate (Migrations.layout contents version) ⟨2, schemaV2⟩ =
      .ok (Migrations.layout contents 2) ∧ Valid (Migrations.layout contents 2) := by
  have positive : version = 1 ∨ version = 2 ∨ version = 3 := small.imp_right .inl
  have checked := valid.statusChecked small
  have single := (indexesLawful_iff positive).mp valid.lawful.2.1
  rcases @runs_stored contents version small with ⟨_, run⟩
  rcases @attempts_stored contents version positive with ⟨_, attempt⟩
  have runs : (contents "run").map (restrict (runDef "run_v2" [runStatusCheck]).names) =
      contents "run" := valid.kept run rfl
  have attempts : (contents "run_attempt").map
      (restrict (runAttemptDef [attemptStatusCheck]).names) = contents "run_attempt" :=
    valid.kept attempt rfl
  have lawful : ∀ t ∈ (blank 2).tables, t.definition.Lawful (contents t.name) := by
    have untouched := fun t member => valid.lawful.1 _ (untouched_stored positive t member)
    simp only [blank, List.forall_mem_cons, List.not_mem_nil, false_implies, implies_true,
      and_true] at untouched ⊢
    exact ⟨untouched.1, untouched.2.1, untouched.2.2, checked.1, checked.2⟩
  have advanced : Valid (Migrations.layout contents 2) := by
    apply valid.advance (by decide) _ _ lawful
    · exact (indexesLawful_iff (.inr (.inl rfl))).mpr single
    · intro t' member
      right
      revert t'
      rcases small with rfl | rfl <;> decide
    · rcases small with rfl | rfl <;> decide
  refine ⟨?_, advanced⟩
  have same : rebuiltTwice contents version =
      { Migrations.layout contents 2 with userVersion := version } := by
    rw [rebuiltTwice, halfway, Database.rebuilt, Database.rebuilt, runs, attempts]
    rcases small with rfl | rfl
    · rfl
    · rfl
  have ran : execBatch (Migrations.layout contents version) schemaV2 =
      .ok (rebuiltTwice contents version) := by
    rw [schemaV2_eq, execBatch_append _ (runs_rebuilt positive (by rw [runs]; exact checked.1))]
    apply attempts_rebuilt positive
    · rw [attempts]
      exact checked.2
    · rw [attempts]
      exact single
  rw [same] at ran
  exact migrate_ok (m := ⟨2, schemaV2⟩) ran advanced.lawful.2.2

theorem third_ok (valid : Valid (Migrations.layout contents 2)) (none : contents "command" = []) :
    migrate (Migrations.layout contents 2) ⟨3, schemaV3⟩ = .ok (Migrations.layout contents 3) ∧
      Valid (Migrations.layout contents 3) := by
  have single := (indexesLawful_iff (.inr (.inl rfl))).mp valid.lawful.2.1
  have lawful : ∀ t ∈ (blank 3).tables, t.definition.Lawful (contents t.name) := by
    have checked := valid.statusChecked (.inr rfl)
    have untouched := fun t member =>
      valid.lawful.1 _ (untouched_stored (.inr (.inl rfl)) t member)
    have run : runDefV3.Lawful (contents "run") := by
      refine ⟨fun row member => ⟨?_, (checked.1.1 row member).2⟩, checked.1.2⟩
      rw [runDefV3, List.forall_mem_append, List.forall_mem_singleton]
      exact ⟨(checked.1.1 row member).1, fun required => nomatch required⟩
    have command : commandDef.Lawful (contents "command") := by
      rw [none]
      exact ⟨by simp, fun _ _ => List.Pairwise.nil⟩
    simp only [blank, List.forall_mem_cons, List.not_mem_nil, false_implies, implies_true,
      and_true] at untouched ⊢
    exact ⟨untouched.1, untouched.2.1, untouched.2.2, run, checked.2, command⟩
  have advanced : Valid (Migrations.layout contents 3) := by
    apply valid.advance (by decide) _ _ lawful
    · exact (indexesLawful_iff (.inr (.inr rfl))).mpr single
    · have others : ∀ t' ∈ (blank 3).tables, t'.name = "command" ∨
          ∃ t ∈ (blank 2).tables, t.name = t'.name ∧
            t.definition.foreignKeys = t'.definition.foreignKeys ∧
            t.definition.names ⊆ t'.definition.names := by decide
      intro t' member
      rcases others t' member with command | other
      · rw [command]
        exact .inl none
      · exact .inr other
    · decide
  refine ⟨?_, advanced⟩
  have ran : execBatch (Migrations.layout contents 2) schemaV3 =
      .ok { Migrations.layout contents 3 with userVersion := 2 } := by
    have grown : execBatch (Migrations.layout contents 2) schemaV3 =
      .ok { Migrations.layout (Function.update contents "command" []) 3 with userVersion := 2 } := rfl
    rw [grown, ← none, Function.update_eq_self]
  exact migrate_ok (m := ⟨3, schemaV3⟩) ran advanced.lawful.2.2

end Replays

def Keeps (db db' : Database) : Prop :=
  ∀ t ∈ db.tables, ∃ t' ∈ db'.tables, t'.name = t.name ∧
    t.definition.names ⊆ t'.definition.names ∧
    List.Forall₂ (fun row row' => ∀ c ∈ t.definition.names, row' c = row c) t.rows t'.rows

theorem Keeps.refl (db : Database) : Keeps db db := by
  intro t member
  exact ⟨t, member, rfl, List.Subset.refl _, List.forall₂_same.mpr fun _ _ _ _ => rfl⟩

theorem agree_trans {names names' : List String} (within : names ⊆ names')
    {rows rows' rows'' : List Row}
    (first : List.Forall₂ (fun row row' => ∀ c ∈ names, row' c = row c) rows rows')
    (second : List.Forall₂ (fun row row' => ∀ c ∈ names', row' c = row c) rows' rows'') :
    List.Forall₂ (fun row row' => ∀ c ∈ names, row' c = row c) rows rows'' := by
  induction first generalizing rows'' with
  | nil =>
      cases second
      exact .nil
  | cons here _ ih =>
      cases second with
      | cons there rest =>
          refine .cons (fun c among => ?_) (ih rest)
          exact (there c (within among)).trans (here c among)

theorem Keeps.trans {db db' db'' : Database} (first : Keeps db db') (second : Keeps db' db'') :
    Keeps db db'' := by
  intro t member
  rcases first t member with ⟨t', member', name, names, rows⟩
  rcases second t' member' with ⟨t'', member'', name', names', rows'⟩
  exact ⟨t'', member'', name'.trans name, fun c among => names' (names among),
    agree_trans names rows rows'⟩

theorem layout_keeps (contents : String → List Row) {version version' : Nat}
    (kept : ∀ t ∈ (blank version).tables, ∃ t' ∈ (blank version').tables, t'.name = t.name ∧
      t.definition.names ⊆ t'.definition.names) :
    Keeps (layout contents version) (layout contents version') := by
  intro t member
  rcases List.mem_map.mp member with ⟨u, among, rfl⟩
  rcases kept u among with ⟨u', among', name, names⟩
  refine ⟨_, List.mem_map_of_mem among', name, names, ?_⟩
  rw [name]
  exact List.forall₂_same.mpr fun _ _ _ _ => rfl

/-- The second migration is about to run on the third version. -/
def Stale (s : State) (p : Nat) : Prop :=
  s.db.userVersion = 3 ∧ ∃ todo, s.procs p = .running (⟨2, schemaV2⟩ :: todo)

/-- What a process still has to run begins right after a version that the file has reached. -/
def Ordered (s : State) : Prop :=
  ∀ p todo, s.procs p = .running todo → ∃ k ≤ s.db.userVersion, todo = migrations.drop k

/-- A migration that is not stale is harmless: it is the next one, a replay that changes nothing,
or one that fails. -/
theorem migrate_harmless {db : Database} (valid : Valid db) {m : Migration}
    {todo : List Migration} {k : Nat} (reached : k ≤ db.userVersion)
    (next : m :: todo = migrations.drop k) (fresh : ¬ (db.userVersion = 3 ∧ m = ⟨2, schemaV2⟩)) :
    (∃ e, migrate db m = .error e) ∨ ∃ db', migrate db m = .ok db' ∧ Valid db' ∧
      Keeps db db' ∧ k + 1 ≤ db'.userVersion ∧ db.userVersion ≤ db'.userVersion := by
  have few : k < 3 := by
    have length := congrArg List.length next
    rw [List.length_cons, List.length_drop] at length
    have all : migrations.length = 3 := rfl
    omega
  rcases valid.layout with ⟨contents, same⟩
  have known := valid.version
  generalize db.userVersion = version at same reached fresh known
  subst same
  have named : (layout contents version).userVersion = version := (blank_keyed known).1
  have replayed := first_replayed contents known
  rcases version_cases known with rfl | rfl | rfl | rfl
  · obtain rfl : k = 0 := Nat.le_zero.mp reached
    cases next
    refine .inr ⟨_, first_empty contents, first_valid, ?_, le_rfl, Nat.zero_le _⟩
    intro t member
    cases member
  · interval_cases k
    · cases next
      exact .inl (replayed (by decide))
    · cases next
      have ran := second_ok valid (.inl rfl)
      exact .inr ⟨_, ran.1, ran.2, layout_keeps contents (by decide),
        Nat.le_of_ble_eq_true rfl, Nat.le_of_ble_eq_true rfl⟩
  · interval_cases k
    · cases next
      exact .inl (replayed (by decide))
    · cases next
      have ran := second_ok valid (.inr rfl)
      exact .inr ⟨_, ran.1, ran.2, layout_keeps contents (by decide),
        Nat.le_of_ble_eq_true rfl, Nat.le_of_ble_eq_true rfl⟩
    · cases next
      -- The rows of a table that is not there yet do not matter.
      have bare : layout contents 2 = layout (Function.update contents "command" []) 2 := rfl
      rw [bare] at valid ⊢
      have ran := third_ok valid rfl
      exact .inr ⟨_, ran.1, ran.2, layout_keeps _ (by decide), Nat.le_of_ble_eq_true rfl,
        Nat.le_of_ble_eq_true rfl⟩
  · interval_cases k
    · cases next
      exact .inl (replayed (by decide))
    · cases next
      exact absurd ⟨rfl, rfl⟩ fresh
    · cases next
      exact .inl (third_replayed contents)

theorem Ordered.update {s : State} (ordered : Ordered s) {db : Database}
    (grown : s.db.userVersion ≤ db.userVersion) (p : Nat) {proc : Proc}
    (mine : ∀ todo, proc = .running todo → ∃ k ≤ db.userVersion, todo = migrations.drop k) :
    Ordered ⟨db, Function.update s.procs p proc⟩ := by
  intro q todo running
  by_cases same : q = p
  · rw [same] at running
    exact mine todo ((Function.update_self p proc s.procs).symm.trans running)
  · have kept : s.procs q = .running todo :=
      (Function.update_of_ne same proc s.procs).symm.trans running
    rcases ordered q todo kept with ⟨k, reached, rest⟩
    exact ⟨k, reached.trans grown, rest⟩

theorem overwrite_valid {db : Database} (valid : Valid db) (contents : String → List Row) :
    Valid (overwrite contents db) ∧ (overwrite contents db).userVersion = db.userVersion := by
  rw [overwrite]
  split_ifs with fine
  · refine ⟨⟨valid.version, ?_, fine.1, fine.2, ?_⟩, rfl⟩
    · intro expected made
      rw [← valid.schema expected made]
      simp [schemaObjects, overwritten, List.map_map, Function.comp_def]
    · intro t member row among c elsewhere
      rcases List.mem_map.mp member with ⟨u, _, rfl⟩
      rcases List.mem_map.mp among with ⟨given, _, rfl⟩
      exact if_neg elsewhere
  · exact ⟨valid, rfl⟩

theorem pending_eq {version : Nat} (known : version ≤ currentSchemaVersion) :
    pending version = migrations.drop version := by
  rcases version_cases known with rfl | rfl | rfl | rfl <;> rfl

theorem step_harmless {s : State} (valid : Valid s.db) (ordered : Ordered s) {action : Action}
    (fresh : ∀ p, action = .migrate p → ¬ Stale s p) :
    Valid (step s action).db ∧ Ordered (step s action) ∧
      ((∀ contents, action ≠ .write contents) → Keeps s.db (step s action).db) := by
  cases action with
  | read p =>
      rw [step]
      split
      · refine ⟨valid, ordered.update le_rfl p ?_, fun _ => Keeps.refl _⟩
        intro todo running
        rw [start, if_neg (not_lt.mpr valid.version)] at running
        cases running
        exact ⟨_, le_rfl, pending_eq valid.version⟩
      · exact ⟨valid, ordered, fun _ => Keeps.refl _⟩
  | migrate p =>
      rw [step]
      split
      · rename_i m todo running
        rcases ordered p _ running with ⟨k, reached, next⟩
        have unspoiled : ¬ (s.db.userVersion = 3 ∧ m = ⟨2, schemaV2⟩) := by
          intro stale
          apply fresh p rfl
          refine ⟨stale.1, todo, ?_⟩
          rw [← stale.2]
          exact running
        rcases migrate_harmless valid reached next unspoiled with ⟨e, failed⟩ | ⟨db', ran, rest⟩
        · rw [failed]
          refine ⟨valid, ordered.update le_rfl p ?_, fun _ => Keeps.refl _⟩
          intro todo running
          cases running
        · rw [ran]
          refine ⟨rest.1, ordered.update rest.2.2.2 p ?_, fun _ => rest.2.1⟩
          intro todo' running'
          cases running'
          refine ⟨k + 1, rest.2.2.1, ?_⟩
          rw [← List.tail_drop, ← next]
          rfl
      · exact ⟨valid, ordered, fun _ => Keeps.refl _⟩
  | crash p =>
      refine ⟨valid, ordered.update le_rfl p ?_, fun _ => Keeps.refl _⟩
      intro todo running
      cases running
  | write contents =>
      have written := overwrite_valid valid contents
      refine ⟨written.1, ?_, fun none => absurd rfl (none contents)⟩
      intro p todo running
      rw [show (step s (.write contents)).db.userVersion = s.db.userVersion from written.2]
      exact ordered p todo running

theorem apply_eq {db : Database} (known : db.userVersion ≤ currentSchemaVersion) :
    apply db = (migrations.drop db.userVersion).foldlM migrate db := by
  have allowed : refuseIf (currentSchemaVersion < db.userVersion)
      (MigrationError.schemaTooNew db.userVersion currentSchemaVersion) = .ok () :=
    refuseIf_ok_iff.mpr (not_lt.mpr known)
  rw [apply, allowed, ok_bind, pending_eq known]

theorem findObject_named {db : Database} {name : String} (named : name ∈ objectNames db) :
    ∃ object, findObject db name = some object := by
  rw [objectNames, List.mem_mergeSort] at named
  rcases List.mem_map.mp named with ⟨entry, member, same⟩
  apply Option.isSome_iff_exists.mp
  rw [findObject, List.lookup_isSome_iff]
  exact ⟨entry, member, beq_iff_eq.mpr same.symm⟩

theorem validateSchema_layout (contents : String → List Row) :
    validateSchema (layout contents 3) = .ok () := by
  have expected : apply .empty = .ok (blank 3) := by
    rw [apply_eq (by decide)]
    exact @reference_eq 3 le_rfl
  have same : ∀ name, findObject (layout contents 3) name = findObject (blank 3) name := by
    intro name
    rw [findObject, schemaObjects_layout]
    rfl
  have names : objectNames (layout contents 3) = objectNames (blank 3) := by
    rw [objectNames, schemaObjects_layout]
    rfl
  have none : refuseFirst (objectNames (blank 3)) (fun name => findObject (blank 3) name = none)
      MigrationError.unexpectedObject = .ok () := by
    apply refuseFirst_ok_iff.mpr
    intro name named absent
    rcases findObject_named named with ⟨object, found⟩
    rw [found] at absent
    cases absent
  rw [validateSchema, expected, ok_bind, names, none, ok_bind]
  apply forM_ok
  intro name named
  rcases findObject_named named with ⟨object, found⟩
  rw [same, found]
  exact refuseIf_ok_iff.mpr (not_not.mpr rfl)

theorem apply_valid {db : Database} (valid : Valid db) : ∃ final, apply db = .ok final ∧
    final.userVersion = currentSchemaVersion ∧ validateSchema final = .ok () := by
  have third : ∀ {contents}, Valid (layout contents 2) → ∃ final,
      (migrations.drop 2).foldlM migrate (layout contents 2) = .ok (layout final 3) := by
    intro contents valid
    have bare : layout contents 2 = layout (Function.update contents "command" []) 2 := rfl
    rw [bare] at valid ⊢
    have last : migrations.drop 2 = [⟨3, schemaV3⟩] := rfl
    rw [last, List.foldlM_cons, (third_ok valid rfl).1]
    exact ⟨_, rfl⟩
  have second : ∀ {contents}, Valid (layout contents 1) → ∃ final,
      (migrations.drop 1).foldlM migrate (layout contents 1) = .ok (layout final 3) := by
    intro contents valid
    have ran := second_ok valid (.inl rfl)
    have split : migrations.drop 1 = ⟨2, schemaV2⟩ :: migrations.drop 2 := rfl
    rw [split, List.foldlM_cons, ran.1, ok_bind]
    exact third ran.2
  have first : ∀ {contents}, ∃ final,
      (migrations.drop 0).foldlM migrate (layout contents 0) = .ok (layout final 3) := by
    intro contents
    have split : migrations.drop 0 = ⟨1, schemaV1⟩ :: migrations.drop 1 := rfl
    rw [split, List.foldlM_cons, first_empty, ok_bind]
    exact second first_valid
  have reached : ∃ final, apply db = .ok (layout final 3) := by
    rw [apply_eq valid.version]
    have known := valid.version
    rcases valid.layout with ⟨contents, same⟩
    generalize db.userVersion = version at same known ⊢
    subst same
    rcases version_cases known with rfl | rfl | rfl | rfl
    · exact first
    · exact second valid
    · exact third valid
    · exact ⟨contents, rfl⟩
  rcases reached with ⟨final, ran⟩
  exact ⟨_, ran, rfl, validateSchema_layout final⟩

structure MigrationSafe (db : Database) (actions : List Action) : Prop where
  /-- Every committed state has the schema of its version. -/
  schema : ∀ before after, actions = before ++ after → ∃ expected,
    (run (opened db) before).db.userVersion ≤ currentSchemaVersion ∧
    reference (run (opened db) before).db.userVersion = .ok expected ∧
      ∀ name, findObject (run (opened db) before).db name = findObject expected name
  /-- No row and no value is lost while no one writes. -/
  kept : ∀ before between after, actions = before ++ between ++ after →
    (∀ contents, .write contents ∉ between) →
    Keeps (run (opened db) before).db (run (opened db) (before ++ between)).db
  reopens : ∀ before after, actions = before ++ after → ∃ final,
    apply (run (opened db) before).db = .ok final ∧ final.userVersion = currentSchemaVersion ∧
      validateSchema final = .ok ()

theorem run_snoc (s : State) (actions : List Action) (action : Action) :
    run s (actions ++ [action]) = step (run s actions) action := by
  rw [run, List.foldl_append]
  rfl

section Running

variable {db : Database} {actions : List Action}

theorem run_harmless (valid : Valid db)
    (fresh : ∀ before p after, actions = before ++ .migrate p :: after →
      ¬ Stale (run (opened db) before) p) :
    Valid (run (opened db) actions).db ∧ Ordered (run (opened db) actions) := by
  induction actions using List.reverseRecOn with
  | nil =>
      refine ⟨valid, ?_⟩
      intro p todo running
      cases running
  | append_singleton actions action ih =>
      have before := ih fun first p rest split => fresh first p (rest ++ [action]) (by simp [split])
      rw [run_snoc]
      have after := @step_harmless _ before.1 before.2 action fun p same =>
        fresh actions p [] (by rw [same])
      exact ⟨after.1, after.2.1⟩

theorem migrationSafe (valid : Valid db)
    (fresh : ∀ before p after, actions = before ++ .migrate p :: after →
      ¬ Stale (run (opened db) before) p) : MigrationSafe db actions := by
  have held : ∀ before after, actions = before ++ after →
      Valid (run (opened db) before).db ∧ Ordered (run (opened db) before) := by
    intro before after split
    apply run_harmless valid
    intro first p rest same
    exact fresh first p (rest ++ after) (by simp [split, same])
  constructor
  · intro before after split
    have valid := (held before after split).1
    refine ⟨_, valid.version, reference_eq valid.version, ?_⟩
    intro name
    rw [findObject, valid.schema _ (reference_eq valid.version)]
    rfl
  · intro before between after split unwritten
    induction between using List.reverseRecOn generalizing after with
    | nil =>
        rw [List.append_nil]
        exact Keeps.refl _
    | append_singleton between action ih =>
        have here := held (before ++ between) (action :: after) (by simp [split])
        have step := @step_harmless _ here.1 here.2 action fun p same =>
          fresh (before ++ between) p after (by simp [split, same])
        rw [← List.append_assoc, run_snoc]
        apply (ih (action :: after) (by simp [split]) fun contents member =>
          unwritten contents (List.mem_append_left _ member)).trans
        apply step.2.2
        intro contents same
        exact unwritten contents (by simp [same])
  · intro before after split
    exact apply_valid (held before after split).1

end Running

def sideBySide : List Action := [.read 0, .read 1, .migrate 0, .crash 0, .migrate 1, .migrate 1]

def rowOf (values : List (String × Value)) : Row := fun c => (values.lookup c).getD .null

def kept : String → List Row
  | "conversation" => [rowOf [("conversation_id", .text "c1"), ("created_at", .integer 1),
      ("status", .text "open")]]
  | "run" => [rowOf [("run_id", .text "r1"), ("conversation_id", .text "c1"),
        ("agent", .text "claude"), ("role", .text "implementer"), ("status", .text "completed"),
        ("created_at", .integer 2), ("finished_at", .integer 5)],
      rowOf [("run_id", .text "r2"), ("conversation_id", .text "c1"),
        ("parent_run_id", .text "r1"), ("agent", .text "claude"), ("role", .text "implementer"),
        ("status", .text "queued"), ("created_at", .integer 6)]]
  | "run_attempt" => [rowOf [("attempt_id", .text "a1"), ("run_id", .text "r1"),
      ("attempt_number", .integer 1), ("status", .text "completed"), ("started_at", .integer 3),
      ("finished_at", .integer 5)]]
  | "event" => [rowOf [("event_id", .text "e1"), ("conversation_id", .text "c1"),
      ("run_id", .text "r1"), ("attempt_id", .text "a1"), ("sequence", .integer 1),
      ("event_type", .text "run_started"), ("schema_version", .integer 1),
      ("created_at", .integer 4), ("payload_json", .text "null")]]
  | _ => []

def filled : Database := overwritten kept (blank 1)

theorem filled_valid : Valid filled where
  version := by decide
  schema := by
    intro expected made
    cases made
    rfl
  lawful := by decide +kernel
  statuses := by decide +kernel
  elsewhere := by
    intro t member row among c outside
    rcases List.mem_map.mp member with ⟨u, _, rfl⟩
    rcases List.mem_map.mp among with ⟨value, _, rfl⟩
    exact if_neg outside

theorem migrationSafe_sideBySide : MigrationSafe filled sideBySide := by
  apply migrationSafe filled_valid
  intro before p after split stale
  have part : before = sideBySide.take before.length := by rw [split, List.take_left]
  have short : before.length < 6 := by
    have length := congrArg List.length split
    rw [List.length_append, List.length_cons] at length
    have all : sideBySide.length = 6 := rfl
    omega
  have earlier : ∀ k < 6, (run (opened filled) (sideBySide.take k)).db.userVersion ≠ 3 := by
    decide +kernel
  apply earlier before.length short
  rw [← part]
  exact stale.1

/-- Two processes read the first version; one of them runs both migrations before the other. -/
def overtaken : List Action := [.read 0, .read 1, .migrate 1, .migrate 1, .migrate 0]

theorem overtaken_unsafe : Valid (blank 1) ∧ ¬ MigrationSafe (blank 1) overtaken := by
  refine ⟨first_valid, fun safe => ?_⟩
  rcases safe.schema overtaken [] rfl with ⟨expected, _, made, objects⟩
  have version : (run (opened (blank 1)) overtaken).db.userVersion = 2 := rfl
  rw [version, reference_eq (by decide)] at made
  cases made
  have command := objects "command"
  revert command
  decide +kernel

end O7Formal.Ledger.Migrations
