import O7Formal.Lib.Fallible
import O7Formal.Lib.Table

/-! Relational tables with constraints, and the statements that define and rebuild them. Foreign
keys are not enforced statement by statement here but checked over a whole database. -/

namespace O7Formal.Sql

open Fallible Table

inductive Value where
  | null
  | integer (n : Int)
  | text (s : String)
  deriving DecidableEq, Repr

abbrev Row := String → Value

def restrict (columns : List String) (row : Row) : Row := fun c =>
  if c ∈ columns then row c else .null

structure Column where
  name : String
  declaredType : String
  notNull : Bool
  deriving DecidableEq, Repr

inductive Check where
  /-- `column IN (..)` -/
  | isIn (column : String) (values : List String)
  /-- `column IS NULL OR other IS NOT NULL` -/
  | nullUnless (column other : String)
  deriving DecidableEq, Repr

/-- A check fails only if it is false; of a null column the first is unknown. -/
def Check.Holds (row : Row) : Check → Prop
  | .isIn column values => row column = .null ∨ ∃ v ∈ values, row column = .text v
  | .nullUnless column other => row column = .null ∨ row other ≠ .null

structure ForeignKey where
  columns : List String
  parent : String
  parentColumns : List String
  deriving DecidableEq, Repr

structure TableDef where
  columns : List Column
  primaryKey : List String
  uniques : List (List String)
  checks : List Check
  foreignKeys : List ForeignKey
  deriving DecidableEq, Repr

def TableDef.names (d : TableDef) : List String := d.columns.map Column.name

structure StoredTable where
  name : String
  definition : TableDef
  rows : List Row

/-- `CREATE [UNIQUE] INDEX name ON table(columns) [WHERE column = 'text']` -/
structure Index where
  name : String
  table : String
  columns : List String
  unique : Bool
  filter : Option (String × String)
  deriving DecidableEq, Repr

structure Database where
  userVersion : Nat
  tables : List StoredTable
  indexes : List Index

def Database.empty : Database := ⟨0, [], []⟩

def Distinct (key : List String) (rows : List Row) : Prop :=
  rows.Pairwise fun r q => (∃ c ∈ key, r c = .null) ∨ key.map r ≠ key.map q

def TableDef.Fits (d : TableDef) (row : Row) : Prop :=
  (∀ c ∈ d.columns, c.notNull = true → row c.name ≠ .null) ∧ ∀ check ∈ d.checks, check.Holds row

def TableDef.Lawful (d : TableDef) (rows : List Row) : Prop :=
  (∀ row ∈ rows, d.Fits row) ∧ ∀ key ∈ d.primaryKey :: d.uniques, Distinct key rows

def Index.covers (i : Index) (row : Row) : Bool :=
  i.filter.all fun f => decide (row f.1 = .text f.2)

def Index.Lawful (i : Index) (rows : List Row) : Prop :=
  i.unique = true → Distinct i.columns (rows.filter i.covers)

def Database.Refers (db : Database) (key : ForeignKey) (row : Row) : Prop :=
  (∃ c ∈ key.columns, row c = .null) ∨
    ∃ t ∈ db.tables, t.name = key.parent ∧
      ∃ q ∈ t.rows, key.parentColumns.map q = key.columns.map row

instance (row : Row) : (check : Check) → Decidable (check.Holds row)
  | .isIn _ _ => inferInstanceAs (Decidable (_ ∨ _))
  | .nullUnless _ _ => inferInstanceAs (Decidable (_ ∨ _))

instance (key : List String) (rows : List Row) : Decidable (Distinct key rows) :=
  inferInstanceAs (Decidable (List.Pairwise _ _))

instance (d : TableDef) (row : Row) : Decidable (d.Fits row) :=
  inferInstanceAs (Decidable (_ ∧ _))

instance (d : TableDef) (rows : List Row) : Decidable (d.Lawful rows) :=
  inferInstanceAs (Decidable (_ ∧ _))

instance (i : Index) (rows : List Row) : Decidable (i.Lawful rows) :=
  inferInstanceAs (Decidable (_ → _))

instance (db : Database) (key : ForeignKey) (row : Row) : Decidable (db.Refers key row) :=
  inferInstanceAs (Decidable (_ ∨ _))

/-- `PRAGMA foreign_key_check`: the table of every dangling reference. -/
def Database.foreignKeyCheck (db : Database) : List String :=
  db.tables.flatMap fun t => t.definition.foreignKeys.flatMap fun key =>
    (t.rows.filter fun row => decide (¬ db.Refers key row)).map fun _ => t.name

def Database.IndexesLawful (db : Database) : Prop :=
  ∀ i ∈ db.indexes, ∀ t ∈ db.tables, t.name = i.table → i.Lawful t.rows

instance (db : Database) : Decidable db.IndexesLawful :=
  inferInstanceAs (Decidable (∀ i ∈ db.indexes, ∀ t ∈ db.tables, t.name = i.table →
    i.Lawful t.rows))

def Database.Lawful (db : Database) : Prop :=
  (∀ t ∈ db.tables, t.definition.Lawful t.rows) ∧ db.IndexesLawful ∧ db.foreignKeyCheck = []

instance (db : Database) : Decidable db.Lawful := inferInstanceAs (Decidable (_ ∧ _))

inductive SqlError where
  | nameTaken (name : String)
  | noSuchTable (name : String)
  | noSuchColumn (table : String)
  | duplicateColumn (name : String)
  | constraint (table : String)
  deriving DecidableEq, Repr

inductive Statement where
  | createTable (name : String) (definition : TableDef)
  /-- `INSERT INTO table (columns) SELECT columns FROM source` -/
  | insertSelect (table : String) (columns : List String) (source : String)
  | dropTable (name : String)
  | renameTable (name newName : String)
  | createIndex (index : Index)
  /-- `ALTER TABLE table ADD COLUMN column` -/
  | addColumn (table : String) (column : Column)

def Database.table (db : Database) (name : String) : Option StoredTable :=
  lookup StoredTable.name name db.tables

def Database.Taken (db : Database) (name : String) : Prop :=
  name ∈ db.tables.map StoredTable.name ∨ name ∈ db.indexes.map Index.name

instance (db : Database) (name : String) : Decidable (db.Taken name) :=
  inferInstanceAs (Decidable (_ ∨ _))

def renamed (name newName given : String) : String := if given = name then newName else given

def TableDef.retarget (name newName : String) (d : TableDef) : TableDef :=
  { d with foreignKeys := d.foreignKeys.map fun key =>
      { key with parent := renamed name newName key.parent } }

def exec (db : Database) : Statement → Except SqlError Database
  | .createTable name definition => do
      refuseIf (db.Taken name) (.nameTaken name)
      return { db with tables := db.tables ++ [⟨name, definition, []⟩] }
  | .insertSelect name columns source => do
      let t ← okOr (db.table name) (.noSuchTable name)
      let u ← okOr (db.table source) (.noSuchTable source)
      refuseIf (¬ columns ⊆ t.definition.names) (.noSuchColumn name)
      refuseIf (¬ columns ⊆ u.definition.names) (.noSuchColumn source)
      let rows := t.rows ++ u.rows.map (restrict columns)
      refuseIf (¬ t.definition.Lawful rows) (.constraint name)
      refuseIf (¬ ∀ i ∈ db.indexes, i.table = name → i.Lawful rows) (.constraint name)
      return { db with
        tables := update (fun t => decide (t.name = name)) ({ · with rows := rows }) db.tables }
  | .dropTable name => do
      refuseIf (db.table name).isNone (.noSuchTable name)
      return { db with
        tables := db.tables.filter fun t => decide (t.name ≠ name)
        indexes := db.indexes.filter fun i => decide (i.table ≠ name) }
  | .renameTable name newName => do
      refuseIf (db.table name).isNone (.noSuchTable name)
      refuseIf (db.Taken newName) (.nameTaken newName)
      return { db with
        tables := db.tables.map fun t =>
          ⟨renamed name newName t.name, t.definition.retarget name newName, t.rows⟩
        indexes := db.indexes.map fun i => { i with table := renamed name newName i.table } }
  | .createIndex index => do
      refuseIf (db.Taken index.name) (.nameTaken index.name)
      let t ← okOr (db.table index.table) (.noSuchTable index.table)
      refuseIf (¬ index.columns ⊆ t.definition.names) (.noSuchColumn index.table)
      refuseIf (¬ index.Lawful t.rows) (.constraint index.table)
      return { db with indexes := db.indexes ++ [index] }
  | .addColumn name column => do
      let t ← okOr (db.table name) (.noSuchTable name)
      refuseIf (column.name ∈ t.definition.names) (.duplicateColumn column.name)
      return { db with
        tables := update (fun t => decide (t.name = name)) (fun t => { t with
          definition := { t.definition with columns := t.definition.columns ++ [column] } })
          db.tables }

def execBatch (db : Database) (statements : List Statement) : Except SqlError Database :=
  statements.foldlM exec db

theorem restrict_eq {columns : List String} {row : Row}
    (elsewhere : ∀ c, c ∉ columns → row c = .null) : restrict columns row = row := by
  funext c
  rw [restrict]
  split_ifs with among
  · rfl
  · exact (elsewhere c among).symm

theorem map_restrict {columns : List String} {rows : List Row}
    (elsewhere : ∀ row ∈ rows, ∀ c, c ∉ columns → row c = .null) :
    rows.map (restrict columns) = rows := by
  rw [List.map_congr_left fun row member => restrict_eq (elsewhere row member), List.map_id']

theorem TableDef.Lawful.checked {d d' : TableDef} {rows : List Row} (lawful : d.Lawful rows)
    (columns : d'.columns = d.columns) (primaryKey : d'.primaryKey = d.primaryKey)
    (uniques : d'.uniques = d.uniques)
    (checks : ∀ row ∈ rows, ∀ check ∈ d'.checks, check.Holds row) : d'.Lawful rows := by
  constructor
  · intro row member
    refine ⟨?_, checks row member⟩
    rw [columns]
    exact (lawful.1 row member).1
  · rw [primaryKey, uniques]
    exact lawful.2

theorem foreignKeyCheck_nil_iff {db : Database} : db.foreignKeyCheck = [] ↔
    ∀ t ∈ db.tables, ∀ key ∈ t.definition.foreignKeys, ∀ row ∈ t.rows, db.Refers key row := by
  simp [Database.foreignKeyCheck]

theorem foreignKeyCheck_same {db db' : Database} (clean : db.foreignKeyCheck = [])
    (origin : ∀ t' ∈ db'.tables, t'.rows = [] ∨ ∃ t ∈ db.tables, t.rows = t'.rows ∧
      t.definition.foreignKeys = t'.definition.foreignKeys)
    (kept : ∀ t ∈ db.tables, ∃ t' ∈ db'.tables, t'.name = t.name ∧ t'.rows = t.rows) :
    db'.foreignKeyCheck = [] := by
  rw [foreignKeyCheck_nil_iff] at clean ⊢
  intro t' member key among row inside
  rcases origin t' member with none | ⟨t, there, rows, keys⟩
  · rw [none] at inside
    cases inside
  · rw [← keys] at among
    rw [← rows] at inside
    rcases clean t there key among row inside with null | ⟨p, parent, name, q, found, same⟩
    · exact .inl null
    · rcases kept p parent with ⟨p', parent', name', rows'⟩
      rw [← rows'] at found
      exact .inr ⟨p', parent', name'.trans name, q, found, same⟩

theorem execBatch_cons {db db' : Database} {statement : Statement} (statements : List Statement)
    (ok : exec db statement = .ok db') :
    execBatch db (statement :: statements) = execBatch db' statements := by
  rw [execBatch, List.foldlM_cons, ok]
  rfl

theorem execBatch_append {db db' : Database} {first : List Statement} (second : List Statement)
    (ok : execBatch db first = .ok db') :
    execBatch db (first ++ second) = execBatch db' second := by
  rw [execBatch, List.foldlM_append, ← execBatch, ok]
  rfl

def Database.adding (db : Database) (t : StoredTable) : Database :=
  { db with tables := db.tables ++ [t] }

def Database.without (db : Database) (name : String) : Database :=
  { db with
    tables := db.tables.filter fun t => decide (t.name ≠ name)
    indexes := db.indexes.filter fun i => decide (i.table ≠ name) }

def Database.indexing (db : Database) (index : Index) : Database :=
  { db with indexes := db.indexes ++ [index] }

def Database.Mentions (db : Database) (name : String) : Prop :=
  db.Taken name ∨ (∃ i ∈ db.indexes, i.table = name) ∨
    ∃ t ∈ db.tables, ∃ key ∈ t.definition.foreignKeys, key.parent = name

instance (db : Database) (name : String) : Decidable (db.Mentions name) :=
  inferInstanceAs (Decidable (_ ∨ _ ∨ _))

section Rebuilding

variable {db : Database} {name fresh : String} {t : StoredTable} {d : TableDef} {rows : List Row}
  {index : Index}

theorem exec_createTable (free : ¬ db.Taken name) :
    exec db (.createTable name d) = .ok (db.adding ⟨name, d, []⟩) := by
  simp only [exec, bind_ok_iff, refuseIf_ok_iff, pure_ok_iff]
  exact ⟨(), free, rfl⟩

theorem table_adding (absent : ∀ u ∈ db.tables, u.name ≠ name) :
    (db.adding ⟨name, d, rows⟩).table name = some ⟨name, d, rows⟩ := by
  rw [Database.table, Database.adding, lookup_append, lookup_none_iff.mpr absent]
  simp

theorem table_adding_other (found : db.table name = some t) (u : StoredTable) :
    (db.adding u).table name = some t :=
  lookup_grown (List.prefix_append _ _) found

theorem not_mentioned (unused : ¬ db.Mentions fresh) : ∀ u ∈ db.tables, u.name ≠ fresh := by
  intro u member same
  apply unused
  rw [← same]
  exact .inl (.inl (List.mem_map_of_mem member))

theorem exec_copy (unused : ¬ db.Mentions fresh) (found : db.table name = some t)
    (known : d.names ⊆ t.definition.names) (lawful : d.Lawful (t.rows.map (restrict d.names))) :
    exec (db.adding ⟨fresh, d, []⟩) (.insertSelect fresh d.names name) =
      .ok (db.adding ⟨fresh, d, t.rows.map (restrict d.names)⟩) := by
  have absent := not_mentioned unused
  simp only [exec, bind_ok_iff, refuseIf_ok_iff, okOr_ok_iff, pure_ok_iff, not_not]
  refine ⟨⟨fresh, d, []⟩, table_adding absent, t, table_adding_other found _, (),
    List.Subset.refl _, (), known, (), lawful, (), ?_, ?_⟩
  · intro i member same
    exact absurd (.inr (.inl ⟨i, member, same⟩)) unused
  · rw [Database.adding, Database.adding, update, List.map_append, ← update,
      update_none fun u member => decide_eq_false (absent u member)]
    simp

theorem exec_drop (found : db.table name = some t) (other : fresh ≠ name) :
    exec (db.adding ⟨fresh, d, rows⟩) (.dropTable name) =
      .ok ((db.without name).adding ⟨fresh, d, rows⟩) := by
  simp only [exec, bind_ok_iff, refuseIf_ok_iff, pure_ok_iff, table_adding_other found]
  refine ⟨(), by simp, ?_⟩
  simp [Database.adding, Database.without, List.filter_append, other]

theorem retarget_unmentioned (unused : ¬ db.Mentions fresh) {u : StoredTable}
    (member : u ∈ db.tables) :
    (⟨renamed fresh name u.name, u.definition.retarget fresh name, u.rows⟩ : StoredTable) = u := by
  have keys : ∀ key ∈ u.definition.foreignKeys,
      { key with parent := renamed fresh name key.parent } = key := by
    intro key among
    have elsewhere : key.parent ≠ fresh := fun same =>
      unused (.inr (.inr ⟨u, member, key, among, same⟩))
    rw [renamed, if_neg elsewhere]
  rw [renamed, if_neg (not_mentioned unused u member), TableDef.retarget,
    List.map_congr_left keys, List.map_id']

theorem exec_rename (unused : ¬ db.Mentions fresh) (free : ¬ db.Taken name)
    (other : fresh ≠ name) :
    exec (db.adding ⟨fresh, d, rows⟩) (.renameTable fresh name) =
      .ok (db.adding ⟨name, d.retarget fresh name, rows⟩) := by
  simp only [exec, bind_ok_iff, refuseIf_ok_iff, pure_ok_iff,
    table_adding (not_mentioned unused)]
  refine ⟨(), by simp, (), ?_, ?_⟩
  · simp only [Database.Taken, Database.adding, List.map_append, List.mem_append, not_or] at free ⊢
    exact ⟨⟨free.1, by simpa using other.symm⟩, free.2⟩
  · have tables : db.tables.map (fun u => (⟨renamed fresh name u.name,
        u.definition.retarget fresh name, u.rows⟩ : StoredTable)) = db.tables := by
      rw [List.map_congr_left fun u member => retarget_unmentioned unused member, List.map_id']
    have indexes : db.indexes.map (fun i => { i with table := renamed fresh name i.table }) =
        db.indexes := by
      have each : ∀ i ∈ db.indexes, { i with table := renamed fresh name i.table } = i := by
        intro i member
        have elsewhere : i.table ≠ fresh := fun same => unused (.inr (.inl ⟨i, member, same⟩))
        rw [renamed, if_neg elsewhere]
      rw [List.map_congr_left each, List.map_id']
    simp only [Database.adding, List.map_append, List.map_singleton, tables, indexes]
    rw [renamed, if_pos rfl]

theorem exec_createIndex (free : ¬ db.Taken index.name) (found : db.table index.table = some t)
    (columns : index.columns ⊆ t.definition.names) (lawful : index.Lawful t.rows) :
    exec db (.createIndex index) = .ok (db.indexing index) := by
  simp only [exec, bind_ok_iff, refuseIf_ok_iff, okOr_ok_iff, pure_ok_iff, not_not]
  exact ⟨(), free, t, found, (), columns, (), lawful, rfl⟩

theorem without_unmentioned (unused : ¬ db.Mentions fresh) : ¬ (db.without name).Mentions fresh := by
  intro mentioned
  apply unused
  have tables : (db.without name).tables ⊆ db.tables := fun _ => List.mem_of_mem_filter
  have indexes : (db.without name).indexes ⊆ db.indexes := fun _ => List.mem_of_mem_filter
  rcases mentioned with (table | index) | ⟨i, member, on⟩ | ⟨u, member, uses⟩
  · exact .inl (.inl (List.map_subset _ tables table))
  · exact .inl (.inr (List.map_subset _ indexes index))
  · exact .inr (.inl ⟨i, indexes member, on⟩)
  · exact .inr (.inr ⟨u, tables member, uses⟩)

def rebuild (name fresh : String) (d : TableDef) (index : Index) : List Statement :=
  [.createTable fresh d, .insertSelect fresh d.names name, .dropTable name,
    .renameTable fresh name, .createIndex index]

def Database.rebuilt (db : Database) (name fresh : String) (d : TableDef) (rows : List Row) :
    Database :=
  (db.without name).adding ⟨name, d.retarget fresh name, rows.map (restrict d.names)⟩

theorem execBatch_rebuild (found : db.table name = some t) (unused : ¬ db.Mentions fresh)
    (known : d.names ⊆ t.definition.names) (lawful : d.Lawful (t.rows.map (restrict d.names)))
    (free : ¬ (db.without name).Taken name)
    (indexFree : ¬ (db.rebuilt name fresh d t.rows).Taken index.name)
    (on : index.table = name) (columns : index.columns ⊆ d.names)
    (single : index.Lawful (t.rows.map (restrict d.names))) :
    execBatch db (rebuild name fresh d index) =
      .ok ((db.rebuilt name fresh d t.rows).indexing index) := by
  have there := lookup_mem found
  have other : fresh ≠ name := by
    intro same
    exact not_mentioned unused t there.1 (there.2.trans same.symm)
  have absent : ∀ u ∈ (db.without name).tables, u.name ≠ name := by
    intro u member
    simpa using (List.mem_filter.mp member).2
  rw [rebuild, execBatch_cons _ (exec_createTable fun taken => unused (.inl taken)),
    execBatch_cons _ (exec_copy unused found known lawful),
    execBatch_cons _ (exec_drop found other),
    execBatch_cons _ (exec_rename (without_unmentioned unused) free other)]
  have indexed := @exec_createIndex (db.rebuilt name fresh d t.rows)
    ⟨name, d.retarget fresh name, t.rows.map (restrict d.names)⟩ index indexFree
    (by rw [on]; exact table_adding absent) columns single
  exact (execBatch_cons _ indexed).trans rfl

end Rebuilding

end O7Formal.Sql
