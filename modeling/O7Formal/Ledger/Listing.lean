import O7Formal.Ledger.Clock
import O7Formal.Lib.Keyset

/-! The listings of conversations and runs, newest first and a page at a time: reading on until an
empty page returns every row that matched at the first call, once. -/

namespace O7Formal.Ledger

open Keyset
open O7Formal.Run (Sha256 standardSha256)

/-- A position in the order of `(created_at, rowid)`. -/
structure ListCursor where
  createdAt : Millis
  tiebreak : Int
  deriving DecidableEq, Repr

structure Page (α : Type) where
  items : List α
  nextBefore : Option ListCursor
  deriving DecidableEq, Repr

def maxListLimit : Nat := 200

section Rows

variable {α : Type} (createdAt : α → Millis)

/-- The rows with their `rowid`s: they are appended, and never deleted. -/
def numbered (rows : List α) : List (α × Nat) := rows.zipIdx 1

/-- `created_at < ? OR (created_at = ? AND rowid < ?)`; without a cursor there is no condition. -/
def isBefore (before : Option ListCursor) (row : α × Nat) : Bool :=
  match before with
  | none => true
  | some c => decide (createdAt row.1 < c.createdAt) ||
      decide (createdAt row.1 = c.createdAt) && decide ((row.2 : Int) < c.tiebreak)

/-- `ORDER BY created_at DESC, rowid DESC` -/
def inOrder (a b : α × Nat) : Bool :=
  decide (createdAt b.1 < createdAt a.1) ||
    decide (createdAt b.1 = createdAt a.1) && decide (b.2 ≤ a.2)

def listRows (selects : α → Bool) (before : Option ListCursor) (limit : Nat) (rows : List α) :
    Page α :=
  let capped := min limit maxListLimit
  let found := (((numbered rows).filter fun row =>
    selects row.1 && isBefore createdAt before row).mergeSort (inOrder createdAt)).take capped
  ⟨found.map Prod.fst, found.getLast?.map fun row => ⟨createdAt row.1, row.2⟩⟩

end Rows

def listConversations (before : Option ListCursor) (limit : Nat) (s : Tables) :
    Page Conversation :=
  listRows Conversation.createdAt (fun _ => true) before limit s.conversations

/-- The conditions on the conversation and the status, each left out without its argument. -/
def selectsRun (conversationId : Option ConversationId) (statuses : Option (List RunStatus))
    (r : Run) : Bool :=
  decide (∀ id ∈ conversationId, r.conversationId = id) &&
    decide (∀ listed ∈ statuses, r.status ∈ listed)

def listRuns (conversationId : Option ConversationId) (statuses : Option (List RunStatus))
    (before : Option ListCursor) (limit : Nat) (s : Tables) : Page Run :=
  listRows Run.createdAt (selectsRun conversationId statuses) before limit s.runs

section Pages

variable {α : Type}

/-- The items of the pages, each call with the `next_before` of the one before it, until a page is
empty. The `n`-th call finds `tables n`. -/
def pages (list : Option ListCursor → Tables → Page α) (tables : Nat → Tables) :
    Nat → Nat → Option ListCursor → Option (List α)
  | 0, _, _ => none
  | fuel + 1, n, before =>
      let page := list before (tables n)
      if page.items.isEmpty then some []
      else (pages list tables fuel (n + 1) page.nextBefore).map fun later => page.items ++ later

variable (createdAt : α → Millis)

def Newer (a b : α × Nat) : Prop :=
  createdAt b.1 < createdAt a.1 ∨ createdAt b.1 = createdAt a.1 ∧ b.2 < a.2

def ListsAll (list : Option ListCursor → Tables → Page α) (tables : Nat → Tables)
    (rows : List (α × Nat)) : Prop :=
  ∃ sorted : List (α × Nat), sorted.Perm rows ∧ sorted.Pairwise (Newer createdAt) ∧
    ∀ fuel, rows.length < fuel → pages list tables fuel 0 none = some (sorted.map Prod.fst)

def Appended (rows rows' : List α) : Prop :=
  ∃ more, rows' = rows ++ more ∧ ∀ r ∈ more, ∀ q ∈ rows, createdAt q ≤ createdAt r

theorem Appended.refl (rows : List α) : Appended createdAt rows rows :=
  ⟨[], (List.append_nil rows).symm, nofun⟩

variable {createdAt}

theorem Appended.trans {rows rows' rows'' : List α} (first : Appended createdAt rows rows')
    (second : Appended createdAt rows' rows'') : Appended createdAt rows rows'' := by
  rcases first with ⟨more, rfl, above⟩
  rcases second with ⟨later, rfl, beyond⟩
  refine ⟨more ++ later, List.append_assoc _ _ _, ?_⟩
  intro r member q here
  rcases List.mem_append.mp member with early | late
  · exact above r early q here
  · exact beyond r late q (List.mem_append_left _ here)

variable (createdAt) in
def rowKey (row : α × Nat) : Lex (Int × Int) := toLex (createdAt row.1, (row.2 : Int))

def ListCursor.key (c : ListCursor) : Lex (Int × Int) := toLex (c.createdAt, c.tiebreak)

theorem isBefore_eq (before : Option ListCursor) (row : α × Nat) : isBefore createdAt before row =
    decide (∀ k ∈ before.map ListCursor.key, rowKey createdAt row < k) := by
  cases before with
  | none => simp [isBefore]
  | some c => simp [isBefore, rowKey, ListCursor.key, Prod.Lex.toLex_lt_toLex]

theorem inOrder_eq :
    inOrder createdAt = fun a b => decide (rowKey createdAt b ≤ rowKey createdAt a) := by
  funext a b
  simp [inOrder, rowKey, Prod.Lex.toLex_le_toLex]

theorem newer_iff {a b : α × Nat} :
    Newer createdAt a b ↔ rowKey createdAt b < rowKey createdAt a := by
  simp [Newer, rowKey, Prod.Lex.toLex_lt_toLex]

def selected (selects : α → Bool) (rows : List α) : List (α × Nat) :=
  (numbered rows).filter fun row => selects row.1

variable {selects : α → Bool} {limit : Nat}

variable (createdAt selects limit) in
theorem listRows_eq (before : Option ListCursor) (rows : List α) :
    (listRows createdAt selects before limit rows).items =
        (page (rowKey createdAt) (before.map ListCursor.key) (min limit maxListLimit)
          (selected selects rows)).map Prod.fst ∧
      (listRows createdAt selects before limit rows).nextBefore.map ListCursor.key =
        cursor (rowKey createdAt) (page (rowKey createdAt) (before.map ListCursor.key)
          (min limit maxListLimit) (selected selects rows)) := by
  have found : ((numbered rows).filter fun row =>
      selects row.1 && isBefore createdAt before row).mergeSort (inOrder createdAt) =
      newestFirst (rowKey createdAt) (beyond (rowKey createdAt) (before.map ListCursor.key)
        (selected selects rows)) := by
    simp only [newestFirst, beyond, selected, List.filter_filter, isBefore_eq, inOrder_eq,
      Bool.and_comm]
  constructor
  · simp only [listRows, found, page]
  · simp only [listRows, found, page, cursor, Option.map_map]
    rfl

theorem pages_eq (rows : Tables → List α) (tables : Nat → Tables) (fuel n : Nat)
    (before : Option ListCursor) :
    pages (fun before s => listRows createdAt selects before limit (rows s)) tables fuel n before =
      (walk (rowKey createdAt) (min limit maxListLimit)
        (fun n => selected selects (rows (tables n))) fuel n (before.map ListCursor.key)).map
          (List.map Prod.fst) := by
  induction fuel generalizing n before with
  | zero => rfl
  | succ fuel ih =>
      have here := listRows_eq createdAt selects limit before (rows (tables n))
      rw [pages, walk]
      simp only [ih, here.1, here.2, List.isEmpty_map]
      split_ifs
      · rfl
      · simp only [Option.map_map]
        congr 1
        funext later
        exact List.map_append.symm

variable (createdAt selects) in
theorem selected_distinct (rows : List α) :
    ((selected selects rows).map (rowKey createdAt)).Nodup := by
  have ids : ((numbered rows).map Prod.snd).Nodup := by
    rw [numbered, List.zipIdx_map_snd]
    exact List.nodup_range'
  apply List.Nodup.sublist (List.filter_sublist.map _)
  rw [List.Nodup, List.pairwise_map] at ids ⊢
  apply ids.imp
  intro a b differ same
  apply differ
  exact Int.ofNat.inj (congrArg (fun k => (ofLex k).2) same)

variable (selects) in
theorem selected_appended {rows rows' : List α} (appended : Appended createdAt rows rows') :
    ∃ newer, selected selects rows' = selected selects rows ++ newer ∧
      ∀ r ∈ newer, ∀ q ∈ selected selects rows, rowKey createdAt q < rowKey createdAt r := by
  rcases appended with ⟨more, rfl, above⟩
  refine ⟨(more.zipIdx (1 + rows.length)).filter fun row => selects row.1, ?_, ?_⟩
  · rw [selected, numbered, List.zipIdx_append, List.filter_append]
    rfl
  · intro r member q here
    rcases List.mem_zipIdx (List.mem_of_mem_filter member) with ⟨afterR, _, valueR⟩
    rcases List.mem_zipIdx (List.mem_of_mem_filter here) with ⟨_, beforeQ, valueQ⟩
    have time : createdAt q.1 ≤ createdAt r.1 := by
      apply above r.1 _ q.1
      · rw [valueQ]
        exact List.getElem_mem _
      · rw [valueR]
        exact List.getElem_mem _
    have number : q.2 < r.2 := by omega
    rw [← newer_iff]
    rcases lt_or_eq_of_le time with earlier | same
    · exact .inl earlier
    · exact .inr ⟨same, number⟩

theorem listRows_all (rows : Tables → List α) {tables : Nat → Tables} (positive : 0 < limit)
    (appended : ∀ n, Appended createdAt (rows (tables n)) (rows (tables (n + 1)))) :
    ListsAll createdAt (fun before s => listRows createdAt selects before limit (rows s)) tables
      (selected selects (rows (tables 0))) := by
  have grown : ∀ n, Appended createdAt (rows (tables 0)) (rows (tables n)) := by
    intro n
    induction n with
    | zero => exact Appended.refl createdAt _
    | succ n ih => exact ih.trans (appended n)
  have perm := newestFirst_perm (rowKey createdAt) (selected selects (rows (tables 0)))
  have strict := newestFirst_descending (selected_distinct createdAt selects (rows (tables 0)))
  refine ⟨_, perm, strict.imp newer_iff.mpr, ?_⟩
  intro fuel enough
  rw [pages_eq rows]
  have bounded : 0 < min limit maxListLimit := by
    rw [maxListLimit]
    omega
  have added : ∀ n, ∃ newer, (selected selects (rows (tables n))).Perm
      (newestFirst (rowKey createdAt) (selected selects (rows (tables 0))) ++ newer) ∧
      ∀ r ∈ newer, ∀ q ∈ newestFirst (rowKey createdAt) (selected selects (rows (tables 0))),
        rowKey createdAt q < rowKey createdAt r := by
    intro n
    rcases selected_appended selects (grown n) with ⟨newer, same, above⟩
    refine ⟨newer, ?_, ?_⟩
    · rw [same]
      exact perm.symm.append_right newer
    · intro r member q here
      exact above r member q (perm.mem_iff.mp here)
  have all := walk_all bounded strict added (by rwa [perm.length_eq]) perm.symm
  rw [Option.map_none, all]
  rfl

end Pages

/-- Between the calls, runs and conversations are only inserted, under a clock that does not
decrease. -/
structure Inserting (tables : Nat → Tables) : Prop where
  runs : ∀ n, Appended Run.createdAt (tables n).runs (tables (n + 1)).runs
  conversations :
    ∀ n, Appended Conversation.createdAt (tables n).conversations (tables (n + 1)).conversations

/-- Whatever is inserted meanwhile, the pages of a listing are the rows that matched at the first
call, newest first, each once. -/
theorem listings_complete {tables : Nat → Tables} (inserting : Inserting tables) {limit : Nat}
    (positive : 1 ≤ limit) (conversationId : Option ConversationId)
    (statuses : Option (List RunStatus)) :
    ListsAll Run.createdAt
        (fun before => listRuns conversationId statuses before limit) tables
        ((numbered (tables 0).runs).filter fun row => selectsRun conversationId statuses row.1) ∧
      ListsAll Conversation.createdAt (fun before => listConversations before limit) tables
        (numbered (tables 0).conversations) := by
  constructor
  · exact listRows_all Tables.runs positive inserting.runs
  · have every : selected (fun _ => true) (tables 0).conversations =
        numbered (tables 0).conversations := List.filter_eq_self.mpr (by simp)
    rw [← every]
    exact listRows_all Tables.conversations positive inserting.conversations

theorem steady_appended {sha256 : Sha256} {serde : Serde} (ops later : List Op)
    (steady : Steady (ops ++ later)) (more : List Run)
    (inserted : (run sha256 serde .empty (ops ++ later)).runs =
      (run sha256 serde .empty ops).runs ++ more) :
    Appended Run.createdAt (run sha256 serde .empty ops).runs
      (run sha256 serde .empty (ops ++ later)).runs := by
  refine ⟨more, inserted, ?_⟩
  have sorted : (created (run sha256 serde .empty (ops ++ later))).Pairwise (· ≤ ·) :=
    created_sorted steady
  rw [created, inserted, List.map_append, List.pairwise_append] at sorted
  intro r member q here
  exact sorted.2.2 _ (List.mem_map_of_mem here) _ (List.mem_map_of_mem member)

def oneMore : List Op :=
  [.createConversation none "v" ⟨1, "e1"⟩,
    .createRun ⟨"v", none, "agent", "role"⟩ none "r" ⟨2, "e2"⟩,
    .createRun ⟨"v", none, "agent", "role"⟩ none "q" ⟨2, "e3"⟩]

theorem listings_complete_oneMore : ListsAll Run.createdAt
    (fun before => listRuns (some "v") (some [.queued]) before 1)
    (fun n => run standardSha256 printedSerde .empty (if n = 0 then oneMore.take 2 else oneMore))
    ((numbered (run standardSha256 printedSerde .empty (oneMore.take 2)).runs).filter fun row =>
      selectsRun (some "v") (some [.queued]) row.1) := by
  apply (listings_complete _ le_rfl (some "v") (some [.queued])).1
  constructor
  · intro n
    cases n with
    | zero =>
        exact steady_appended (oneMore.take 2) (oneMore.drop 2) (by decide)
          [⟨"q", "v", none, "agent", "role", .queued, 2, none, none⟩] (by decide +kernel)
    | succ n => exact Appended.refl _ _
  · intro n
    cases n with
    | zero => exact ⟨[], by decide +kernel, nofun⟩
    | succ n => exact Appended.refl _ _

end O7Formal.Ledger
