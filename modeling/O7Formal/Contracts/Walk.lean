import O7Formal.Contracts.Refusal
import O7Formal.Contracts.Scalars
import O7Formal.Lib.JsonTree

/-! The walk over a materialised value that the streaming scan replaced, and the agreement
of the two.

The third-party JSON reader is a parameter: `Reader` holds what the code relies on of it. -/

namespace O7Formal.Contracts

open Fallible Utf8 Json ByteCodec

structure SerdeError where
  category : String
  line : Nat
  column : Nat
  deriving DecidableEq, Repr

def readerNesting : Nat := 127

mutual

def nesting : Tree → Nat
  | .array elements => nestingElements elements + 1
  | .object members => nestingMembers members + 1
  | _ => 0

def nestingElements : List Tree → Nat
  | [] => 0
  | t :: rest => max (nesting t) (nestingElements rest)

def nestingMembers : List (String × Tree) → Nat
  | [] => 0
  | (_, t) :: rest => max (nesting t) (nestingMembers rest)

end

/-- A reader of JSON texts: whatever it accepts is an RFC 8259 text of the value it
returns, and it reads back what the compact writer has written of integers. -/
structure Reader where
  parse : List UInt8 → Except SerdeError Tree
  /-- The category reported when a text is not the typed document asked for. -/
  mismatch : List UInt8 → String
  sound : ∀ (text : List Char) (t : Tree), parse (utf8 text) = .ok t →
    ∃ v, Document v text ∧ v.tree = some t
  reads : ∀ t : Tree, t.integral = true → nesting t ≤ readerNesting →
    parse (utf8 t.compact) = .ok t

open Classical in
noncomputable def compactReader : Reader where
  parse bytes :=
    if written : ∃ t : Tree, t.integral = true ∧ utf8 t.compact = bytes then .ok written.choose
    else .error ⟨"syntax", 1, 1⟩
  mismatch _ := "data"
  sound text t parsed := by
    split_ifs at parsed with written
    cases parsed
    rcases compact_document written.choose written.choose_spec.1 with ⟨v, document, denotes⟩
    rw [utf8_injective written.choose_spec.2] at document
    exact ⟨v, document, denotes⟩
  reads t integral _ := by
    have written : ∃ u : Tree, u.integral = true ∧ utf8 u.compact = utf8 t.compact :=
      ⟨t, integral, rfl⟩
    rw [dif_pos written]
    exact congrArg Except.ok (compact_injective written.choose_spec.1 integral
      (utf8_injective written.choose_spec.2))

def insertMember (key : String) (t : Tree) : List (String × Tree) → List (String × Tree)
  | [] => [(key, t)]
  | entry :: rest =>
      if key = entry.1 then (key, t) :: rest
      else if key < entry.1 then (key, t) :: entry :: rest
      else entry :: insertMember key t rest

def toMap (members : List (String × Tree)) : List (String × Tree) :=
  members.foldl (fun map entry => insertMember entry.1 entry.2 map) []

mutual

def materialise : Tree → Tree
  | .array elements => .array (materialiseElements elements)
  | .object members => .object (toMap (materialiseMembers members))
  | t => t

def materialiseElements : List Tree → List Tree
  | [] => []
  | t :: rest => materialise t :: materialiseElements rest

def materialiseMembers : List (String × Tree) → List (String × Tree)
  | [] => []
  | (name, t) :: rest => (name, materialise t) :: materialiseMembers rest

end

def checkDepth (path : String) (depth : Nat) (rest : Except ParseError Unit) :
    Except ParseError Unit :=
  if depth > maxJsonDepth then .error (.depthExceeded path) else rest

mutual

def walk : Tree → String → Nat → Except ParseError Unit
  | .null, path, depth => checkDepth path depth (.error (.explicitNull path))
  | .string s, path, depth =>
      checkDepth path depth
        (refuseIf (byteLength s > maxStringBytes) (.stringTooLong path (byteLength s)))
  | .array items, path, depth =>
      checkDepth path depth do
        refuseIf (items.length > maxArrayLen) (.arrayTooLong path items.length)
        walkItems items 0 path depth
  | .object members, path, depth => checkDepth path depth (walkValues members path depth)
  | .bool _, path, depth => checkDepth path depth (.ok ())
  | .number _, path, depth => checkDepth path depth (.ok ())

def walkItems : List Tree → Nat → String → Nat → Except ParseError Unit
  | [], _, _, _ => .ok ()
  | item :: rest, i, path, depth => do
      walk item (path ++ "[" ++ toString i ++ "]") (depth + 1)
      walkItems rest (i + 1) path depth

/-- Member names are content, so the path only says that a member was entered. -/
def walkValues : List (String × Tree) → String → Nat → Except ParseError Unit
  | [], _, _ => .ok ()
  | (_, v) :: rest, path, depth => do
      walk v (path ++ ".*") (depth + 1)
      walkValues rest path depth

end

def ownFault : Tree → Option Rule
  | .null => some .null
  | .string s => if byteLength s > maxStringBytes then some .string else none
  | .array elements => if elements.length > maxArrayLen then some .array else none
  | _ => none

def fault (depth : Nat) (t : Tree) : Option Rule :=
  if depth > maxJsonDepth then some .depth else ownFault t

/-- A part of `t` breaks `rule` when `t` stands below `frames` containers. -/
def Breaks (frames : Nat) (t : Tree) (rule : Rule) : Prop :=
  ∃ depth part, t.Occurs depth part ∧ fault (frames + depth) part = some rule

theorem breaks_iff {frames : Nat} {t : Tree} {rule : Rule} :
    Breaks frames t rule ↔
      fault (frames + 1) t = some rule ∨ ∃ u ∈ t.children, Breaks (frames + 1) u rule := by
  constructor
  · intro broken
    rcases broken with ⟨depth, part, occurs, faulty⟩
    cases occurs with
    | root => exact .inl faulty
    | @child _ u _ depth below inside =>
        refine .inr ⟨u, below, depth, part, inside, ?_⟩
        rwa [show frames + 1 + depth = frames + (depth + 1) by omega]
  · intro either
    rcases either with faulty | ⟨u, below, depth, part, inside, faulty⟩
    · exact ⟨1, t, .root t, faulty⟩
    · refine ⟨depth + 1, part, .child below inside, ?_⟩
      rwa [show frames + (depth + 1) = frames + 1 + depth by omega]

theorem checkDepth_ok_iff {path : String} {depth : Nat} {rest : Except ParseError Unit} :
    checkDepth path depth rest = .ok () ↔ depth ≤ maxJsonDepth ∧ rest = .ok () := by
  unfold checkDepth
  split_ifs with deep
  · simp only [false_iff]
    omega
  · exact ⟨fun ok => ⟨by omega, ok⟩, fun both => both.2⟩

/-- The walk accepts `t` exactly when no part of it breaks a rule. -/
def WalksClean (t : Tree) : Prop :=
  ∀ path frames, walk t path (frames + 1) = .ok () ↔ ∀ rule, ¬ Breaks frames t rule

theorem walkItems_ok_iff {items : List Tree} (clean : ∀ t ∈ items, WalksClean t) (i : Nat)
    (path : String) (depth : Nat) :
    walkItems items i path depth = .ok () ↔ ∀ t ∈ items, ∀ rule, ¬ Breaks depth t rule := by
  induction items generalizing i with
  | nil => simp [walkItems]
  | cons t rest ih =>
      rw [List.forall_mem_cons] at clean
      rw [walkItems, bind_ok_iff, List.forall_mem_cons, ← ih clean.2 (i + 1), ← clean.1]
      exact ⟨fun ran => ⟨ran.choose_spec.1, ran.choose_spec.2⟩, fun both => ⟨(), both⟩⟩

theorem walkValues_ok_iff {members : List (String × Tree)} (clean : ∀ p ∈ members, WalksClean p.2)
    (path : String) (depth : Nat) :
    walkValues members path depth = .ok () ↔ ∀ p ∈ members, ∀ rule, ¬ Breaks depth p.2 rule := by
  induction members with
  | nil => simp [walkValues]
  | cons p rest ih =>
      rw [List.forall_mem_cons] at clean
      rw [walkValues, bind_ok_iff, List.forall_mem_cons, ← ih clean.2, ← clean.1]
      exact ⟨fun ran => ⟨ran.choose_spec.1, ran.choose_spec.2⟩, fun both => ⟨(), both⟩⟩

theorem not_breaks_iff {frames : Nat} {t : Tree} : (∀ rule, ¬ Breaks frames t rule) ↔
    frames + 1 ≤ maxJsonDepth ∧ ownFault t = none ∧
      ∀ u ∈ t.children, ∀ rule, ¬ Breaks (frames + 1) u rule := by
  have own : fault (frames + 1) t = none ↔ frames + 1 ≤ maxJsonDepth ∧ ownFault t = none := by
    unfold fault
    split_ifs with deep
    · simp only [false_iff]
      omega
    · exact ⟨fun none => ⟨by omega, none⟩, fun both => both.2⟩
  rw [← and_assoc, ← own, Option.eq_none_iff_forall_ne_some]
  constructor
  · intro kept
    refine ⟨fun rule faulty => kept rule (breaks_iff.mpr (.inl faulty)), ?_⟩
    intro u below rule broken
    exact kept rule (breaks_iff.mpr (.inr ⟨u, below, broken⟩))
  · intro both rule broken
    rcases breaks_iff.mp broken with faulty | ⟨u, below, inside⟩
    · exact both.1 rule faulty
    · exact both.2 u below rule inside

theorem walk_ok_iff (t : Tree) : WalksClean t := by
  induction t using Tree.induct with
  | null =>
      intro path frames
      rw [walk, checkDepth_ok_iff, not_breaks_iff]
      simp [ownFault]
  | bool b =>
      intro path frames
      rw [walk, checkDepth_ok_iff, not_breaks_iff]
      simp [ownFault, Tree.children]
  | number n =>
      intro path frames
      rw [walk, checkDepth_ok_iff, not_breaks_iff]
      simp [ownFault, Tree.children]
  | string s =>
      intro path frames
      rw [walk, checkDepth_ok_iff, not_breaks_iff]
      simp [ownFault, Tree.children]
  | array elements ih =>
      intro path frames
      rw [walk, checkDepth_ok_iff, not_breaks_iff, bind_ok_iff]
      simp only [refuseIf_ok_iff, walkItems_ok_iff ih, ownFault, Tree.children]
      simp
  | object members ih =>
      intro path frames
      rw [walk, checkDepth_ok_iff, not_breaks_iff, walkValues_ok_iff ih]
      simp only [ownFault, Tree.children, true_and, List.forall_mem_map]

theorem materialiseElements_eq (elements : List Tree) :
    materialiseElements elements = elements.map materialise := by
  induction elements with
  | nil => rfl
  | cons t rest ih => rw [materialiseElements, ih, List.map_cons]

theorem materialiseMembers_eq (members : List (String × Tree)) :
    materialiseMembers members = members.map fun p => (p.1, materialise p.2) := by
  induction members with
  | nil => rfl
  | cons p rest ih => rw [materialiseMembers, ih, List.map_cons]

theorem insertMember_perm {key : String} {t : Tree} {map : List (String × Tree)}
    (fresh : key ∉ map.map Prod.fst) : (insertMember key t map).Perm ((key, t) :: map) := by
  induction map with
  | nil => exact .refl _
  | cons entry rest ih =>
      rw [List.map_cons, List.mem_cons, not_or] at fresh
      rw [insertMember, if_neg fresh.1]
      split_ifs
      · exact .refl _
      · exact ((ih fresh.2).cons entry).trans (.swap _ _ _)

theorem toMap_perm {members : List (String × Tree)} (distinct : (members.map Prod.fst).Nodup) :
    (toMap members).Perm members := by
  have general : ∀ (xs map : List (String × Tree)), ((xs ++ map).map Prod.fst).Nodup →
      (xs.foldl (fun map entry => insertMember entry.1 entry.2 map) map).Perm (xs ++ map) := by
    intro xs
    induction xs with
    | nil => exact fun map _ => .refl _
    | cons x xs ih =>
        intro map nodup
        rw [List.cons_append, List.map_cons, List.nodup_cons, List.map_append,
          List.mem_append, not_or] at nodup
        have inserted := insertMember_perm (t := x.2) nodup.1.2
        have moved : (xs ++ insertMember x.1 x.2 map).Perm (x :: (xs ++ map)) :=
          (inserted.append_left xs).trans List.perm_middle
        refine (ih _ ?_).trans moved
        refine (moved.map Prod.fst).nodup_iff.mpr ?_
        rw [List.map_cons, List.nodup_cons, List.map_append, List.mem_append, not_or]
        exact nodup
  have all := general members [] (by rwa [List.append_nil])
  rwa [List.append_nil] at all

theorem mem_children_materialise {t u : Tree} (distinct : t.DistinctNames) :
    u ∈ (materialise t).children ↔ ∃ w ∈ t.children, materialise w = u := by
  cases t with
  | null => simp [materialise, Tree.children]
  | bool b => simp [materialise, Tree.children]
  | number n => simp [materialise, Tree.children]
  | string s => simp [materialise, Tree.children]
  | array elements => simp [materialise, materialiseElements_eq, Tree.children]
  | object members =>
      have nodup := distinct 1 members (.root _)
      have names : ((materialiseMembers members).map Prod.fst).Nodup := by
        rw [materialiseMembers_eq, List.map_map]
        exact nodup
      have entries := (toMap_perm names).map Prod.snd
      rw [materialise, Tree.children, entries.mem_iff, materialiseMembers_eq, List.map_map,
        Tree.children, ← List.mem_map, List.map_map]
      rfl

theorem ownFault_materialise (t : Tree) : ownFault (materialise t) = ownFault t := by
  cases t <;> simp [materialise, ownFault, materialiseElements_eq]

theorem breaks_materialise {t : Tree} {frames : Nat} {rule : Rule} (distinct : t.DistinctNames) :
    Breaks frames (materialise t) rule ↔ Breaks frames t rule := by
  induction t using Tree.partsInduct generalizing frames with
  | step t inner =>
      rw [breaks_iff, breaks_iff, fault, fault, ownFault_materialise]
      apply or_congr_right
      constructor
      · intro below
        rcases below with ⟨u, member, broken⟩
        rcases (mem_children_materialise distinct).mp member with ⟨w, listed, same⟩
        rw [← same, inner w listed (distinct.child listed)] at broken
        exact ⟨w, listed, broken⟩
      · intro below
        rcases below with ⟨w, listed, broken⟩
        refine ⟨materialise w, (mem_children_materialise distinct).mpr ⟨w, listed, rfl⟩, ?_⟩
        rwa [inner w listed (distinct.child listed)]

theorem ownFault_tree {v : Value} {t : Tree} (denotes : v.tree = some t) :
    Scanner.ownFault v = ownFault t := by
  cases v with
  | null => cases denotes; rfl
  | bool b => cases denotes; rfl
  | number literal => cases denotes; rfl
  | string items =>
      rcases Option.map_eq_some_iff.mp denotes with ⟨text, read, same⟩
      have decoded : byteLength text = decodedLength items := by
        unfold readString at read
        split_ifs at read
        rw [← Option.some.inj read, byteLength, decodedLength, utf8Bytes, String.toList_ofList, utf8]
      rw [← same, Scanner.ownFault, ownFault, decoded]
  | array elements =>
      rcases Option.map_eq_some_iff.mp denotes with ⟨ts, listed, same⟩
      rw [← same, Scanner.ownFault, ownFault, (treeElements_some listed).length_eq]
  | object members =>
      rcases Option.map_eq_some_iff.mp denotes with ⟨ts, _, same⟩
      rw [← same]
      rfl

theorem breaks_tree {v : Value} {t : Tree} (denotes : v.tree = some t) {frames : Nat}
    {rule : Rule} : Scanner.Breaks frames v rule ↔ Breaks frames t rule := by
  constructor
  · intro broken
    rcases broken with ⟨depth, part, occurs, faulty⟩
    rcases occurs.tree denotes with ⟨u, partDenotes, inside⟩
    refine ⟨depth, u, inside, ?_⟩
    rwa [Scanner.fault, ownFault_tree partDenotes] at faulty
  · intro broken
    rcases broken with ⟨depth, u, occurs, faulty⟩
    rcases occurs.value denotes with ⟨part, partDenotes, inside⟩
    refine ⟨depth, part, inside, ?_⟩
    rwa [Scanner.fault, ownFault_tree partDenotes]

theorem admissible_tree {v : Value} {t : Tree} (denotes : v.tree = some t) :
    Scanner.Admissible v ↔ ∀ rule, ¬ Breaks 0 t rule := by
  rw [Scanner.admissible_iff, Scanner.fits_iff_breaks]
  apply forall_congr'
  intro rule
  rw [breaks_tree denotes]

theorem walk_materialise_ok_iff {t : Tree} (distinct : t.DistinctNames) :
    walk (materialise t) "$" 1 = .ok () ↔ ∀ rule, ¬ Breaks 0 t rule := by
  rw [walk_ok_iff (materialise t) "$" 0]
  apply forall_congr'
  intro rule
  rw [breaks_materialise distinct]

def scanThenParse (reader : Reader) (text : String) : Except Halt Tree := do
  (Scanner.new text).run
  match reader.parse (utf8 text.toList) with
  | .ok t => .ok t
  | .error e => .error (.refused (.notJson e.category e.line e.column))

/-- On every text that parses to a value with distinct member names, the scan admits
exactly the objects the walk admits, and an object that breaks one kind of rule only is
refused for that rule. -/
theorem scan_refines_walk (reader : Reader) (text : String) (t : Tree)
    (parses : reader.parse (utf8 text.toList) = .ok t) (distinct : t.DistinctNames) :
    ((∃ u, scanThenParse reader text = .ok u) ↔
      t.isObject = true ∧ walk (materialise t) "$" 1 = .ok ()) ∧
    (t.isObject = true → ∀ rule, Breaks 0 t rule → (∀ other, Breaks 0 t other → other = rule) →
      ∃ e, scanThenParse reader text = .error (.refused e) ∧ e.rule = some rule) := by
  rcases reader.sound text.toList t parses with ⟨v, document, denotes⟩
  have object := isObject_tree denotes
  have accepts : (∃ u, scanThenParse reader text = .ok u) ↔ (Scanner.new text).run = .ok () := by
    rw [scanThenParse, parses]
    constructor
    · intro ran
      rcases ran with ⟨u, ran⟩
      rcases bind_ok_iff.mp ran with ⟨_, scanned, _⟩
      exact scanned
    · intro scanned
      exact ⟨t, by rw [scanned]; rfl⟩
  refine ⟨?_, ?_⟩
  · rw [accepts, walk_materialise_ok_iff distinct, ← admissible_tree denotes, object]
    exact Scanner.run_ok_iff document
  · intro isObject rule broken only
    have refused : ¬ Scanner.Admissible v := by
      rw [admissible_tree denotes]
      exact fun kept => kept rule broken
    rcases Scanner.run_refuses document (object ▸ isObject) refused with
      ⟨e, other, ran, names, breaks⟩
    have same := only other ((breaks_tree denotes).mp breaks)
    exact ⟨e, by rw [scanThenParse, ran]; rfl, by rw [names, same]⟩

namespace Sample

def document : Tree := .object [("k", .array [.null])]

theorem document_distinct : document.DistinctNames := by
  have scalar : Tree.null.DistinctNames := by
    rw [Tree.distinctNames_iff]
    simp [Tree.children]
  have array : (Tree.array [.null]).DistinctNames := by
    rw [Tree.distinctNames_iff]
    simp [Tree.children, scalar]
  rw [Tree.distinctNames_iff]
  simp [document, Tree.children, array]

theorem document_breaks (rule : Rule) : Breaks 0 document rule ↔ rule = .null := by
  have scalar : Breaks 2 .null rule ↔ rule = .null := by
    rw [breaks_iff]
    simp [Tree.children, fault, maxJsonDepth, ownFault, eq_comm]
  have array : Breaks 1 (.array [.null]) rule ↔ rule = .null := by
    rw [breaks_iff]
    simp [Tree.children, fault, maxJsonDepth, ownFault, maxArrayLen, scalar]
  rw [breaks_iff]
  simp [document, Tree.children, fault, maxJsonDepth, ownFault, array]

theorem document_parses :
    compactReader.parse (utf8 (String.ofList document.compact).toList) = .ok document := by
  rw [String.toList_ofList]
  exact compactReader.reads document (by decide) (by decide)

end Sample

theorem scan_refines_walk_null :
    ∃ e, scanThenParse compactReader (String.ofList Sample.document.compact) =
      .error (.refused e) ∧ e.rule = some .null := by
  refine (scan_refines_walk compactReader _ Sample.document Sample.document_parses
    Sample.document_distinct).2 rfl .null ((Sample.document_breaks .null).mpr rfl) ?_
  intro other broken
  exact (Sample.document_breaks other).mp broken

-- The walk has no opinion on what the outermost value is; the scan wants an object.
theorem scan_refines_walk_number : ¬ ∀ (reader : Reader) (text : String) (t : Tree),
    reader.parse (utf8 text.toList) = .ok t → t.DistinctNames →
      ((∃ u, scanThenParse reader text = .ok u) ↔ walk (materialise t) "$" 1 = .ok ()) := by
  intro claimed
  have parses : compactReader.parse (utf8 "5".toList) = .ok (.number (.integer 5)) :=
    compactReader.reads (.number (.integer 5)) (by decide) (by decide)
  have distinct : (Tree.number (.integer 5)).DistinctNames := by
    rw [Tree.distinctNames_iff]
    simp [Tree.children]
  rcases (claimed compactReader "5" _ parses distinct).mpr (by decide) with ⟨u, accepted⟩
  rcases bind_ok_iff.mp accepted with ⟨⟨⟩, scanned, _⟩
  exact absurd scanned (by decide +kernel)

end O7Formal.Contracts
