import O7Formal.Closure.Canonical
import O7Formal.Lib.JsonUnique
import O7Formal.Lib.JsonOrder
import O7Formal.Lib.Fallible

/-! What the canonical bytes of a value are: the compact text of the value with the members of
every object in the order of their UTF-16 names. Values are equal exactly when their bytes
are, and the bytes read back as the value they were written from. -/

namespace O7Formal.Closure

open Json Utf8 Fallible ByteCodec
open Run (Digest256 standardSha256)

def codeUnits (c : Char) : List Nat :=
  if c.toNat < 0x10000 then [c.toNat]
  else [0xd800 + (c.toNat - 0x10000) / 0x400, 0xdc00 + (c.toNat - 0x10000) % 0x400]

theorem char_range (c : Char) : c.toNat < 0xd800 ∨ 0xdfff < c.toNat ∧ c.toNat < 0x110000 := c.valid

theorem codeUnits_decodes {c d : Char} {r s : List Nat} (same : codeUnits c ++ r = codeUnits d ++ s) :
    c = d ∧ r = s := by
  have rangeC := char_range c
  have rangeD := char_range d
  simp only [codeUnits] at same
  split_ifs at same with low low' low'
  · rcases List.cons.inj same with ⟨first, rest⟩
    exact ⟨Char.toNat_inj.mp first, rest⟩
  · have first := (List.cons.inj same).1
    omega
  · have first := (List.cons.inj same).1
    omega
  · rcases List.cons.inj same with ⟨high, tails⟩
    rcases List.cons.inj tails with ⟨second, rest⟩
    exact ⟨Char.toNat_inj.mp (by omega), rest⟩

theorem codeUnits_ne_nil (c : Char) : codeUnits c ≠ [] := by
  rw [codeUnits]
  split_ifs <;> exact List.cons_ne_nil _ _

theorem encodeUtf16_injective : Function.Injective encodeUtf16 := by
  have texts : ∀ a b : List Char, a.flatMap codeUnits = b.flatMap codeUnits → a = b := by
    intro a
    induction a with
    | nil =>
        intro b same
        cases b with
        | nil => rfl
        | cons d b =>
            rw [List.flatMap_nil, List.flatMap_cons] at same
            exact absurd (List.append_eq_nil_iff.mp same.symm).1 (codeUnits_ne_nil d)
    | cons c a ih =>
        intro b same
        cases b with
        | nil =>
            rw [List.flatMap_nil, List.flatMap_cons] at same
            exact absurd (List.append_eq_nil_iff.mp same).1 (codeUnits_ne_nil c)
        | cons d b =>
            rw [List.flatMap_cons, List.flatMap_cons] at same
            rcases codeUnits_decodes same with ⟨first, rest⟩
            rw [first, ih b rest]
  intro a b same
  exact String.toList_injective (texts _ _ same)

def SafeIntegers (t : Tree) : Prop :=
  t.Everywhere fun part => ∀ n, part = .number n →
    ∃ k : Int, n = .integer k ∧ k.natAbs ≤ safeIntegerLimit

theorem SafeIntegers.child {t u : Tree} (safe : SafeIntegers t) (below : u ∈ t.children) :
    SafeIntegers u :=
  (Tree.everywhere_iff.mp safe).2 u below

theorem safeIntegers_of_children {t : Tree} (other : ∀ n, t ≠ .number n)
    (children : ∀ u ∈ t.children, SafeIntegers u) : SafeIntegers t := by
  refine Tree.everywhere_iff.mpr ⟨?_, children⟩
  intro n same
  exact absurd same (other n)

theorem writeElements_eq (elements : List Tree) :
    writeElements elements = elements.map writeValue := by
  induction elements with
  | nil => rfl
  | cons t rest ih => rw [writeElements, ih, List.map_cons]

theorem writeMembers_eq (members : List (String × Tree)) :
    writeMembers members = members.map fun p => (p.1, writeValue p.2) := by
  induction members with
  | nil => rfl
  | cons p rest ih => rw [writeMembers, ih, List.map_cons]

theorem writeNumber_ok_iff {n : Numeral} {text : List Char} :
    writeNumber n = .ok text ↔
      ∃ k : Int, n = .integer k ∧ k.natAbs ≤ safeIntegerLimit ∧ text = writeInteger k := by
  cases n with
  | float literal =>
      constructor
      · intro written
        cases written
      · intro held
        rcases held with ⟨k, same, _⟩
        cases same
  | integer k =>
      rw [writeNumber]
      split_ifs with large
      · constructor
        · intro written
          cases written
        · intro held
          rcases held with ⟨l, same, small, _⟩
          cases same
          omega
      · constructor
        · intro written
          cases written
          exact ⟨k, rfl, by omega, rfl⟩
        · intro held
          rcases held with ⟨l, same, _, text⟩
          cases same
          rw [text]

theorem joined_ok {sep : List Char} (texts : List (List Char)) :
    joined sep (texts.map .ok) = .ok (List.intercalate sep texts) := by
  have all : (texts.map .ok : List (Except CanonicalError (List Char))).mapM id = .ok texts := by
    apply mapM_ok_iff.mpr
    induction texts with
    | nil => exact .nil
    | cons text texts ih => exact .cons rfl ih
  rw [joined, all]
  rfl

theorem joined_ok_mem {sep body : List Char} {texts : List (Except CanonicalError (List Char))}
    (ok : joined sep texts = .ok body) {x : Except CanonicalError (List Char)} (member : x ∈ texts) :
    ∃ text, x = .ok text := by
  rw [joined] at ok
  rcases map_ok_iff.mp ok with ⟨all, each, _⟩
  rcases mapM_ok_mem each member with ⟨text, _, here⟩
  exact ⟨text, here⟩

theorem compact_array (elements : List Tree) : (Tree.array elements).compact =
    '[' :: (List.intercalate [','] (elements.map Tree.compact) ++ [']']) := by
  have more : ∀ (t : Tree) (rest : List Tree), t.compact ++ moreElements rest =
      List.intercalate [','] ((t :: rest).map Tree.compact) ++ [']'] := by
    intro t rest
    induction rest generalizing t with
    | nil => simp [moreElements, List.intercalate]
    | cons u rest ih =>
        rw [moreElements, ih u]
        simp [List.intercalate]
  cases elements with
  | nil => rfl
  | cons t rest => rw [Tree.compact, more]

def memberText (p : String × Tree) : List Char := quote p.1 ++ ':' :: p.2.compact

theorem compact_object (members : List (String × Tree)) : (Tree.object members).compact =
    '{' :: (List.intercalate [','] (members.map memberText) ++ ['}']) := by
  have more : ∀ (p : String × Tree) (rest : List (String × Tree)),
      quote p.1 ++ ':' :: (p.2.compact ++ moreMembers rest) =
        List.intercalate [','] ((p :: rest).map memberText) ++ ['}'] := by
    intro p rest
    induction rest generalizing p with
    | nil => simp [moreMembers, memberText, List.intercalate]
    | cons q rest ih =>
        rw [moreMembers, ih q]
        simp [memberText, List.intercalate]
  cases members with
  | nil => rfl
  | cons p rest => rw [Tree.compact, more p rest]

def canonical (t : Tree) : Tree := t.arranged encodeUtf16

theorem writeElements_ok {elements : List Tree}
    (written : ∀ t ∈ elements, writeValue t = .ok (canonical t).compact) :
    writeValue (.array elements) = .ok (canonical (.array elements)).compact := by
  have texts : writeElements elements =
      ((arrangedElements encodeUtf16 elements).map Tree.compact).map .ok := by
    rw [writeElements_eq, arrangedElements_eq, List.map_map, List.map_map]
    exact List.map_congr_left written
  rw [writeValue, texts, joined_ok, canonical, Tree.arranged, compact_array]
  rfl

theorem writeMembers_ok {members : List (String × Tree)}
    (written : ∀ p ∈ members, writeValue p.2 = .ok (canonical p.2).compact) :
    writeValue (.object members) = .ok (canonical (.object members)).compact := by
  have values : writeMembers members = (arrangedMembers encodeUtf16 members).map
      fun p => (p.1, (.ok p.2.compact : Except CanonicalError (List Char))) := by
    rw [writeMembers_eq, arrangedMembers_eq, List.map_map]
    apply List.map_congr_left
    intro p member
    rw [written p member]
    rfl
  have sorted : (writeMembers members).insertionSort namesInOrder =
      ((arrangedMembers encodeUtf16 members).insertionSort (byName encodeUtf16)).map
        fun p => (p.1, (.ok p.2.compact : Except CanonicalError (List Char))) := by
    rw [values]
    symm
    apply List.map_insertionSort
    intro a _ b _
    exact Iff.rfl
  have texts : ((arrangedMembers encodeUtf16 members).insertionSort (byName encodeUtf16)).map
      ((fun m : String × Except CanonicalError (List Char) =>
        m.2.map fun text => quote m.1 ++ ':' :: text) ∘ fun p => (p.1, .ok p.2.compact)) =
      (((arrangedMembers encodeUtf16 members).insertionSort (byName encodeUtf16)).map
        memberText).map .ok := by
    rw [List.map_map]
    rfl
  rw [writeValue, sorted, List.map_map, texts, joined_ok, canonical, Tree.arranged, compact_object]
  rfl

theorem writeValue_ok {t : Tree} (safe : SafeIntegers t) :
    writeValue t = .ok (canonical t).compact := by
  induction t using Tree.induct with
  | null => rfl
  | bool b => rfl
  | number n =>
      rcases (Tree.everywhere_iff.mp safe).1 n rfl with ⟨k, same, small⟩
      rw [writeValue, same]
      exact writeNumber_ok_iff.mpr ⟨k, rfl, small, rfl⟩
  | string s => rfl
  | array elements ih =>
      apply writeElements_ok
      intro t member
      exact ih t member (safe.child member)
  | object members ih =>
      apply writeMembers_ok
      intro p member
      exact ih p member (safe.child (List.mem_map.mpr ⟨p, member, rfl⟩))

theorem safeIntegers_of_writeValue {t : Tree} {text : List Char} (written : writeValue t = .ok text) :
    SafeIntegers t := by
  induction t using Tree.induct generalizing text with
  | null => exact safeIntegers_of_children (by simp) (by simp [Tree.children])
  | bool b => exact safeIntegers_of_children (by simp) (by simp [Tree.children])
  | string s => exact safeIntegers_of_children (by simp) (by simp [Tree.children])
  | number n =>
      rw [writeValue] at written
      rcases writeNumber_ok_iff.mp written with ⟨k, same, small, _⟩
      refine Tree.everywhere_iff.mpr ⟨?_, by simp [Tree.children]⟩
      intro m here
      cases here
      exact ⟨k, same, small⟩
  | array elements ih =>
      rw [writeValue] at written
      rcases bind_ok_iff.mp written with ⟨body, joins, _⟩
      apply safeIntegers_of_children (by simp)
      intro t member
      have listed : writeValue t ∈ writeElements elements := by
        rw [writeElements_eq]
        exact List.mem_map_of_mem member
      rcases joined_ok_mem joins listed with ⟨part, here⟩
      exact ih t member here
  | object members ih =>
      rw [writeValue] at written
      rcases bind_ok_iff.mp written with ⟨body, joins, _⟩
      apply safeIntegers_of_children (by simp)
      intro t below
      rcases List.mem_map.mp below with ⟨p, member, same⟩
      have listed : (p.1, writeValue p.2) ∈ (writeMembers members).insertionSort namesInOrder := by
        rw [List.mem_insertionSort, writeMembers_eq]
        exact List.mem_map.mpr ⟨p, member, rfl⟩
      rcases joined_ok_mem joins (List.mem_map_of_mem listed) with ⟨part, here⟩
      rcases map_ok_iff.mp here with ⟨value, read, _⟩
      rw [← same]
      exact ih p member read

theorem canonicalize_ok_iff {t : Tree} {bytes : List UInt8} :
    canonicalize t = .ok bytes ↔ SafeIntegers t ∧ bytes = utf8 (canonical t).compact := by
  constructor
  · intro ok
    rcases map_ok_iff.mp ok with ⟨text, written, same⟩
    have safe := safeIntegers_of_writeValue written
    rw [writeValue_ok safe] at written
    cases written
    exact ⟨safe, same.symm⟩
  · intro held
    rw [canonicalize, writeValue_ok held.1, held.2]
    rfl

mutual

/-- `SafeIntegers`, computed. -/
def safeIntegers : Tree → Bool
  | .number (.integer k) => decide (k.natAbs ≤ safeIntegerLimit)
  | .number (.float _) => false
  | .array elements => safeElements elements
  | .object members => safeMembers members
  | _ => true

def safeElements : List Tree → Bool
  | [] => true
  | t :: rest => safeIntegers t && safeElements rest

def safeMembers : List (String × Tree) → Bool
  | [] => true
  | (_, t) :: rest => safeIntegers t && safeMembers rest

end

theorem safeElements_iff {elements : List Tree} :
    safeElements elements = true ↔ ∀ t ∈ elements, safeIntegers t = true := by
  induction elements with
  | nil => simp [safeElements]
  | cons t rest ih => simp [safeElements, ih]

theorem safeMembers_iff {members : List (String × Tree)} :
    safeMembers members = true ↔ ∀ p ∈ members, safeIntegers p.2 = true := by
  induction members with
  | nil => simp [safeMembers]
  | cons p rest ih => rw [safeMembers, Bool.and_eq_true, ih, List.forall_mem_cons]

theorem safeIntegers_sound {t : Tree} (safe : safeIntegers t = true) : SafeIntegers t := by
  induction t using Tree.induct with
  | null => exact safeIntegers_of_children (by simp) (by simp [Tree.children])
  | bool b => exact safeIntegers_of_children (by simp) (by simp [Tree.children])
  | string s => exact safeIntegers_of_children (by simp) (by simp [Tree.children])
  | number n =>
      refine Tree.everywhere_iff.mpr ⟨?_, by simp [Tree.children]⟩
      intro m same
      cases same
      cases n with
      | float literal => cases safe
      | integer k => exact ⟨k, rfl, of_decide_eq_true safe⟩
  | array elements ih =>
      rw [safeIntegers, safeElements_iff] at safe
      apply safeIntegers_of_children (by simp)
      intro t member
      exact ih t member (safe t member)
  | object members ih =>
      rw [safeIntegers, safeMembers_iff] at safe
      apply safeIntegers_of_children (by simp)
      intro t below
      rcases List.mem_map.mp below with ⟨p, member, same⟩
      rw [← same]
      exact ih p member (safe p member)

theorem digestOfCanonicalBytes_standard {bytes : List UInt8} {requested : String}
    (same : storedBytes requested = storedBytes "sha256:" ++
      ((Sha2.quickSha256 bytes).flatMap hexByte).flatMap String.utf8EncodeChar) :
    digestOfCanonicalBytes standardSha256 bytes = requested := by
  apply utf8Bytes_injective
  rw [digestOfCanonicalBytes, utf8Bytes_append, Digest256.asStr_standard,
    utf8Bytes_eq_stored "sha256:", utf8Bytes_eq_stored requested, same]

theorem digest_standard {t : Tree} {requested : String} (safe : safeIntegers t = true)
    (same : storedBytes requested = storedBytes "sha256:" ++
      ((Sha2.quickSha256 (canonical t).bytes).flatMap hexByte).flatMap String.utf8EncodeChar) :
    digest standardSha256 t = .ok requested := by
  have bytes := canonicalize_ok_iff.mpr ⟨safeIntegers_sound safe, rfl⟩
  rw [utf8_compact] at bytes
  rw [digest, bytes, ← digestOfCanonicalBytes_standard same, Except.map]

theorem safeIntegers_canonical {t : Tree} (safe : SafeIntegers t) : SafeIntegers (canonical t) := by
  induction t using Tree.partsInduct with
  | step t ih =>
      refine Tree.everywhere_iff.mpr ⟨?_, ?_⟩
      · intro n same
        cases t with
        | number m =>
            cases same
            exact (Tree.everywhere_iff.mp safe).1 n rfl
        | null => cases same
        | bool b => cases same
        | string s => cases same
        | array elements => cases same
        | object members => cases same
      · intro u below
        rcases children_arranged encodeUtf16 below with ⟨w, member, same⟩
        rw [same]
        exact ih w member (safe.child member)

theorem integral_of_safe {t : Tree} (safe : SafeIntegers t) : t.integral = true := by
  induction t using Tree.induct with
  | null => rfl
  | bool b => rfl
  | string s => rfl
  | number n =>
      rcases (Tree.everywhere_iff.mp safe).1 n rfl with ⟨k, same, small⟩
      rw [same, Tree.integral]
      rw [safeIntegerLimit] at small
      simp only [Bool.and_eq_true, decide_eq_true_eq]
      omega
  | array elements ih =>
      rw [Tree.integral, integralElements_iff]
      intro t member
      exact ih t member (safe.child member)
  | object members ih =>
      rw [Tree.integral, integralMembers_iff]
      intro p member
      exact ih p member (safe.child (List.mem_map.mpr ⟨p, member, rfl⟩))

structure CanonicalBytes (t : Tree) (bytes : List UInt8) (text : List Char) (read : Tree) : Prop where
  written : canonicalize t = .ok bytes
  utf8 : bytes = Utf8.utf8 text
  reads : ∀ u, Denotes text u ↔ u = read
  value : t.Equiv read
  ordered : read.Ordered encodeUtf16
  again : canonicalize read = .ok bytes

theorem canonicalBytes {t : Tree} (distinct : t.DistinctNames) (safe : SafeIntegers t) :
    CanonicalBytes t (utf8 (canonical t).compact) (canonical t).compact (canonical t) := by
  have same := equiv_arranged encodeUtf16 distinct
  have distinct' := arranged_distinct encodeUtf16 distinct
  have safe' := safeIntegers_canonical safe
  have denotes : Denotes (canonical t).compact (canonical t) :=
    compact_document (canonical t) (integral_of_safe safe')
  have idempotent : canonical (canonical t) = canonical t :=
    (arranged_eq_of_equiv encodeUtf16 encodeUtf16_injective same distinct distinct').symm
  refine ⟨canonicalize_ok_iff.mpr ⟨safe, rfl⟩, rfl, ?_, same,
    arranged_ordered encodeUtf16_injective distinct, ?_⟩
  · intro u
    constructor
    · intro other
      exact other.unique denotes
    · intro here
      rw [here]
      exact denotes
  · rw [canonicalize_ok_iff, idempotent]
    exact ⟨safe', rfl⟩

theorem canonicalize_eq_iff {t u : Tree} (distinctT : t.DistinctNames)
    (distinctU : u.DistinctNames) (safeT : SafeIntegers t) (safeU : SafeIntegers u) :
    canonicalize t = canonicalize u ↔ t.Equiv u := by
  have formT := canonicalBytes distinctT safeT
  have formU := canonicalBytes distinctU safeU
  rw [formT.written, formU.written, Except.ok.injEq]
  constructor
  · intro bytes
    have texts := compact_injective (integral_of_safe (safeIntegers_canonical safeT))
      (integral_of_safe (safeIntegers_canonical safeU)) (utf8_injective bytes)
    have value := formT.value
    rw [texts] at value
    exact value.trans formU.value.symm
  · intro same
    rw [canonical, canonical,
      arranged_eq_of_equiv encodeUtf16 encodeUtf16_injective same distinctT distinctU]

/-- For a value of any shape, a map having each name once: the bytes exist exactly when every
number is a safe integer, and they determine the value and are determined by it. -/
theorem canonicalize_faithful {t : Tree} (distinct : t.DistinctNames) :
    (SafeIntegers t → ∃ bytes text read, CanonicalBytes t bytes text read) ∧
    (∀ u : Tree, u.DistinctNames → SafeIntegers t → SafeIntegers u →
      (canonicalize t = canonicalize u ↔ t.Equiv u)) ∧
    (¬ SafeIntegers t → ∃ e, canonicalize t = .error e) := by
  refine ⟨fun safe => ⟨_, _, _, canonicalBytes distinct safe⟩, ?_, ?_⟩
  · intro u distinctU safe safeU
    exact canonicalize_eq_iff distinct distinctU safe safeU
  · intro other
    cases result : canonicalize t with
    | error e => exact ⟨e, rfl⟩
    | ok bytes => exact absurd (canonicalize_ok_iff.mp result).1 other

namespace Sample

def note : Tree := .object [("b", .number (.integer (-2))), ("a", .string "x\n")]

def noteReordered : Tree := .object [("a", .string "x\n"), ("b", .number (.integer (-2)))]

theorem flat_distinct {members : List (String × Tree)} (names : (members.map Prod.fst).Nodup)
    (scalars : ∀ u ∈ members.map Prod.snd, u.children = [] ∧ u.isObject = false) :
    (Tree.object members).DistinctNames := by
  refine Tree.distinctNames_iff.mpr ⟨fun _ same => by cases same; exact names, ?_⟩
  intro u below
  refine Tree.distinctNames_iff.mpr ⟨?_, by rw [(scalars u below).1]; exact fun _ none => nomatch none⟩
  intro inner same
  have scalar := (scalars u below).2
  rw [same] at scalar
  cases scalar

theorem note_distinct : note.DistinctNames ∧ noteReordered.DistinctNames :=
  ⟨flat_distinct (by decide) (by simp [Tree.children, Tree.isObject]),
    flat_distinct (by decide) (by simp [Tree.children, Tree.isObject])⟩

theorem text_safe (s : String) : SafeIntegers (.string s) :=
  safeIntegers_of_children (by simp) (by simp [Tree.children])

theorem two_safe : SafeIntegers (.number (.integer (-2))) := by
  refine Tree.everywhere_iff.mpr ⟨?_, by simp [Tree.children]⟩
  intro n same
  cases same
  exact ⟨-2, rfl, by decide⟩

theorem note_safe : SafeIntegers note ∧ SafeIntegers noteReordered := by
  constructor <;> apply safeIntegers_of_children (by simp [note, noteReordered])
  · simpa [note, Tree.children] using ⟨two_safe, text_safe "x\n"⟩
  · simpa [noteReordered, Tree.children] using ⟨text_safe "x\n", two_safe⟩

theorem note_equiv : note.Equiv noteReordered := by
  constructor
  · intro name
    simp [or_comm]
  · intro name t u here there
    simp only [List.mem_cons, Prod.mk.injEq, List.not_mem_nil, or_false] at here there
    rcases here with ⟨first, value⟩ | ⟨first, value⟩ <;>
      rcases there with ⟨second, other⟩ | ⟨second, other⟩ <;> rw [first] at second <;>
      rw [value, other]
    · exact absurd second (by decide)
    · exact .number _
    · exact .string _
    · exact absurd second (by decide)

end Sample

theorem canonicalize_faithful_note :
    ∃ bytes text read, CanonicalBytes Sample.note bytes text read ∧
      canonicalize Sample.noteReordered = .ok bytes := by
  have faithful := canonicalize_faithful Sample.note_distinct.1
  rcases faithful.1 Sample.note_safe.1 with ⟨bytes, text, read, form⟩
  refine ⟨bytes, text, read, form, ?_⟩
  rw [← (faithful.2.1 Sample.noteReordered Sample.note_distinct.2 Sample.note_safe.1
    Sample.note_safe.2).mpr Sample.note_equiv]
  exact form.written

end O7Formal.Closure
