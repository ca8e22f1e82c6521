import O7Formal.Lib.JsonAccess

/-! Trees that are equal as values, whatever the order of their members, and the one
arrangement of a tree whose members are in the order of a key of their names. -/

namespace O7Formal.Json

def Tree.Everywhere (P : Tree → Prop) (t : Tree) : Prop := ∀ depth part, t.Occurs depth part → P part

theorem Tree.everywhere_iff {P : Tree → Prop} {t : Tree} :
    t.Everywhere P ↔ P t ∧ ∀ u ∈ t.children, u.Everywhere P := by
  constructor
  · intro all
    refine ⟨all 1 t (.root t), ?_⟩
    intro u below depth part inside
    exact all (depth + 1) part (.child below inside)
  · intro both depth part occurs
    cases occurs with
    | root => exact both.1
    | child below inside => exact both.2 _ below _ _ inside

/-- Equal as values: elements by position, members by name. -/
inductive Tree.Equiv : Tree → Tree → Prop
  | null : Tree.Equiv .null .null
  | bool (b : Bool) : Tree.Equiv (.bool b) (.bool b)
  | number (n : Numeral) : Tree.Equiv (.number n) (.number n)
  | string (s : String) : Tree.Equiv (.string s) (.string s)
  | array {xs ys : List Tree} (count : xs.length = ys.length)
      (elements : ∀ (i : Nat) (t u : Tree), xs[i]? = some t → ys[i]? = some u → Tree.Equiv t u) :
      Tree.Equiv (.array xs) (.array ys)
  | object {xs ys : List (String × Tree)}
      (names : ∀ name : String, name ∈ xs.map Prod.fst ↔ name ∈ ys.map Prod.fst)
      (values : ∀ (name : String) (t u : Tree), (name, t) ∈ xs → (name, u) ∈ ys → Tree.Equiv t u) :
      Tree.Equiv (.object xs) (.object ys)

theorem Tree.Equiv.symm {t u : Tree} (same : t.Equiv u) : u.Equiv t := by
  induction same with
  | null => exact .null
  | bool b => exact .bool b
  | number n => exact .number n
  | string s => exact .string s
  | array count _ ih => exact .array count.symm (fun i t u here there => ih i u t there here)
  | object names _ ih =>
      exact .object (fun name => (names name).symm) (fun name t u here there => ih name u t there here)

theorem Tree.Equiv.trans {t u v : Tree} (same : t.Equiv u) (next : u.Equiv v) : t.Equiv v := by
  induction same generalizing v with
  | null => exact next
  | bool b => exact next
  | number n => exact next
  | string s => exact next
  | @array xs ys count _ ih =>
      cases next with
      | @array _ zs count' elements' =>
          refine .array (count.trans count') ?_
          intro i t w here there
          have bound : i < ys.length := by
            rw [← count]
            exact (List.getElem?_eq_some_iff.mp here).1
          have middle := List.getElem?_eq_getElem bound
          exact ih i t _ here middle (elements' i _ w middle there)
  | @object xs ys names _ ih =>
      cases next with
      | @object _ zs names' values' =>
          refine .object (fun name => (names name).trans (names' name)) ?_
          intro name t w here there
          have held := (names name).mp (List.mem_map.mpr ⟨(name, t), here, rfl⟩)
          rcases List.mem_map.mp held with ⟨p, middle, first⟩
          cases p with
          | mk other u =>
              cases first
              exact ih _ t u here middle (values' _ u w middle there)

theorem member_unique {members : List (String × Tree)} (distinct : (members.map Prod.fst).Nodup)
    {name : String} {t u : Tree} (here : (name, t) ∈ members) (there : (name, u) ∈ members) :
    t = u := by
  have same := List.inj_on_of_nodup_map distinct here there rfl
  exact (Prod.mk.inj same).2

theorem lookup_mem {members : List (String × Tree)} {name : String} {t : Tree}
    (found : members.lookup name = some t) : (name, t) ∈ members := by
  rw [List.lookup_eq_some_iff] at found
  rcases found with ⟨before, after, split, _⟩
  rw [split]
  simp

theorem lookup_none_iff {members : List (String × Tree)} {name : String} :
    members.lookup name = none ↔ name ∉ members.map Prod.fst := by
  rw [List.lookup_eq_none_iff, List.mem_map]
  constructor
  · intro apart held
    rcases held with ⟨p, member, first⟩
    exact absurd first.symm (by simpa using apart p member)
  · intro missing p member
    rw [bne_iff_ne]
    intro first
    exact missing ⟨p, member, first.symm⟩

inductive OptionEquiv : Option Tree → Option Tree → Prop
  | none : OptionEquiv none none
  | some {t u : Tree} (equal : t.Equiv u) : OptionEquiv (some t) (some u)

theorem Tree.Equiv.child {t u : Tree} (equal : t.Equiv u) (token : String) :
    OptionEquiv (t.child token) (u.child token) := by
  cases equal with
  | null => exact .none
  | bool b => exact .none
  | number n => exact .none
  | string s => exact .none
  | @array xs ys count elements =>
      simp only [Tree.child]
      cases parseIndex token with
      | none => exact .none
      | some i =>
          simp only [Option.bind_some]
          by_cases bound : i < xs.length
          · have here := List.getElem?_eq_getElem bound
            have there := List.getElem?_eq_getElem (count ▸ bound)
            rw [here, there]
            exact .some (elements i _ _ here there)
          · rw [List.getElem?_eq_none (by omega), List.getElem?_eq_none (by omega)]
            exact .none
  | @object xs ys names values =>
      simp only [Tree.child]
      cases here : xs.lookup token with
      | none =>
          rw [lookup_none_iff, names, ← lookup_none_iff] at here
          rw [here]
          exact .none
      | some t =>
          cases there : ys.lookup token with
          | none =>
              rw [lookup_none_iff, ← names, ← lookup_none_iff, here] at there
              cases there
          | some u => exact .some (values token t u (lookup_mem here) (lookup_mem there))

theorem Tree.Equiv.follow {t u : Tree} (equal : t.Equiv u) (tokens : List String) :
    OptionEquiv (t.follow tokens) (u.follow tokens) := by
  induction tokens generalizing t u with
  | nil => exact .some equal
  | cons token tokens ih =>
      have step := equal.child token
      rw [Tree.follow, Tree.follow]
      generalize t.child token = left at step
      generalize u.child token = right at step
      cases step with
      | none => exact .none
      | some parts => exact ih parts

theorem Tree.Equiv.strAt {t u : Tree} (equal : t.Equiv u) (path : String) :
    t.strAt path = u.strAt path := by
  rw [Tree.strAt, Tree.strAt, Tree.pointer, Tree.pointer]
  cases pointerTokens path with
  | none => rfl
  | some tokens =>
      have read := equal.follow tokens
      rw [Option.bind_some, Option.bind_some]
      generalize t.follow tokens = left at read
      generalize u.follow tokens = right at read
      cases read with
      | none => rfl
      | some parts =>
          rw [Option.bind_some, Option.bind_some]
          cases parts <;> rfl

section Arranged

variable {κ : Type} [LinearOrder κ] (key : String → κ)

def byName {α : Type} (a b : String × α) : Prop := key a.1 ≤ key b.1

instance {α : Type} : DecidableRel (@byName κ _ key α) := fun a b =>
  inferInstanceAs (Decidable (key a.1 ≤ key b.1))

instance {α : Type} : Std.Total (@byName κ _ key α) where
  total a b := le_total (key a.1) (key b.1)

instance {α : Type} : IsTrans (String × α) (byName key) where
  trans _ _ _ first second := le_trans (b := key _) first second

mutual

def Tree.arranged : Tree → Tree
  | .null => .null
  | .bool b => .bool b
  | .number n => .number n
  | .string s => .string s
  | .array elements => .array (arrangedElements elements)
  | .object members => .object ((arrangedMembers members).insertionSort (byName key))

def arrangedElements : List Tree → List Tree
  | [] => []
  | t :: rest => t.arranged :: arrangedElements rest

def arrangedMembers : List (String × Tree) → List (String × Tree)
  | [] => []
  | (name, t) :: rest => (name, t.arranged) :: arrangedMembers rest

end

theorem arrangedElements_eq (elements : List Tree) :
    arrangedElements key elements = elements.map (Tree.arranged key) := by
  induction elements with
  | nil => rfl
  | cons t rest ih => rw [arrangedElements, ih, List.map_cons]

theorem arrangedMembers_eq (members : List (String × Tree)) :
    arrangedMembers key members = members.map (fun p => (p.1, p.2.arranged key)) := by
  induction members with
  | nil => rfl
  | cons p rest ih => rw [arrangedMembers, ih, List.map_cons]

theorem arrangedMembers_names (members : List (String × Tree)) :
    (arrangedMembers key members).map Prod.fst = members.map Prod.fst := by
  rw [arrangedMembers_eq, List.map_map]
  rfl

theorem mem_arrangedMembers {members : List (String × Tree)} {name : String} {t : Tree} :
    (name, t) ∈ arrangedMembers key members ↔
      ∃ u, (name, u) ∈ members ∧ u.arranged key = t := by
  rw [arrangedMembers_eq, List.mem_map]
  constructor
  · intro held
    rcases held with ⟨p, member, same⟩
    cases same
    exact ⟨p.2, member, rfl⟩
  · intro held
    rcases held with ⟨u, member, same⟩
    exact ⟨(name, u), member, by rw [same]⟩

theorem children_arranged {t u : Tree} (below : u ∈ (t.arranged key).children) :
    ∃ w ∈ t.children, u = w.arranged key := by
  cases t with
  | array elements =>
      rw [Tree.arranged, arrangedElements_eq] at below
      rcases List.mem_map.mp below with ⟨w, member, same⟩
      exact ⟨w, member, same.symm⟩
  | object members =>
      rw [Tree.arranged] at below
      rcases List.mem_map.mp below with ⟨p, member, same⟩
      rw [List.mem_insertionSort] at member
      rcases (mem_arrangedMembers key).mp member with ⟨w, held, here⟩
      exact ⟨w, List.mem_map.mpr ⟨_, held, rfl⟩, by rw [here, same]⟩
  | null => cases below
  | bool b => cases below
  | number n => cases below
  | string s => cases below

theorem arranged_distinct {t : Tree} (distinct : t.DistinctNames) :
    (t.arranged key).DistinctNames := by
  induction t using Tree.partsInduct with
  | step t ih =>
      apply Tree.distinctNames_iff.mpr
      constructor
      · intro members same
        cases t with
        | object ms =>
            cases same
            have names := (Tree.distinctNames_iff.mp distinct).1 ms rfl
            rw [((List.perm_insertionSort (byName key) _).map Prod.fst).nodup_iff,
              arrangedMembers_names]
            exact names
        | null => cases same
        | bool b => cases same
        | number n => cases same
        | string s => cases same
        | array elements => cases same
      · intro u below
        rcases children_arranged key below with ⟨w, member, same⟩
        rw [same]
        exact ih w member (distinct.child member)

theorem equiv_arranged {t : Tree} (distinct : t.DistinctNames) : t.Equiv (t.arranged key) := by
  induction t using Tree.induct with
  | null => exact .null
  | bool b => exact .bool b
  | number n => exact .number n
  | string s => exact .string s
  | array elements ih =>
      rw [Tree.arranged, arrangedElements_eq]
      refine .array (by rw [List.length_map]) ?_
      intro i t u here there
      rw [List.getElem?_map, here] at there
      cases there
      have member := List.mem_of_getElem? here
      exact ih t member (distinct.child member)
  | object members ih =>
      rw [Tree.arranged]
      constructor
      · intro name
        rw [((List.perm_insertionSort (byName key) _).map Prod.fst).mem_iff, arrangedMembers_names]
      · intro name t u here there
        rw [List.mem_insertionSort] at there
        rcases (mem_arrangedMembers key).mp there with ⟨w, held, same⟩
        have names := (Tree.distinctNames_iff.mp distinct).1 members rfl
        rw [← same, ← member_unique names here held]
        exact ih (name, t) here (distinct.child (List.mem_map.mpr ⟨(name, t), here, rfl⟩))

variable (separates : Function.Injective key)

include separates

theorem insertionSort_perm {α : Type} {xs ys : List (String × α)}
    (distinct : (xs.map Prod.fst).Nodup) (perm : xs.Perm ys) :
    xs.insertionSort (byName key) = ys.insertionSort (byName key) := by
  apply @List.Perm.eq_of_pairwise _ (byName key)
  · intro a b memberA memberB first second
    rw [List.mem_insertionSort] at memberA memberB
    have names : a.1 = b.1 := separates (le_antisymm first second)
    exact List.inj_on_of_nodup_map distinct memberA (perm.mem_iff.mpr memberB) names
  · exact List.pairwise_insertionSort _ xs
  · exact List.pairwise_insertionSort _ ys
  · exact (List.perm_insertionSort _ xs).trans (perm.trans (List.perm_insertionSort _ ys).symm)

theorem arranged_eq_of_equiv {t u : Tree} (same : t.Equiv u) (distinctT : t.DistinctNames)
    (distinctU : u.DistinctNames) : t.arranged key = u.arranged key := by
  induction same with
  | null => rfl
  | bool b => rfl
  | number n => rfl
  | string s => rfl
  | @array xs ys count _ ih =>
      rw [Tree.arranged, Tree.arranged, arrangedElements_eq, arrangedElements_eq]
      congr 1
      apply List.ext_getElem?
      intro i
      rw [List.getElem?_map, List.getElem?_map]
      by_cases bound : i < xs.length
      · have here := List.getElem?_eq_getElem bound
        have there := List.getElem?_eq_getElem (count ▸ bound)
        rw [here, there, Option.map_some, Option.map_some]
        congr 1
        exact ih i _ _ here there (distinctT.child (List.mem_of_getElem? here))
          (distinctU.child (List.mem_of_getElem? there))
      · rw [List.getElem?_eq_none (by omega), List.getElem?_eq_none (by omega)]
  | @object xs ys names _ ih =>
      have namesX := (Tree.distinctNames_iff.mp distinctT).1 xs rfl
      have namesY := (Tree.distinctNames_iff.mp distinctU).1 ys rfl
      have child : ∀ {members : List (String × Tree)} {name : String} {w : Tree},
          (name, w) ∈ members → w ∈ (Tree.object members).children :=
        fun member => List.mem_map.mpr ⟨_, member, rfl⟩
      have found : ∀ {members : List (String × Tree)} {name : String},
          name ∈ members.map Prod.fst → ∃ w, (name, w) ∈ members := by
        intro members name held
        rcases List.mem_map.mp held with ⟨p, member, first⟩
        exact ⟨p.2, by rw [← first]; exact member⟩
      rw [Tree.arranged, Tree.arranged]
      congr 1
      apply insertionSort_perm key separates
      · rw [arrangedMembers_names]
        exact namesX
      · have nodup : ∀ {members : List (String × Tree)}, (members.map Prod.fst).Nodup →
            (arrangedMembers key members).Nodup := by
          intro members distinct
          rw [← arrangedMembers_names key] at distinct
          exact distinct.of_map _
        apply (List.perm_ext_iff_of_nodup (nodup namesX) (nodup namesY)).mpr
        intro p
        cases p with
        | mk name w =>
            rw [mem_arrangedMembers, mem_arrangedMembers]
            constructor
            · intro held
              rcases held with ⟨x, here, value⟩
              rcases found ((names name).mp (List.mem_map.mpr ⟨_, here, rfl⟩)) with ⟨y, there⟩
              refine ⟨y, there, ?_⟩
              rw [← value]
              exact (ih name x y here there (distinctT.child (child here))
                (distinctU.child (child there))).symm
            · intro held
              rcases held with ⟨y, there, value⟩
              rcases found ((names name).mpr (List.mem_map.mpr ⟨_, there, rfl⟩)) with ⟨x, here⟩
              refine ⟨x, here, ?_⟩
              rw [← value]
              exact ih name x y here there (distinctT.child (child here))
                (distinctU.child (child there))

end Arranged

/-- The members of every object are in strictly increasing order of their key. -/
def Tree.Ordered {κ : Type} [LT κ] (key : String → κ) (t : Tree) : Prop :=
  ∀ depth members, t.Occurs depth (.object members) →
    (members.map Prod.fst).Pairwise fun a b => key a < key b

theorem arranged_ordered {κ : Type} [LinearOrder κ] {key : String → κ}
    (separates : Function.Injective key) {t : Tree} (distinct : t.DistinctNames) :
    (t.arranged key).Ordered key := by
  induction t using Tree.partsInduct with
  | step t ih =>
      intro depth members occurs
      generalize arrangement : t.arranged key = u at occurs
      cases occurs with
      | root =>
          have names := (Tree.distinctNames_iff.mp (arranged_distinct key distinct)).1 members
            arrangement
          have weak : members.Pairwise (byName key) := by
            cases t with
            | object ms =>
                cases arrangement
                exact List.pairwise_insertionSort _ _
            | null => cases arrangement
            | bool b => cases arrangement
            | number n => cases arrangement
            | string s => cases arrangement
            | array elements => cases arrangement
          rw [List.pairwise_map]
          rw [List.Nodup, List.pairwise_map] at names
          apply (weak.and names).imp
          intro a b both
          exact lt_of_le_of_ne both.1 (fun same => both.2 (separates same))
      | child below inside =>
          rw [← arrangement] at below
          rcases children_arranged key below with ⟨w, member, same⟩
          rw [same] at inside
          exact ih w member (distinct.child member) _ members inside

end O7Formal.Json
