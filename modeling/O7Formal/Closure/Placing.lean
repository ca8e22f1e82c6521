import O7Formal.Lib.JsonOrder

/-! Placing values at pointers, one after another, in one object. -/

namespace O7Formal.Json

theorem lookup_cons_eq (name other : String) (t : Tree) (members : List (String × Tree)) :
    ((name, t) :: members).lookup other = if other = name then some t else members.lookup other := by
  rw [List.lookup_cons]
  by_cases same : other = name
  · simp [same]
  · rw [beq_eq_false_iff_ne.mpr same, if_neg same]

theorem lookup_insertMember (name other : String) (t : Tree) (members : List (String × Tree)) :
    (insertMember name t members).lookup other =
      if other = name then some t else members.lookup other := by
  induction members with
  | nil => rw [insertMember, lookup_cons_eq]
  | cons p rest ih =>
      rcases p with ⟨first, u⟩
      rw [insertMember]
      by_cases here : name = first
      · subst here
        rw [if_pos rfl, lookup_cons_eq, lookup_cons_eq]
        by_cases same : other = name <;> simp [same]
      rw [if_neg here]
      by_cases before : name < first
      · rw [if_pos before, lookup_cons_eq]
      · rw [if_neg before, lookup_cons_eq, lookup_cons_eq, ih]
        by_cases same : other = name
        · subst same
          rw [if_neg here, if_pos rfl, if_pos rfl]
        · rw [if_neg same, if_neg same]

theorem mem_insertMember {name : String} {t : Tree} {members : List (String × Tree)}
    {p : String × Tree} (member : p ∈ insertMember name t members) :
    p = (name, t) ∨ p ∈ members := by
  induction members with
  | nil => exact .inl (List.mem_singleton.mp member)
  | cons q rest ih =>
      rcases q with ⟨first, u⟩
      rw [insertMember] at member
      split_ifs at member with here before
      · rcases List.mem_cons.mp member with same | old
        · exact .inl same
        · exact .inr (List.mem_cons_of_mem _ old)
      · exact List.mem_cons.mp member
      · rcases List.mem_cons.mp member with same | later
        · exact .inr (same ▸ List.mem_cons_self)
        · exact (ih later).imp_right (List.mem_cons_of_mem _)

abbrev Sorted (members : List (String × Tree)) : Prop :=
  (members.map Prod.fst).Pairwise fun a b => a < b

theorem insertMember_sorted {name : String} {t : Tree} {members : List (String × Tree)}
    (sorted : Sorted members) : Sorted (insertMember name t members) := by
  induction members with
  | nil => simp [Sorted, insertMember]
  | cons q rest ih =>
      rcases q with ⟨first, u⟩
      rw [Sorted, List.map_cons, List.pairwise_cons] at sorted
      rcases sorted with ⟨least, rest_sorted⟩
      rw [insertMember]
      split_ifs with here before
      · subst here
        exact List.pairwise_cons.mpr ⟨least, rest_sorted⟩
      · refine List.pairwise_cons.mpr ⟨?_, List.pairwise_cons.mpr ⟨least, rest_sorted⟩⟩
        intro other member
        rcases List.mem_cons.mp member with same | later
        · exact same ▸ before
        · exact String.lt_trans before (least other later)
      · refine List.pairwise_cons.mpr ⟨?_, ih rest_sorted⟩
        intro other member
        rcases List.mem_map.mp member with ⟨p, held, rfl⟩
        rcases mem_insertMember held with same | old
        · rw [same]
          by_contra notLess
          exact here (String.le_antisymm notLess before)
        · exact least _ (List.mem_map_of_mem old)

theorem insertMember_same {name : String} {t : Tree} {members : List (String × Tree)}
    (sorted : Sorted members) (found : members.lookup name = some t) :
    insertMember name t members = members := by
  induction members with
  | nil => cases found
  | cons q rest ih =>
      rcases q with ⟨first, u⟩
      rw [Sorted, List.map_cons, List.pairwise_cons] at sorted
      rw [lookup_cons_eq] at found
      rw [insertMember]
      by_cases here : name = first
      · subst here
        rw [if_pos rfl] at found ⊢
        rw [Option.some.inj found]
      · rw [if_neg here] at found
        have later : name ∈ rest.map Prod.fst := List.mem_map_of_mem (lookup_mem found)
        rw [if_neg here, if_neg (String.lt_asymm (sorted.1 name later)), ih sorted.2 found]

namespace Tree

abbrev IsValue (t : Tree) : Prop := t.Ordered id

theorem isValue_iff {t : Tree} :
    t.IsValue ↔ (∀ members, t = .object members → Sorted members) ∧
      ∀ u ∈ t.children, u.IsValue := by
  constructor
  · intro ordered
    refine ⟨fun members same => ordered 1 members (same ▸ .root t), ?_⟩
    intro u below depth members inside
    exact ordered (depth + 1) members (.child below inside)
  · rintro ⟨own, inner⟩ depth members occurs
    cases occurs with
    | root => exact own members rfl
    | child below inside => exact inner _ below _ members inside

theorem IsValue.member {members : List (String × Tree)} (value : (object members).IsValue)
    {name : String} {u : Tree} (found : members.lookup name = some u) : u.IsValue :=
  (isValue_iff.mp value).2 u (List.mem_map_of_mem (lookup_mem found))

theorem isValue_insert {members : List (String × Tree)} (value : (object members).IsValue)
    {name : String} {u : Tree} (inserted : u.IsValue) :
    (object (insertMember name u members)).IsValue := by
  rw [isValue_iff] at value ⊢
  constructor
  · intro ms same
    cases same
    exact insertMember_sorted (value.1 members rfl)
  · intro w below
    rcases List.mem_map.mp below with ⟨p, member, rfl⟩
    rcases mem_insertMember member with same | old
    · rw [same]
      exact inserted
    · exact value.2 _ (List.mem_map_of_mem old)

theorem isValue_empty : (object []).IsValue := by
  refine isValue_iff.mpr ⟨fun members same => ?_, nofun⟩
  cases same
  exact List.Pairwise.nil

/-- The path runs through something that is there and is no object. -/
def crosses : Tree → List String → Bool
  | _, [] => false
  | object members, name :: rest =>
      match members.lookup name with
      | some u => u.crosses rest
      | none => false
  | _, _ :: _ => true

/-- The code's own `place_segments`, in place: what it leaves of the target, and whether it returns
`Some`. A member that is missing on the way is made before the rest is placed in it. -/
def placeSegmentsIn (target : Tree) (segments : List String) (value : Tree) : Tree × Option Unit :=
  match segments, target with
  | [], target => (target, none)
  | [name], object members => (object (insertMember name value members), some ())
  | name :: rest, object members =>
      let child := ((members.lookup name).getD (object [])).placeSegmentsIn rest value
      (object (insertMember name child.1 members), child.2)
  | _ :: _, target => (target, none)

def placeIn (target : Tree) (path : String) (value : Tree) : Tree × Option Unit :=
  match path.toList with
  | '/' :: rest => target.placeSegmentsIn ((splitSlash rest).map unescapeToken) value
  | _ => (target, none)

theorem placeSegments_none_iff {t value : Tree} {segments : List String} (more : segments ≠ []) :
    t.placeSegments segments value = none ↔ t.crosses segments = true := by
  induction segments generalizing t with
  | nil => exact absurd rfl more
  | cons name rest ih =>
      cases t with
      | object members =>
          rw [crosses]
          cases rest with
          | nil => cases members.lookup name <;> simp [placeSegments, asObject, crosses]
          | cons next rest =>
              rw [placeSegments]
              · simp only [asObject, Option.bind_eq_bind, Option.bind_some,
                  Option.bind_eq_none_iff, Option.pure_def, reduceCtorEq, imp_false]
                rw [← Option.eq_none_iff_forall_ne_some, ih (List.cons_ne_nil _ _)]
                cases members.lookup name with
                | none => rfl
                | some u => rfl
              · exact fun empty => List.cons_ne_nil _ _ empty
      | null => cases rest <;> exact iff_of_true rfl rfl
      | bool b => cases rest <;> exact iff_of_true rfl rfl
      | number n => cases rest <;> exact iff_of_true rfl rfl
      | string s => cases rest <;> exact iff_of_true rfl rfl
      | array elements => cases rest <;> exact iff_of_true rfl rfl

theorem placeSegmentsIn_eq {target value : Tree} (sorted : target.IsValue) (segments : List String) :
    target.placeSegmentsIn segments value =
      match target.placeSegments segments value with
      | some t => (t, some ())
      | none => (target, none) := by
  induction segments generalizing target with
  | nil => rfl
  | cons name rest ih =>
      cases target with
      | object members =>
          cases rest with
          | nil => rfl
          | cons next rest =>
              have child : ((members.lookup name).getD (object [])).IsValue := by
                cases found : members.lookup name with
                | none => exact isValue_empty
                | some u => exact sorted.member found
              rw [placeSegmentsIn, placeSegments, ih child]
              · simp only [asObject, Option.bind_eq_bind, Option.bind_some]
                cases placed : ((members.lookup name).getD (object [])).placeSegments
                    (next :: rest) value with
                | some t => rfl
                | none =>
                    simp only [Option.bind_none]
                    -- Only what is there already stops it, and that is put back.
                    cases found : members.lookup name with
                    | none =>
                        rw [found, placeSegments_none_iff (List.cons_ne_nil _ _)] at placed
                        cases placed
                    | some u =>
                        have own := (isValue_iff.mp sorted).1 members rfl
                        rw [Option.getD_some, insertMember_same own found]
              · exact fun empty => List.cons_ne_nil _ _ empty
              · exact fun empty => List.cons_ne_nil _ _ empty
      | null => cases rest <;> rfl
      | bool b => cases rest <;> rfl
      | number n => cases rest <;> rfl
      | string s => cases rest <;> rfl
      | array elements => cases rest <;> rfl

theorem placeSegments_cons {t t' value : Tree} {name : String} {rest : List String}
    (placed : t.placeSegments (name :: rest) value = some t') :
    ∃ members child, t = object members ∧ t' = object (insertMember name child members) ∧
      (rest = [] ∧ child = value ∨
        rest ≠ [] ∧ ((members.lookup name).getD (object [])).placeSegments rest value = some child) := by
  cases t with
  | object members =>
      cases rest with
      | nil => exact ⟨members, value, rfl, (Option.some.inj placed).symm, .inl ⟨rfl, rfl⟩⟩
      | cons next rest =>
          rw [placeSegments] at placed
          · simp only [asObject, Option.bind_eq_bind, Option.bind_some, Option.bind_eq_some_iff,
              Option.pure_def, Option.some.injEq] at placed
            rcases placed with ⟨child, inner, rfl⟩
            exact ⟨members, child, rfl, rfl, .inr ⟨List.cons_ne_nil _ _, inner⟩⟩
          · exact fun empty => List.cons_ne_nil _ _ empty
  | null => cases rest <;> cases placed
  | bool b => cases rest <;> cases placed
  | number n => cases rest <;> cases placed
  | string s => cases rest <;> cases placed
  | array elements => cases rest <;> cases placed

theorem follow_cons_object (members : List (String × Tree)) (name : String) (rest : List String) :
    (object members).follow (name :: rest) = (members.lookup name).bind fun u => u.follow rest := rfl

theorem follow_append (t : Tree) (path rest : List String) :
    t.follow (path ++ rest) = (t.follow path).bind fun u => u.follow rest := by
  induction path generalizing t with
  | nil => rfl
  | cons token path ih =>
      rw [List.cons_append, follow, follow, Option.bind_assoc]
      exact congrArg _ (funext fun u => ih u)

section Placed

variable {t t' value : Tree} {segments : List String}

theorem follow_placed (placed : t.placeSegments segments value = some t') :
    t'.follow segments = some value := by
  induction segments generalizing t t' with
  | nil => cases placed
  | cons name rest ih =>
      rcases placeSegments_cons placed with ⟨members, child, rfl, rfl, ends⟩
      rw [follow_cons_object, lookup_insertMember, if_pos rfl, Option.bind_some]
      rcases ends with ⟨rfl, rfl⟩ | ⟨_, inner⟩
      · rfl
      · exact ih inner

theorem follow_above (placed : t.placeSegments segments value = some t') {path : List String}
    (above : path <+: segments) (proper : path ≠ segments) :
    ∃ members, t'.follow path = some (object members) := by
  induction segments generalizing t t' path with
  | nil => cases placed
  | cons name rest ih =>
      rcases placeSegments_cons placed with ⟨members, child, rfl, rfl, ends⟩
      cases path with
      | nil => exact ⟨_, rfl⟩
      | cons token path =>
          rcases List.cons_prefix_cons.mp above with ⟨rfl, within⟩
          have shorter : path ≠ rest := fun same => proper (congrArg _ same)
          rw [follow_cons_object, lookup_insertMember, if_pos rfl, Option.bind_some]
          rcases ends with ⟨rfl, _⟩ | ⟨_, inner⟩
          · exact absurd (List.prefix_nil.mp within) shorter
          · exact ih inner within shorter

theorem follow_beside (placed : t.placeSegments segments value = some t') {path : List String}
    (below : ¬ segments <+: path) (above : ¬ path <+: segments) :
    t'.follow path = t.follow path := by
  induction segments generalizing t t' path with
  | nil => cases placed
  | cons name rest ih =>
      rcases placeSegments_cons placed with ⟨members, child, rfl, rfl, ends⟩
      cases path with
      | nil => exact absurd List.nil_prefix above
      | cons token path =>
          rw [follow_cons_object, follow_cons_object, lookup_insertMember]
          by_cases same : token = name
          · subst same
            rw [List.cons_prefix_cons] at below above
            have below : ¬ rest <+: path := fun inner => below ⟨rfl, inner⟩
            have above : ¬ path <+: rest := fun inner => above ⟨rfl, inner⟩
            rw [if_pos rfl, Option.bind_some]
            rcases ends with ⟨rfl, _⟩ | ⟨_, inner⟩
            · exact absurd List.nil_prefix below
            · rw [ih inner below above]
              cases members.lookup token with
              | some u => rfl
              | none =>
                  cases path with
                  | nil => exact absurd List.nil_prefix above
                  | cons next path => rfl
          · rw [if_neg same]

theorem isValue_placed (sorted : t.IsValue) (inserted : value.IsValue)
    (placed : t.placeSegments segments value = some t') : t'.IsValue := by
  induction segments generalizing t t' with
  | nil => cases placed
  | cons name rest ih =>
      rcases placeSegments_cons placed with ⟨members, child, rfl, rfl, ends⟩
      apply isValue_insert sorted
      rcases ends with ⟨_, rfl⟩ | ⟨_, inner⟩
      · exact inserted
      · cases found : members.lookup name with
        | none =>
            rw [found] at inner
            exact ih isValue_empty inner
        | some u =>
            rw [found] at inner
            exact ih (sorted.member found) inner

theorem placed_same (sorted : t.IsValue) (placed : t.placeSegments segments value = some t')
    (held : t.follow segments = some value) : t' = t := by
  induction segments generalizing t t' with
  | nil => cases placed
  | cons name rest ih =>
      rcases placeSegments_cons placed with ⟨members, child, rfl, rfl, ends⟩
      rw [follow_cons_object, Option.bind_eq_some_iff] at held
      rcases held with ⟨u, found, held⟩
      have own := (isValue_iff.mp sorted).1 members rfl
      rcases ends with ⟨rfl, rfl⟩ | ⟨_, inner⟩
      · rw [insertMember_same own (found.trans held)]
      · rw [found, Option.getD_some] at inner
        rw [ih (sorted.member found) inner held, insertMember_same own found]

end Placed

theorem crosses_of_not_object {u : Tree} (plain : u.asObject = none) {rest : List String}
    (more : rest ≠ []) : u.crosses rest = true := by
  cases rest with
  | nil => exact absurd rfl more
  | cons name rest => cases u <;> first | rfl | cases plain

theorem crosses_append {t u : Tree} {path rest : List String} (found : t.follow path = some u)
    (crossed : u.crosses rest = true) : t.crosses (path ++ rest) = true := by
  induction path generalizing t with
  | nil =>
      cases found
      exact crossed
  | cons token path ih =>
      cases t with
      | object members =>
          rw [follow_cons_object, Option.bind_eq_some_iff] at found
          rcases found with ⟨w, held, found⟩
          rw [List.cons_append, crosses, held]
          exact ih found
      | null => rfl
      | bool b => rfl
      | number n => rfl
      | string s => rfl
      | array elements => rfl

theorem follow_of_crosses {t : Tree} {segments : List String} (crossed : t.crosses segments = true) :
    ∃ path rest u, segments = path ++ rest ∧ rest ≠ [] ∧ t.follow path = some u ∧
      u.asObject = none := by
  induction segments generalizing t with
  | nil => cases t <;> cases crossed
  | cons name rest ih =>
      cases t with
      | object members =>
          rw [crosses] at crossed
          cases found : members.lookup name with
          | none =>
              rw [found] at crossed
              cases crossed
          | some u =>
              rw [found] at crossed
              rcases ih crossed with ⟨path, later, w, rfl, more, held, plain⟩
              refine ⟨name :: path, later, w, rfl, more, ?_, plain⟩
              rw [follow_cons_object, found]
              exact held
      | null => exact ⟨[], name :: rest, _, rfl, List.cons_ne_nil _ _, rfl, rfl⟩
      | bool b => exact ⟨[], name :: rest, _, rfl, List.cons_ne_nil _ _, rfl, rfl⟩
      | number n => exact ⟨[], name :: rest, _, rfl, List.cons_ne_nil _ _, rfl, rfl⟩
      | string s => exact ⟨[], name :: rest, _, rfl, List.cons_ne_nil _ _, rfl, rfl⟩
      | array elements => exact ⟨[], name :: rest, _, rfl, List.cons_ne_nil _ _, rfl, rfl⟩

end Tree

/-- A reference token of RFC 6901, in which `~` and `/` are spelled `~0` and `~1`. -/
inductive Token : List Char → Prop
  | nil : Token []
  | tilde {rest : List Char} (later : Token rest) : Token ('~' :: '0' :: rest)
  | slash {rest : List Char} (later : Token rest) : Token ('~' :: '1' :: rest)
  | plain {c : Char} {rest : List Char} (notTilde : c ≠ '~') (notSlash : c ≠ '/')
      (later : Token rest) : Token (c :: rest)

def IsPointer (path : String) : Prop :=
  path = "" ∨ ∃ rest, path.toList = '/' :: rest ∧ ∀ token ∈ splitSlash rest, Token token

theorem replaceTilde_plain {digit plain c : Char} (notTilde : c ≠ '~') (rest : List Char) :
    replaceTilde digit plain (c :: rest) = c :: replaceTilde digit plain rest := by
  cases rest with
  | nil => rfl
  | cons d rest => rw [replaceTilde, if_neg fun both => notTilde both.1]

theorem replaceTilde_hit (digit plain : Char) (rest : List Char) :
    replaceTilde digit plain ('~' :: digit :: rest) = plain :: replaceTilde digit plain rest := by
  rw [replaceTilde, if_pos ⟨rfl, rfl⟩]

theorem replaceTilde_miss {digit plain d : Char} (other : d ≠ digit) (rest : List Char) :
    replaceTilde digit plain ('~' :: d :: rest) = '~' :: replaceTilde digit plain (d :: rest) := by
  rw [replaceTilde, if_neg fun both => other both.2]

def meaning (token : List Char) : List Char := replaceTilde '0' '~' (replaceTilde '1' '/' token)

theorem meaning_tilde (rest : List Char) : meaning ('~' :: '0' :: rest) = '~' :: meaning rest := by
  rw [meaning, replaceTilde_miss (by decide), replaceTilde_plain (by decide : '0' ≠ '~'), replaceTilde_hit]
  rfl

theorem meaning_slash (rest : List Char) : meaning ('~' :: '1' :: rest) = '/' :: meaning rest := by
  rw [meaning, replaceTilde_hit, replaceTilde_plain (by decide)]
  rfl

theorem meaning_plain {c : Char} (notTilde : c ≠ '~') (rest : List Char) :
    meaning (c :: rest) = c :: meaning rest := by
  rw [meaning, replaceTilde_plain notTilde, replaceTilde_plain notTilde]
  rfl

theorem Token.meaning_inj {token other : List Char} (first : Token token) (second : Token other)
    (same : meaning token = meaning other) : token = other := by
  induction first generalizing other with
  | nil =>
      cases second with
      | nil => rfl
      | tilde later => rw [meaning_tilde] at same; cases same
      | slash later => rw [meaning_slash] at same; cases same
      | plain notTilde notSlash later => rw [meaning_plain notTilde] at same; cases same
  | tilde later ih =>
      rw [meaning_tilde] at same
      cases second with
      | nil => cases same
      | tilde later => rw [meaning_tilde] at same; rw [ih later (List.cons.inj same).2]
      | slash later =>
          rw [meaning_slash] at same
          exact absurd (List.cons.inj same).1 (by decide)
      | plain notTilde notSlash later =>
          rw [meaning_plain notTilde] at same
          exact absurd (List.cons.inj same).1.symm notTilde
  | slash later ih =>
      rw [meaning_slash] at same
      cases second with
      | nil => cases same
      | tilde later =>
          rw [meaning_tilde] at same
          exact absurd (List.cons.inj same).1 (by decide)
      | slash later => rw [meaning_slash] at same; rw [ih later (List.cons.inj same).2]
      | plain notTilde notSlash later =>
          rw [meaning_plain notTilde] at same
          exact absurd (List.cons.inj same).1.symm notSlash
  | plain notTilde notSlash later ih =>
      rw [meaning_plain notTilde] at same
      cases second with
      | nil => cases same
      | tilde later =>
          rw [meaning_tilde] at same
          exact absurd (List.cons.inj same).1 notTilde
      | slash later =>
          rw [meaning_slash] at same
          exact absurd (List.cons.inj same).1 notSlash
      | plain notTilde' notSlash' later =>
          rw [meaning_plain notTilde'] at same
          rcases List.cons.inj same with ⟨rfl, others⟩
          rw [ih later others]

theorem splitSlash_cons (c : Char) (rest : List Char) : ∃ token tokens,
    splitSlash rest = token :: tokens ∧
      splitSlash (c :: rest) = if c = '/' then [] :: token :: tokens else (c :: token) :: tokens := by
  have some : splitSlash rest ≠ [] := by
    cases rest with
    | nil => exact List.cons_ne_nil _ _
    | cons d rest =>
        unfold splitSlash
        split <;> first | exact List.cons_ne_nil _ _ | (split <;> exact List.cons_ne_nil _ _)
  rcases List.exists_cons_of_ne_nil some with ⟨token, tokens, split⟩
  refine ⟨token, tokens, split, ?_⟩
  by_cases slash : c = '/'
  · rw [if_pos slash, slash, splitSlash, split]
  · rw [if_neg slash, splitSlash, split]
    exact slash

theorem splitSlash_injective : Function.Injective splitSlash := by
  intro a
  induction a with
  | nil =>
      intro b same
      cases b with
      | nil => rfl
      | cons d b =>
          rcases splitSlash_cons d b with ⟨token, tokens, _, split⟩
          rw [split] at same
          split_ifs at same <;> cases same
  | cons c a ih =>
      intro b same
      rcases splitSlash_cons c a with ⟨token, tokens, restA, splitA⟩
      rw [splitA] at same
      cases b with
      | nil => split_ifs at same <;> cases same
      | cons d b =>
          rcases splitSlash_cons d b with ⟨token', tokens', restB, splitB⟩
          rw [splitB] at same
          by_cases slashA : c = '/' <;> by_cases slashB : d = '/'
          · rw [if_pos slashA, if_pos slashB, ← restA, ← restB] at same
            rw [slashA, slashB, ih (List.cons.inj same).2]
          · rw [if_pos slashA, if_neg slashB] at same
            cases same
          · rw [if_neg slashA, if_pos slashB] at same
            cases same
          · rw [if_neg slashA, if_neg slashB] at same
            cases same
            rw [ih (restA.trans restB.symm)]

theorem map_inj_of {α β : Type} {f : α → β} {xs ys : List α}
    (separates : ∀ a ∈ xs, ∀ b ∈ ys, f a = f b → a = b) (same : xs.map f = ys.map f) : xs = ys := by
  induction xs generalizing ys with
  | nil => exact (List.map_eq_nil_iff.mp same.symm).symm
  | cons a xs ih =>
      cases ys with
      | nil => cases same
      | cons b ys =>
          rcases List.cons.inj same with ⟨head, tail⟩
          rw [separates a List.mem_cons_self b List.mem_cons_self head,
            ih (fun c memberC d memberD => separates c (List.mem_cons_of_mem _ memberC) d
              (List.mem_cons_of_mem _ memberD)) tail]

theorem pointerTokens_inj {path other : String} (first : IsPointer path) (second : IsPointer other)
    (same : pointerTokens path = pointerTokens other) : path = other := by
  have whole : ∀ rest, (splitSlash rest).map unescapeToken ≠ [] := by
    intro rest none
    have empty := List.map_eq_nil_iff.mp none
    rcases splitSlash_cons '/' rest with ⟨_, _, split, _⟩
    rw [empty] at split
    cases split
  rcases first with rfl | ⟨a, textA, tokensA⟩
  · rcases second with rfl | ⟨b, textB, _⟩
    · rfl
    · simp only [pointerTokens, textB] at same
      exact absurd (Option.some.inj same).symm (whole b)
  · rcases second with rfl | ⟨b, textB, tokensB⟩
    · simp only [pointerTokens, textA] at same
      exact absurd (Option.some.inj same) (whole a)
    · simp only [pointerTokens, textA, textB, Option.some.injEq] at same
      have split : splitSlash a = splitSlash b := by
        refine map_inj_of (fun token member other memberB spelled => ?_) same
        exact (tokensA token member).meaning_inj (tokensB other memberB)
          (String.ofList_injective spelled)
      rw [← String.toList_inj, textA, textB, splitSlash_injective split]

def tokens (path : String) : List String := (pointerTokens path).getD []

theorem IsPointer.tokens_eq {path : String} (spelled : IsPointer path) :
    pointerTokens path = some (tokens path) := by
  rcases spelled with rfl | ⟨rest, text, _⟩
  · rfl
  · simp only [tokens, pointerTokens, text, Option.getD_some]

theorem tokens_inj {path other : String} (first : IsPointer path) (second : IsPointer other)
    (same : tokens path = tokens other) : path = other := by
  apply pointerTokens_inj first second
  rw [first.tokens_eq, second.tokens_eq, same]

theorem Tree.place_eq {path : String} (spelled : IsPointer path) (t value : Tree) :
    t.place path value = t.placeSegments (tokens path) value := by
  rcases spelled with rfl | ⟨rest, text, _⟩
  · rfl
  · simp only [place, tokens, pointerTokens, text, Option.getD_some]

theorem Tree.placeIn_eq {t value : Tree} (sorted : t.IsValue) (path : String) :
    t.placeIn path value =
      match t.place path value with
      | some t' => (t', some ())
      | none => (t, none) := by
  cases text : path.toList with
  | nil => simp only [placeIn, place, text]
  | cons c rest =>
      by_cases slash : c = '/'
      · subst slash
        simp only [placeIn, place, text]
        exact placeSegmentsIn_eq sorted _
      · simp only [placeIn, place, text]
        split <;> simp_all

end O7Formal.Json

namespace O7Formal.Closure

open Json

abbrev Placement := String × Tree

def ReadBack (view : Tree) (placed : List Placement) : Prop :=
  ∀ p ∈ placed, view.pointer p.1 = some p.2

/-- One call after another: each returns `None` and leaves the view as it was, or returns `Some` and
leaves every placement so far to be read back. -/
def Lossless (view : Tree) (placed : List Placement) : List Placement → Prop
  | [] => True
  | call :: calls =>
      match view.placeIn call.1 call.2 with
      | (after, none) => after = view ∧ Lossless after placed calls
      | (after, some ()) =>
          ReadBack after (call :: placed) ∧ Lossless after (call :: placed) calls

/-- The pointer is the whole document, or it runs into a value that stands and is no object there. -/
def Stopped (placed : List Placement) (path : String) : Prop :=
  tokens path = [] ∨
    ∃ p ∈ placed, ∃ rest, tokens path = tokens p.1 ++ rest ∧ p.2.crosses rest = true

/-- Where one of two pointers runs through the other, the outer value has the inner one there. -/
def Agrees (p call : Placement) : Prop :=
  ∀ rest, rest ≠ [] → (tokens call.1 = tokens p.1 ++ rest → p.2.follow rest = some call.2) ∧
    (tokens p.1 = tokens call.1 ++ rest → call.2.follow rest = some p.2)

/-- Each call is stopped by a placement that stands, or agrees with all of them. -/
inductive Compatible : List Placement → List Placement → Prop
  | nil {placed : List Placement} : Compatible placed []
  | stopped {placed calls : List Placement} {call : Placement} (stop : Stopped placed call.1)
      (later : Compatible placed calls) : Compatible placed (call :: calls)
  | placed {placed calls : List Placement} {call : Placement} (free : ¬ Stopped placed call.1)
      (agrees : ∀ p ∈ placed, Agrees p call) (later : Compatible (call :: placed) calls) :
      Compatible placed (call :: calls)

/-- The view of the placements that stand: each is read back, and what is no object is theirs. -/
structure Shows (view : Tree) (placed : List Placement) : Prop where
  sorted : view.IsValue
  pointers : ∀ p ∈ placed, IsPointer p.1
  readBack : ReadBack view placed
  covered : ∀ path u, view.follow path = some u → u.asObject = none →
    ∃ p ∈ placed, tokens p.1 <+: path

theorem shows_empty : Shows (.object []) [] := by
  refine ⟨Tree.isValue_empty, nofun, nofun, ?_⟩
  intro path u found plain
  cases path with
  | nil =>
      cases found
      cases plain
  | cons token path => cases found

section Step

variable {view after : Tree} {placed : List Placement} {call : Placement}

theorem Shows.follow (shown : Shows view placed) {p : Placement} (member : p ∈ placed) :
    view.follow (tokens p.1) = some p.2 := by
  have read := shown.readBack p member
  rw [Tree.pointer, (shown.pointers p member).tokens_eq] at read
  exact read

theorem readBack_iff (pointers : ∀ p ∈ placed, IsPointer p.1) :
    ReadBack view placed ↔ ∀ p ∈ placed, view.follow (tokens p.1) = some p.2 := by
  refine forall₂_congr fun p member => ?_
  rw [Tree.pointer, (pointers p member).tokens_eq, Option.bind_some]

/-- A call returns `None` exactly when it is stopped. -/
theorem Shows.place_none_iff (shown : Shows view placed) (spelled : IsPointer call.1) :
    view.place call.1 call.2 = none ↔ Stopped placed call.1 := by
  rw [Tree.place_eq spelled]
  by_cases none : tokens call.1 = []
  · rw [none]
    exact iff_of_true rfl (.inl none)
  rw [Tree.placeSegments_none_iff none, Stopped, or_iff_right none]
  constructor
  · intro crossed
    rcases Tree.follow_of_crosses crossed with ⟨path, rest, u, split, more, found, plain⟩
    rcases shown.covered path u found plain with ⟨p, member, later, inside⟩
    refine ⟨p, member, later ++ rest, ?_, ?_⟩
    · rw [split, ← inside, List.append_assoc]
    · rw [← inside, Tree.follow_append, shown.follow member, Option.bind_some] at found
      exact Tree.crosses_append found (Tree.crosses_of_not_object plain more)
  · rintro ⟨p, member, rest, split, crossed⟩
    rw [split]
    exact Tree.crosses_append (shown.follow member) crossed

theorem Shows.readBack_iff (shown : Shows view placed) (spelled : IsPointer call.1)
    (fresh : ∀ p ∈ placed, p.1 ≠ call.1) (done : view.place call.1 call.2 = some after) :
    ReadBack after (call :: placed) ↔ ∀ p ∈ placed, Agrees p call := by
  have pointers : ∀ p ∈ call :: placed, IsPointer p.1 :=
    List.forall_mem_cons.mpr ⟨spelled, shown.pointers⟩
  rw [Tree.place_eq spelled] at done
  have here := Tree.follow_placed done
  rw [Closure.readBack_iff pointers, List.forall_mem_cons, and_iff_right here]
  constructor
  · intro kept p member rest _
    have held := kept p member
    constructor
    · intro split
      rw [split, Tree.follow_append, held, Option.bind_some] at here
      exact here
    · intro split
      rw [split, Tree.follow_append, here, Option.bind_some] at held
      exact held
  · intro agrees p member
    have apart : tokens p.1 ≠ tokens call.1 := fun same =>
      fresh p member (tokens_inj (shown.pointers p member) spelled same)
    by_cases inner : tokens p.1 <+: tokens call.1
    · rcases inner with ⟨rest, split⟩
      have more : rest ≠ [] := by
        rintro rfl
        rw [List.append_nil] at split
        exact apart split
      have held : view.follow (tokens call.1) = some call.2 := by
        rw [← split, Tree.follow_append, shown.follow member, Option.bind_some]
        exact (agrees p member rest more).1 split.symm
      rw [Tree.placed_same shown.sorted done held]
      exact shown.follow member
    by_cases outer : tokens call.1 <+: tokens p.1
    · rcases outer with ⟨rest, split⟩
      have more : rest ≠ [] := by
        rintro rfl
        rw [List.append_nil] at split
        exact apart split.symm
      rw [← split, Tree.follow_append, here, Option.bind_some]
      exact (agrees p member rest more).2 split.symm
    · rw [Tree.follow_beside done outer inner]
      exact shown.follow member

theorem Shows.place (shown : Shows view placed) (spelled : IsPointer call.1)
    (sorted : call.2.IsValue) (done : view.place call.1 call.2 = some after)
    (kept : ReadBack after (call :: placed)) : Shows after (call :: placed) := by
  rw [Tree.place_eq spelled] at done
  refine ⟨Tree.isValue_placed shown.sorted sorted done,
    List.forall_mem_cons.mpr ⟨spelled, shown.pointers⟩, kept, ?_⟩
  intro path u found plain
  by_cases below : tokens call.1 <+: path
  · exact ⟨call, List.mem_cons_self, below⟩
  by_cases above : path <+: tokens call.1
  · have proper : path ≠ tokens call.1 := fun same => below (same ▸ List.prefix_refl _)
    rcases Tree.follow_above done above proper with ⟨members, object⟩
    rw [object] at found
    cases found
    cases plain
  · rw [Tree.follow_beside done below above] at found
    rcases shown.covered path u found plain with ⟨p, member, inside⟩
    exact ⟨p, List.mem_cons_of_mem _ member, inside⟩

end Step

/-- What is asked of a list of calls, after those whose placements stand. -/
structure Declaring (placed calls : List Placement) : Prop where
  pointers : ∀ call ∈ calls, IsPointer call.1
  values : ∀ call ∈ calls, call.2.IsValue
  distinct : (calls.map Prod.fst).Nodup
  fresh : ∀ call ∈ calls, ∀ p ∈ placed, p.1 ≠ call.1

theorem Declaring.stopped {placed calls : List Placement} {call : Placement}
    (declaring : Declaring placed (call :: calls)) : Declaring placed calls :=
  ⟨fun c member => declaring.pointers c (List.mem_cons_of_mem _ member),
    fun c member => declaring.values c (List.mem_cons_of_mem _ member),
    (List.nodup_cons.mp declaring.distinct).2,
    fun c member => declaring.fresh c (List.mem_cons_of_mem _ member)⟩

theorem Declaring.placed {placed calls : List Placement} {call : Placement}
    (declaring : Declaring placed (call :: calls)) : Declaring (call :: placed) calls := by
  refine ⟨declaring.stopped.pointers, declaring.stopped.values, declaring.stopped.distinct, ?_⟩
  intro c member p held same
  rcases List.mem_cons.mp held with rfl | old
  · exact (List.nodup_cons.mp declaring.distinct).1 (same ▸ List.mem_map_of_mem member)
  · exact declaring.stopped.fresh c member p old same

theorem lossless_iff {calls : List Placement} {view : Tree} {placed : List Placement}
    (shown : Shows view placed) (declaring : Declaring placed calls) :
    Lossless view placed calls ↔ Compatible placed calls := by
  induction calls generalizing view placed with
  | nil => exact iff_of_true trivial .nil
  | cons call calls ih =>
      have spelled := declaring.pointers call List.mem_cons_self
      have stops : view.place call.1 call.2 = none ↔ Stopped placed call.1 :=
        shown.place_none_iff spelled
      rw [Lossless, Tree.placeIn_eq shown.sorted]
      cases done : view.place call.1 call.2 with
      | none =>
          have stop : Stopped placed call.1 := stops.mp done
          dsimp only
          rw [and_iff_right rfl, ih shown declaring.stopped]
          constructor
          · exact .stopped stop
          · intro compatible
            cases compatible with
            | stopped _ later => exact later
            | placed free _ _ => exact absurd stop free
      | some after =>
          have free : ¬ Stopped placed call.1 := fun stop => by
            rw [stops.mpr stop] at done
            cases done
          have kept := shown.readBack_iff spelled (declaring.fresh call List.mem_cons_self) done
          have next := fun read : ReadBack after (call :: placed) =>
            ih (shown.place spelled (declaring.values call List.mem_cons_self) done read)
              declaring.placed
          constructor
          · rintro ⟨read, later⟩
            exact .placed free (kept.mp read) ((next read).mp later)
          · intro compatible
            cases compatible with
            | stopped stop _ => exact absurd stop free
            | placed _ agrees later =>
                have read := kept.mpr agrees
                exact ⟨read, (next read).mpr later⟩

/-- From the empty object, no call loses a placement exactly when each is stopped by one that stands,
or agrees with all of them. -/
theorem place_lossless_iff (calls : List Placement) (pointers : ∀ call ∈ calls, IsPointer call.1)
    (distinct : (calls.map Prod.fst).Nodup) (values : ∀ call ∈ calls, call.2.IsValue) :
    Lossless (.object []) [] calls ↔ Compatible [] calls :=
  lossless_iff shows_empty ⟨pointers, values, distinct, fun _ _ => nofun⟩

theorem isPointer_of {path : String} {rest : List Char} (text : path.toList = '/' :: rest)
    (plain : rest.all (· != '~') = true) : IsPointer path := by
  refine .inr ⟨rest, text, ?_⟩
  clear text
  induction rest with
  | nil => exact List.forall_mem_singleton.mpr .nil
  | cons c rest ih =>
      rw [List.all_cons, Bool.and_eq_true, bne_iff_ne] at plain
      have later := ih plain.2
      rcases splitSlash_cons c rest with ⟨token, tokens, split, whole⟩
      rw [split, List.forall_mem_cons] at later
      rw [whole]
      split_ifs with slash
      · exact List.forall_mem_cons.mpr ⟨.nil, List.forall_mem_cons.mpr later⟩
      · exact List.forall_mem_cons.mpr ⟨.plain plain.1 slash later.1, later.2⟩

namespace UserSample

def login : Placement := ("/user/login", .string "octocat")
def number : Placement := ("/user/id", .string "1")
def user : Placement := ("/user", .string "octocat")

theorem pointer_login : IsPointer login.1 := isPointer_of rfl (by decide)
theorem pointer_number : IsPointer number.1 := isPointer_of rfl (by decide)
theorem pointer_user : IsPointer user.1 := isPointer_of rfl (by decide)

theorem isValue_string (s : String) : (Tree.string s).IsValue :=
  Tree.isValue_iff.mpr ⟨nofun, nofun⟩

end UserSample

open UserSample in
/-- The user that is placed over its login takes the login away. -/
theorem place_overwrites : ¬ ∀ calls : List Placement, (∀ call ∈ calls, IsPointer call.1) →
    (calls.map Prod.fst).Nodup → (∀ call ∈ calls, call.2.IsValue) →
    Lossless (.object []) [] calls := by
  intro lossless
  have kept := lossless [login, user] (by simp [pointer_login, pointer_user])
    (by decide) (by simp [login, user, isValue_string])
  have read : ReadBack (.object [("user", .string "octocat")]) [user, login] := kept.2.1
  have gone := read login (by simp)
  cases gone

open UserSample in
theorem place_lossless_siblings :
    Lossless (.object []) [] [login, number] ↔ Compatible [] [login, number] :=
  place_lossless_iff [login, number] (by simp [pointer_login, pointer_number]) (by decide)
    (by simp [login, number, isValue_string])

end O7Formal.Closure
