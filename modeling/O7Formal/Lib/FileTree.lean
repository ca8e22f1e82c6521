import Mathlib.Data.List.Basic
import Mathlib.Logic.Function.Basic
import O7Formal.Lib.Fallible

/-! A tree of files, and how a path is looked up in it: part by part, with symbolic links followed
on the way. -/

namespace O7Formal.FileTree

open Fallible

/-- The characters of a path that are not plain text. -/
class PathChar (α : Type) where
  slash : α
  dot : α
  distinct : slash ≠ dot

instance : PathChar Char := ⟨'/', '.', by decide⟩
instance : PathChar UInt8 := ⟨0x2f, 0x2e, by decide⟩

inductive Errno where
  | noEntry
  | notDirectory
  | isDirectory
  | tooManyLinks
  | fileExists
  | nameTooLong
  | notRegular
  deriving DecidableEq, Repr

def Errno.text : Errno → String
  | .noEntry => "No such file or directory (os error 2)"
  | .notDirectory => "Not a directory (os error 20)"
  | .isDirectory => "Is a directory (os error 21)"
  | .tooManyLinks => "Too many levels of symbolic links (os error 40)"
  | .fileExists => "File exists (os error 17)"
  | .nameTooLong => "File name too long (os error 36)"
  | .notRegular => "not a regular file"

inductive Node (α : Type) where
  | file (bytes : List UInt8) (mode : Nat)
  | dir
  | link (target : List α)
  | other
  deriving DecidableEq

abbrev Location (α : Type) := List (List α)

abbrev Files (α : Type) := Location α → Option (Node α)

variable {α : Type} [DecidableEq α] [PathChar α]

open PathChar

def parts (path : List α) : List (List α) := path.splitOn slash

def Stays (part : List α) : Prop := part = [] ∨ part = [dot]

instance : DecidablePred (Stays (α := α)) := fun _ => inferInstanceAs (Decidable (_ ∨ _))

def up : List α := [dot, dot]

def names (path : List (List α)) : List (List α) := path.filter fun part => ¬ Stays part

def isAbsolute (path : List α) : Bool := path.head? = some slash

def join (base path : List α) : List α :=
  if isAbsolute path = true then path
  else if base = [] ∨ base.getLast? = some slash then base ++ path
  else base ++ slash :: path

/-- What a path is made of once the parts that do not move are dropped; a `.` at the front stays. -/
inductive Component (α : Type) where
  | rootDir
  | curDir
  | parentDir
  | normal (name : List α)
  deriving DecidableEq

def Component.ofPart (part : List α) : Component α := if part = up then .parentDir else .normal part

def components (path : List α) : List (Component α) :=
  (if isAbsolute path = true then [.rootDir]
    else if (parts path).head? = some [dot] then [.curDir] else []) ++
  (names (parts path)).map .ofPart

section Walk

variable (files : Files α) (follow : Bool)

/-- From `here` along the parts. A link on the way is expanded, the last one if it is followed. -/
def walkWith (expand : Location α → List α → List (List α) → Except Errno (Location α)) :
    Location α → List (List α) → Except Errno (Location α)
  | here, [] => .ok here
  | here, part :: rest =>
      if files here ≠ some .dir then .error .notDirectory
      else if Stays part then walkWith expand here rest
      else if part = up then walkWith expand here.dropLast rest
      else
        match files (here ++ [part]) with
        | none => .error .noEntry
        | some (.link target) =>
            if rest = [] ∧ follow = false then .ok (here ++ [part]) else expand here target rest
        | some _ => walkWith expand (here ++ [part]) rest

def walk : Nat → Location α → List (List α) → Except Errno (Location α)
  | 0 => walkWith files follow fun _ _ _ => .error .tooManyLinks
  | links + 1 => walkWith files follow fun here target rest =>
      walk links (if isAbsolute target = true then [] else here) (parts target ++ rest)

def maxLinks : Nat := 40

def lookup (cwd : Location α) (path : List α) : Except Errno (Location α) := do
  refuseIf (path = []) .noEntry
  walk files follow maxLinks (if isAbsolute path = true then [] else cwd) (parts path)

end Walk

def contents (files : Files α) (here : Location α) : Except Errno (List UInt8) :=
  match files here with
  | some (.file bytes _) => .ok bytes
  | some .dir => .error .isDirectory
  | some _ => .error .notRegular
  | none => .error .noEntry

def read (files : Files α) (cwd : Location α) (path : List α) : Except Errno (List UInt8) := do
  let here ← lookup files true cwd path
  contents files here

/-- Name by name from an open directory, where no link is followed. -/
def openBelow (files : Files α) : Location α → List (List α) → Except Errno (List UInt8)
  | here, [] => contents files here
  | here, [name] => contents files (here ++ [name])
  | here, name :: rest =>
      match files (here ++ [name]) with
      | some .dir => openBelow files (here ++ [name]) rest
      | some _ => .error .notDirectory
      | none => .error .noEntry

section Lookups

variable {files : Files α}

omit [DecidableEq α] [PathChar α] in
theorem contents_ok_iff {here : Location α} {bytes : List UInt8} :
    contents files here = .ok bytes ↔ ∃ mode, files here = some (.file bytes mode) := by
  unfold contents
  split <;> simp_all

theorem walkWith_stays {follow : Bool}
    {expand : Location α → List α → List (List α) → Except Errno (Location α)}
    {start here : Location α} {tail : List (List α)} (stay : ∀ part ∈ tail, Stays part)
    (walked : walkWith files follow expand start tail = .ok here) : here = start := by
  induction tail with
  | nil => exact (Except.ok.inj walked).symm
  | cons part rest ih =>
      rw [walkWith] at walked
      split_ifs at walked with directory stayed
      · exact ih (fun p member => stay p (List.mem_cons_of_mem _ member)) walked
      all_goals exact absurd (stay part List.mem_cons_self) stayed

theorem walkWith_append {expand expand' : Location α → List α → List (List α) →
      Except Errno (Location α)}
    {here : Location α} {tail qs : List (List α)} {r : Except Errno (Location α)}
    (directory : files here = some .dir) (stay : ∀ part ∈ tail, Stays part)
    (agrees : ∀ start target rest, expand start target (rest ++ tail) = .ok here →
      expand' start target (rest ++ qs) = r)
    (along : walkWith files true expand' here qs = r) {start : Location α} {ps : List (List α)}
    (walked : walkWith files false expand start (ps ++ tail) = .ok here) :
    walkWith files true expand' start (ps ++ qs) = r := by
  induction ps generalizing start with
  | nil =>
      cases walkWith_stays stay walked
      exact along
  | cons part rest ih =>
      rw [List.cons_append, walkWith] at walked ⊢
      by_cases missing : files start ≠ some .dir
      · rw [if_pos missing] at walked
        cases walked
      rw [if_neg missing] at walked ⊢
      by_cases stayed : Stays part
      · rw [if_pos stayed] at walked ⊢
        exact ih walked
      rw [if_neg stayed] at walked ⊢
      by_cases upward : part = up
      · rw [if_pos upward] at walked ⊢
        exact ih walked
      rw [if_neg upward] at walked ⊢
      cases found : files (start ++ [part]) with
      | none =>
          rw [found] at walked
          cases walked
      | some node =>
          rw [found] at walked
          cases node with
          | link target =>
              dsimp only at walked ⊢
              rw [if_neg (by simp)]
              by_cases last : rest ++ tail = [] ∧ false = false
              · rw [if_pos last] at walked
                cases walked
                rw [directory] at found
                cases found
              · rw [if_neg last] at walked
                exact agrees _ _ _ walked
          | file bytes mode => exact ih walked
          | dir => exact ih walked
          | other => exact ih walked

theorem walk_append {here : Location α} {tail qs : List (List α)} {r : Except Errno (Location α)}
    (directory : files here = some .dir) (stay : ∀ part ∈ tail, Stays part)
    (along : ∀ links, walk files true links here qs = r) {links : Nat} {start : Location α}
    {ps : List (List α)} (walked : walk files false links start (ps ++ tail) = .ok here) :
    walk files true links start (ps ++ qs) = r := by
  induction links generalizing start ps with
  | zero =>
      exact walkWith_append directory stay (fun _ _ _ refused => by cases refused) (along 0) walked
  | succ links ih =>
      refine walkWith_append directory stay (fun start target rest expanded => ?_)
        (along (links + 1)) walked
      rw [← List.append_assoc] at expanded ⊢
      exact ih expanded

omit [DecidableEq α] [PathChar α] in
theorem openBelow_cons {here : Location α} {name : List α} {rest : List (List α)}
    {bytes : List UInt8} (more : rest ≠ [])
    (below : openBelow files here (name :: rest) = .ok bytes) :
    files (here ++ [name]) = some .dir ∧ openBelow files (here ++ [name]) rest = .ok bytes := by
  cases rest with
  | nil => exact absurd rfl more
  | cons next rest =>
      rw [openBelow] at below
      split at below
      · exact ⟨‹_›, below⟩
      · cases below
      · cases below
      · exact nofun

omit [DecidableEq α] [PathChar α] in
theorem openBelow_contents {here : Location α} {names : List (List α)} {bytes : List UInt8}
    (named : names ≠ []) (below : openBelow files here names = .ok bytes) :
    contents files (here ++ names) = .ok bytes := by
  induction names generalizing here with
  | nil => exact absurd rfl named
  | cons name rest ih =>
      by_cases final : rest = []
      · rw [final] at below ⊢
        exact below
      · obtain ⟨_, below⟩ := openBelow_cons final below
        have found := ih final below
        rw [List.append_assoc] at found
        exact found

theorem names_stays {part : List α} {rest : List (List α)} (stayed : Stays part) :
    names (part :: rest) = names rest := by
  simp [names, stayed]

theorem names_moves {part : List α} {rest : List (List α)} (moved : ¬ Stays part) :
    names (part :: rest) = part :: names rest := by
  simp [names, moved]

theorem names_of_stays {tail : List (List α)} (stay : ∀ part ∈ tail, Stays part) :
    names tail = [] :=
  List.filter_eq_nil_iff.mpr fun part member => by simpa using stay part member

theorem stays_of_names {qs : List (List α)} (none : names qs = []) {part : List α}
    (member : part ∈ qs) : Stays part := by
  have dropped := List.filter_eq_nil_iff.mp none part member
  simpa using dropped

/-- A path that ends in a part that does not move asks for a directory. -/
def Open (qs : List (List α)) : Prop := ∀ part ∈ qs.getLast?, ¬ Stays part

instance (qs : List (List α)) : Decidable (Open qs) :=
  inferInstanceAs (Decidable (∀ part ∈ qs.getLast?, ¬ Stays part))

omit [DecidableEq α] in
theorem open_cons {part : List α} {rest : List (List α)} (more : rest ≠ []) :
    Open (part :: rest) ↔ Open rest := by
  simp only [Open, List.getLast?_cons_of_ne_nil more]

theorem walkWith_below {follow : Bool}
    {expand : Location α → List α → List (List α) → Except Errno (Location α)}
    {here : Location α} {qs : List (List α)} {bytes : List UInt8}
    (directory : files here = some .dir) (inside : up ∉ qs) (named : names qs ≠ [])
    (below : openBelow files here (names qs) = .ok bytes) :
    (Open qs → walkWith files follow expand here qs = .ok (here ++ names qs)) ∧
      (¬ Open qs → walkWith files follow expand here qs = .error .notDirectory) := by
  induction qs generalizing here with
  | nil => exact absurd rfl named
  | cons part rest ih =>
      have later : up ∉ rest := fun member => inside (List.mem_cons_of_mem _ member)
      rw [walkWith, if_neg (by simp [directory])]
      by_cases stayed : Stays part
      · rw [names_stays stayed] at named below ⊢
        have more : rest ≠ [] := fun none => named (congrArg names none)
        rw [if_pos stayed, open_cons more]
        exact ih directory later named below
      rw [names_moves stayed] at below ⊢
      have named : part ≠ up := fun same => inside (same ▸ List.mem_cons_self)
      rw [if_neg stayed, if_neg named]
      by_cases final : names rest = []
      · rw [final] at below ⊢
        obtain ⟨mode, found⟩ := contents_ok_iff.mp below
        rw [found]
        dsimp only
        cases rest with
        | nil =>
            refine ⟨fun _ => rfl, fun closed => absurd ?_ closed⟩
            intro p last
            cases Option.mem_some.mp last
            exact stayed
        | cons next rest =>
            refine ⟨fun ends => ?_, fun _ => ?_⟩
            · have last := List.getLast?_eq_some_getLast (List.cons_ne_nil next rest)
              rw [open_cons (List.cons_ne_nil next rest)] at ends
              exact absurd (stays_of_names final (List.getLast_mem _)) (ends _ last)
            · rw [walkWith, if_pos (by simp [found])]
      · obtain ⟨dir, below⟩ := openBelow_cons final below
        have more : rest ≠ [] := fun none => final (congrArg names none)
        rw [dir, open_cons more]
        have rest := ih dir later final below
        rw [List.append_assoc] at rest
        exact rest

theorem parts_join {base path : List α} (present : base ≠ []) (relative : isAbsolute path = false) :
    ∃ ps tail, ps ≠ [] ∧ parts base = ps ++ tail ∧ (∀ part ∈ tail, Stays part) ∧
      parts (join base path) = ps ++ parts path := by
  rw [join, if_neg (by simp [relative])]
  by_cases ends : base.getLast? = some slash
  · have split : base = base.dropLast ++ [slash] := by
      obtain ⟨init, rfl⟩ := List.getLast?_eq_some_iff.mp ends
      rw [List.dropLast_concat]
    refine ⟨parts base.dropLast, [[]], List.splitOn_ne_nil _ _, ?_, ?_, ?_⟩
    · conv_lhs => rw [split]
      exact List.splitOn_append_cons_self _ _
    · intro part member
      exact .inl (List.mem_singleton.mp member)
    · rw [if_pos (.inr ends)]
      conv_lhs => rw [split, List.append_assoc]
      exact List.splitOn_append_cons_self _ _
  · rw [if_neg (not_or.mpr ⟨present, ends⟩)]
    exact ⟨parts base, [], List.splitOn_ne_nil _ _, (List.append_nil _).symm, nofun,
      List.splitOn_append_cons_self _ _⟩

theorem join_isAbsolute {base path : List α} (present : base ≠ [])
    (relative : isAbsolute path = false) : isAbsolute (join base path) = isAbsolute base ∧
      join base path ≠ [] := by
  cases base with
  | nil => exact absurd rfl present
  | cons c rest =>
      rw [join, if_neg (by simp [relative])]
      split
      · exact ⟨rfl, nofun⟩
      · exact ⟨rfl, nofun⟩

theorem lookup_join {cwd here : Location α} {base path : List α}
    {r : Except Errno (Location α)} (opened : lookup files false cwd base = .ok here)
    (directory : files here = some .dir) (relative : isAbsolute path = false)
    (along : ∀ links, walk files true links here (parts path) = r) :
    lookup files true cwd (join base path) = r := by
  simp only [lookup, bind_ok_iff, refuseIf_ok_iff, exists_const] at opened
  obtain ⟨present, walked⟩ := opened
  obtain ⟨ps, tail, _, split, stay, joined⟩ := parts_join present relative
  obtain ⟨root, nonempty⟩ := join_isAbsolute present relative
  rw [split] at walked
  rw [lookup, refuseIf, if_neg nonempty, root, joined]
  exact walk_append directory stay along walked

theorem read_join {cwd here : Location α} {base path : List α} {bytes : List UInt8}
    (opened : lookup files false cwd base = .ok here) (directory : files here = some .dir)
    (relative : isAbsolute path = false) (inside : up ∉ parts path) (named : names (parts path) ≠ [])
    (below : openBelow files here (names (parts path)) = .ok bytes) :
    (Open (parts path) → read files cwd (join base path) = .ok bytes) ∧
      (¬ Open (parts path) → read files cwd (join base path) = .error .notDirectory) := by
  have goes := fun r => lookup_join (r := r) opened directory relative
  constructor
  · intro ends
    have found := goes (.ok (here ++ names (parts path))) fun links => by
      cases links <;> exact (walkWith_below directory inside named below).1 ends
    rw [read, found]
    exact openBelow_contents named below
  · intro closed
    have refused := goes (.error .notDirectory) fun links => by
      cases links <;> exact (walkWith_below directory inside named below).2 closed
    rw [read, refused]
    rfl

theorem relative_of_head {path : List α} (first : (parts path).head? ≠ some []) :
    isAbsolute path = false := by
  by_contra absolute
  rcases List.head?_eq_some_iff.mp (of_decide_eq_true (Bool.not_eq_false _ ▸ absolute)) with
    ⟨rest, text⟩
  apply first
  rw [parts, text]
  exact congrArg List.head? (List.splitOn_append_cons_self [] rest)

theorem absolute_of_head {path : List α} (present : path ≠ [])
    (first : (parts path).head? = some []) : isAbsolute path = true := by
  cases path with
  | nil => exact absurd rfl present
  | cons c rest =>
      by_cases rooted : c = slash
      · simp [isAbsolute, rooted]
      · have split : parts (c :: rest) = (parts rest).modifyHead (c :: ·) := by
          rw [parts, List.splitOn_cons_eq_if_modifyHead, if_neg (by simpa using rooted), parts]
        rcases List.exists_cons_of_ne_nil (List.splitOn_ne_nil slash rest) with ⟨part, later, more⟩
        rw [split, parts, more] at first
        cases first

theorem components_nil : components ([] : List α) = [] := by
  have split : parts ([] : List α) = [[]] := List.splitOn_nil _
  simp [components, split, isAbsolute, names, Stays]

theorem components_join {base path : List α} (relative : isAbsolute path = false)
    (named : (parts path).head? ≠ some [dot]) :
    components (join base path) = components base ++ components path := by
  by_cases present : base = []
  · have joined : join base path = path := by
      rw [join, if_neg (by simp [relative]), if_pos (.inl present), present, List.nil_append]
    rw [joined, present, components_nil, List.nil_append]
  have below : components path = (names (parts path)).map .ofPart := by
    rw [components, if_neg (by simp [relative]), if_neg named, List.nil_append]
  obtain ⟨ps, tail, some, split, stay, joined⟩ := parts_join present relative
  have above : names (ps ++ tail) = names ps := by
    rw [names, List.filter_append, ← names, ← names, names_of_stays stay, List.append_nil]
  have onward : names (ps ++ parts path) = names ps ++ names (parts path) := List.filter_append ..
  rw [below, components, components, (join_isAbsolute present relative).1, joined, split,
    List.head?_append_of_ne_nil _ some, List.head?_append_of_ne_nil _ some, above, onward,
    List.map_append, List.append_assoc]

def NoLinks (files : Files α) (here : Location α) : Prop :=
  ∀ below target, files (here ++ below) ≠ some (.link target)

omit [DecidableEq α] [PathChar α] in
theorem NoLinks.descend {here : Location α} (plain : NoLinks files here) (name : List α) :
    NoLinks files (here ++ [name]) := by
  intro below target found
  rw [List.append_assoc] at found
  exact plain _ target found

theorem walkWith_plain {follow : Bool} (expand expand' : Location α → List α → List (List α) →
      Except Errno (Location α))
    {here : Location α} (plain : NoLinks files here) {qs : List (List α)} (inside : up ∉ qs) :
    walkWith files follow expand here qs = walkWith files follow expand' here qs := by
  induction qs generalizing here with
  | nil => rfl
  | cons part rest ih =>
      have later : up ∉ rest := fun member => inside (List.mem_cons_of_mem _ member)
      have named : part ≠ up := fun same => inside (same ▸ List.mem_cons_self)
      rw [walkWith, walkWith, if_neg named, if_neg named]
      cases found : files (here ++ [part]) with
      | none => rw [ih plain later]
      | some node =>
          cases node with
          | link target => exact absurd found (plain _ target)
          | file bytes mode => rw [ih plain later, ih (plain.descend part) later]
          | dir => rw [ih plain later, ih (plain.descend part) later]
          | other => rw [ih plain later, ih (plain.descend part) later]

theorem walkWith_directory {follow : Bool}
    {expand : Location α → List α → List (List α) → Except Errno (Location α)}
    {here there : Location α} {qs : List (List α)} (more : qs ≠ [])
    (walked : walkWith files follow expand here qs = .ok there) : files here = some .dir := by
  cases qs with
  | nil => exact absurd rfl more
  | cons part rest =>
      by_contra missing
      rw [walkWith, if_pos missing] at walked
      cases walked

theorem openBelow_of_walkWith {follow : Bool}
    {expand : Location α → List α → List (List α) → Except Errno (Location α)}
    {here there : Location α} (plain : NoLinks files here) {qs : List (List α)} (inside : up ∉ qs)
    (named : names qs ≠ []) (walked : walkWith files follow expand here qs = .ok there)
    {bytes : List UInt8} (read : contents files there = .ok bytes) :
    openBelow files here (names qs) = .ok bytes := by
  induction qs generalizing here with
  | nil => exact absurd rfl named
  | cons part rest ih =>
      have later : up ∉ rest := fun member => inside (List.mem_cons_of_mem _ member)
      have moves : part ≠ up := fun same => inside (same ▸ List.mem_cons_self)
      rw [walkWith, if_neg (not_not.mpr (walkWith_directory (List.cons_ne_nil _ _) walked)),
        if_neg moves] at walked
      by_cases stayed : Stays part
      · rw [if_pos stayed] at walked
        rw [names_stays stayed] at named ⊢
        exact ih plain later named walked
      rw [if_neg stayed] at walked
      rw [names_moves stayed]
      have goes : walkWith files follow expand (here ++ [part]) rest = .ok there := by
        cases found : files (here ++ [part]) with
        | none =>
            rw [found] at walked
            cases walked
        | some node =>
            rw [found] at walked
            cases node with
            | link target => exact absurd found (plain _ target)
            | file bytes mode => exact walked
            | dir => exact walked
            | other => exact walked
      by_cases final : names rest = []
      · rw [final]
        cases walkWith_stays (fun _ member => stays_of_names final member) goes
        exact read
      · have more : rest ≠ [] := fun none => final (congrArg names none)
        obtain ⟨name, others, split⟩ := List.exists_cons_of_ne_nil final
        have below := ih (plain.descend part) later final goes
        rw [split] at below ⊢
        rw [openBelow, walkWith_directory more goes]
        · exact below
        · exact fun empty => List.cons_ne_nil _ _ empty

theorem read_join_iff {cwd here : Location α} {base path : List α}
    (opened : lookup files false cwd base = .ok here) (directory : files here = some .dir)
    (plain : NoLinks files here) (relative : isAbsolute path = false) (inside : up ∉ parts path)
    (named : names (parts path) ≠ []) {bytes : List UInt8} :
    read files cwd (join base path) = .ok bytes ↔
      Open (parts path) ∧ openBelow files here (names (parts path)) = .ok bytes := by
  constructor
  · intro found
    have below : openBelow files here (names (parts path)) = .ok bytes := by
      rw [read, bind_ok_iff] at found
      rcases found with ⟨there, looked, held⟩
      have walks := lookup_join opened directory relative (r := walkWith files true
        (fun _ _ _ => .error .tooManyLinks) here (parts path)) fun links => by
          cases links <;> exact walkWith_plain _ _ plain inside
      rw [walks] at looked
      exact openBelow_of_walkWith plain inside named looked held
    refine ⟨?_, below⟩
    by_contra closed
    rw [(read_join opened directory relative inside named below).2 closed] at found
    cases found
  · rintro ⟨file, below⟩
    exact (read_join opened directory relative inside named below).1 file

theorem walkWith_last {expand : Location α → List α → List (List α) → Except Errno (Location α)}
    {name : List α} (moves : ¬ Stays name) (named : name ≠ up) {there : Location α}
    (agrees : ∀ here target rest, expand here target (rest ++ [name]) = .ok there →
      there.getLast? = some name)
    {here : Location α} {ps : List (List α)}
    (walked : walkWith files false expand here (ps ++ [name]) = .ok there) :
    there.getLast? = some name := by
  induction ps generalizing here with
  | nil =>
      rw [List.nil_append] at walked
      have directory := walkWith_directory (List.cons_ne_nil _ _) walked
      rw [walkWith, if_neg (not_not.mpr directory), if_neg moves, if_neg named] at walked
      cases found : files (here ++ [name]) with
      | none =>
          rw [found] at walked
          cases walked
      | some node =>
          have ends : there = here ++ [name] := by
            rw [found] at walked
            cases node <;> cases walked <;> rfl
          rw [ends, List.getLast?_concat]
  | cons part rest ih =>
      rw [List.cons_append] at walked
      have directory := walkWith_directory (List.cons_ne_nil _ _) walked
      rw [walkWith, if_neg (not_not.mpr directory)] at walked
      by_cases stayed : Stays part
      · rw [if_pos stayed] at walked
        exact ih walked
      rw [if_neg stayed] at walked
      by_cases upward : part = up
      · rw [if_pos upward] at walked
        exact ih walked
      rw [if_neg upward] at walked
      cases found : files (here ++ [part]) with
      | none =>
          rw [found] at walked
          cases walked
      | some node =>
          rw [found] at walked
          cases node with
          | link target =>
              dsimp only at walked
              rw [if_neg (by simp)] at walked
              exact agrees _ _ _ walked
          | file bytes mode => exact ih walked
          | dir => exact ih walked
          | other => exact ih walked

theorem walk_last {name : List α} (moves : ¬ Stays name) (named : name ≠ up) {links : Nat}
    {here there : Location α} {ps : List (List α)}
    (walked : walk files false links here (ps ++ [name]) = .ok there) :
    there.getLast? = some name := by
  induction links generalizing here ps with
  | zero => exact walkWith_last moves named (fun _ _ _ refused => by cases refused) walked
  | succ links ih =>
      refine walkWith_last moves named (fun start target rest expanded => ?_) walked
      rw [← List.append_assoc] at expanded
      exact ih expanded

theorem lookup_last {cwd there : Location α} {base name : List α} (moves : ¬ Stays name)
    (named : name ≠ up) (whole : parts name = [name])
    (found : lookup files false cwd (join base name) = .ok there) :
    there.getLast? = some name := by
  have relative : isAbsolute name = false :=
    relative_of_head fun first => moves (.inl (by rw [whole] at first; exact Option.some.inj first))
  simp only [lookup, bind_ok_iff, refuseIf_ok_iff, exists_const] at found
  obtain ⟨_, walked⟩ := found
  by_cases present : base = []
  · have joined : join base name = name := by
      rw [join, if_neg (by simp [relative]), if_pos (.inl present), present, List.nil_append]
    rw [joined, whole, ← List.nil_append [name]] at walked
    exact walk_last moves named walked
  · obtain ⟨ps, _, _, _, _, joined⟩ := parts_join present relative
    rw [joined, whole] at walked
    exact walk_last moves named walked

def DirsAlong (files : Files α) (here : Location α) (names : List (List α)) : Prop :=
  ∀ above, above <+: names → files (here ++ above) = some .dir

theorem walkWith_dirs {follow : Bool}
    {expand : Location α → List α → List (List α) → Except Errno (Location α)}
    {here : Location α} {names : List (List α)} (dirs : DirsAlong files here names)
    (moves : ∀ name ∈ names, ¬ Stays name ∧ name ≠ up) :
    walkWith files follow expand here names = .ok (here ++ names) := by
  induction names generalizing here with
  | nil => rw [walkWith, List.append_nil]
  | cons name rest ih =>
      rw [List.forall_mem_cons] at moves
      have start : files here = some .dir := by
        have top := dirs [] List.nil_prefix
        rwa [List.append_nil] at top
      have below : DirsAlong files (here ++ [name]) rest := by
        intro above lead
        rw [List.append_assoc]
        exact dirs _ (List.cons_prefix_cons.mpr ⟨rfl, lead⟩)
      have next := dirs [name] (List.cons_prefix_cons.mpr ⟨rfl, List.nil_prefix⟩)
      rw [walkWith, if_neg (not_not.mpr start), if_neg moves.1.1, if_neg moves.1.2, next,
        List.append_cons here name rest]
      exact ih below moves.2

theorem walkWith_grows {files' : Files α} {follow : Bool} {expand expand' : Location α → List α →
      List (List α) → Except Errno (Location α)}
    (same : ∀ loc, files loc ≠ none → files' loc = files loc) {here there : Location α}
    (agrees : ∀ start target rest, expand start target rest = .ok there →
      expand' start target rest = .ok there)
    {qs : List (List α)} (walked : walkWith files follow expand here qs = .ok there) :
    walkWith files' follow expand' here qs = .ok there := by
  induction qs generalizing here with
  | nil => exact walked
  | cons part rest ih =>
      have directory := walkWith_directory (List.cons_ne_nil _ _) walked
      have directory' : files' here = some .dir :=
        (same here (by rw [directory]; exact Option.some_ne_none _)).trans directory
      rw [walkWith, if_neg (not_not.mpr directory)] at walked
      rw [walkWith, if_neg (not_not.mpr directory')]
      by_cases stayed : Stays part
      · rw [if_pos stayed] at walked ⊢
        exact ih walked
      rw [if_neg stayed] at walked ⊢
      by_cases upward : part = up
      · rw [if_pos upward] at walked ⊢
        exact ih walked
      rw [if_neg upward] at walked ⊢
      cases found : files (here ++ [part]) with
      | none =>
          rw [found] at walked
          cases walked
      | some node =>
          rw [same _ (by rw [found]; exact Option.some_ne_none _)]
          rw [found] at walked ⊢
          cases node with
          | link target =>
              by_cases last : rest = [] ∧ follow = false
              · simpa only [if_pos last] using walked
              · simp only [if_neg last] at walked ⊢
                exact agrees _ _ _ walked
          | file bytes mode => exact ih walked
          | dir => exact ih walked
          | other => exact ih walked

theorem walk_grows {files' : Files α} {follow : Bool}
    (same : ∀ loc, files loc ≠ none → files' loc = files loc) {links : Nat}
    {here there : Location α} {qs : List (List α)}
    (walked : walk files follow links here qs = .ok there) :
    walk files' follow links here qs = .ok there := by
  induction links generalizing here qs with
  | zero => exact walkWith_grows same (fun _ _ _ found => found) walked
  | succ links ih => exact walkWith_grows same (fun _ _ _ => ih) walked

theorem walk_dirs {start here : Location α} {base names : List (List α)}
    (opened : walk files false maxLinks start base = .ok here) (dirs : DirsAlong files here names)
    (moves : ∀ name ∈ names, ¬ Stays name ∧ name ≠ up) :
    walk files true maxLinks start (base ++ names) = .ok (here ++ names) := by
  have directory := dirs [] List.nil_prefix
  rw [List.append_nil] at directory
  refine walk_append directory (List.forall_mem_nil _) (fun links => ?_)
    ((List.append_nil base).symm ▸ opened)
  cases links <;> exact walkWith_dirs dirs moves

end Lookups

end O7Formal.FileTree
