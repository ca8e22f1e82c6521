import O7Formal.Lib.Fallible
import Mathlib.Data.List.TakeWhile

/-! Command lines of long options that take one value each, flags and a help option, without
positional arguments: the tokens, the parse one token at a time, and the parse of a vector that
writes every option as two tokens. -/

namespace O7Formal.ArgParser

open Fallible

inductive Action where
  | set
  | setTrue
  | help
  deriving DecidableEq, Repr

structure Arg where
  long : String
  short : Option Char
  action : Action
  deriving DecidableEq, Repr

inductive ArgError where
  | emptyValue (arg : String)
  | unknownArgument (token : String)
  | unneededValue (arg : String)
  | argumentConflict (arg : String)
  | missingRequired (arg : String)
  | invalidValue (arg value : String)
  | displayHelp
  deriving DecidableEq, Repr

inductive Token where
  | escape
  | long (name : String) (value : Option String)
  | short (flag : Char)
  | value
  deriving DecidableEq, Repr

def classify (token : String) : Token :=
  match token.toList with
  | ['-', '-'] => .escape
  | '-' :: '-' :: text =>
      .long (String.ofList (text.takeWhile (· ≠ '=')))
        (if '=' ∈ text then some (String.ofList (text.dropWhile (· ≠ '=')).tail) else none)
  | '-' :: flag :: _ => .short flag
  | _ => .value

structure Matches where
  values : List (String × String)
  flags : List String
  deriving DecidableEq, Repr

/-- The option that waits for its value, and whether `--` has been read. -/
structure State where
  pending : Option String
  trailing : Bool
  matched : Matches
  deriving DecidableEq, Repr

def State.start : State := ⟨none, false, ⟨[], []⟩⟩

def State.resolvePending (s : State) : Except ArgError Unit :=
  match s.pending with
  | some name => .error (.emptyValue name)
  | none => .ok ()

/-- `Set` refuses a second occurrence. -/
def State.record (s : State) (name value : String) : Except ArgError State :=
  if name ∈ s.matched.values.map Prod.fst then .error (.argumentConflict name)
  else .ok { s with
    pending := none
    matched := { s.matched with values := s.matched.values ++ [(name, value)] } }

def State.occurs (s : State) (arg : Arg) (attached : Option String) : Except ArgError State := do
  s.resolvePending
  match arg.action, attached with
  | .help, none => throw .displayHelp
  | .help, some _ | .setTrue, some _ => throw (.unneededValue arg.long)
  | .setTrue, none =>
      if arg.long ∈ s.matched.flags then throw (.argumentConflict arg.long)
      else pure { s with matched := { s.matched with flags := s.matched.flags ++ [arg.long] } }
  | .set, none => pure { s with pending := some arg.long }
  | .set, some value => s.record arg.long value

def find (args : List Arg) (name : String) : Option Arg := args.find? fun arg => arg.long = name

def step (args : List Arg) (s : State) (token : String) : Except ArgError State :=
  if s.trailing then .error (.unknownArgument token)
  else
    match classify token with
    | .escape => .ok { s with trailing := true }
    | .long name attached =>
        match find args name with
        | some arg => s.occurs arg attached
        | none => .error (.unknownArgument token)
    | .short flag =>
        match args.find? fun arg => arg.short = some flag with
        | some arg => s.occurs arg none
        | none => .error (.unknownArgument token)
    | .value =>
        match s.pending with
        | some name => s.record name token
        | none => .error (.unknownArgument token)

def steps (args : List Arg) : State → List String → Except ArgError State
  | s, [] => .ok s
  | s, token :: rest => do
      let s ← step args s token
      steps args s rest

def parse (args : List Arg) (tokens : List String) : Except ArgError Matches := do
  let s ← steps args .start tokens
  s.resolvePending
  pure s.matched

def Matches.value? (m : Matches) (name : String) : Option String := m.values.lookup name

def Matches.required (m : Matches) (name : String) : Except ArgError String :=
  okOr (m.value? name) (.missingRequired name)

def Matches.defaulted (m : Matches) (name default : String) : String :=
  (m.value? name).getD default

def Plain (token : String) : Prop := token = "-" ∨ token.toList.head? ≠ some '-'

instance (token : String) : Decidable (Plain token) := inferInstanceAs (Decidable (_ ∨ _))

theorem classify_eq_value_iff {token : String} : classify token = .value ↔ Plain token := by
  rw [Plain, ← String.toList_inj]
  unfold classify
  split
  case h_4 other =>
    generalize token.toList = chars at other
    rcases chars with _ | ⟨first, _ | ⟨second, rest⟩⟩
    · simp
    · simp [em]
    · simp only [true_iff]
      refine .inr fun hyphen => other second rest ?_
      rw [Option.some.inj hyphen]
  all_goals simp_all

def written (options : List (String × String)) : List String :=
  options.flatMap fun option => ["--" ++ option.1, option.2]

structure Declared (args : List Arg) (name : String) : Prop where
  nonempty : name ≠ ""
  bare : '=' ∉ name.toList
  set : (find args name).map Arg.action = some .set

theorem classify_name {name : String} (nonempty : name ≠ "") (bare : '=' ∉ name.toList) :
    classify ("--" ++ name) = .long name none := by
  have whole : name.toList.takeWhile (· ≠ '=') = name.toList := by
    rw [List.takeWhile_eq_self_iff]
    intro c member
    simpa using fun equals : c = '=' => bare (equals ▸ member)
  have spelled : ("--" ++ name).toList = '-' :: '-' :: name.toList := by simp
  unfold classify
  rw [spelled]
  split
  · rename_i escape
    exact absurd (String.toList_inj.mp (by simpa using escape)) nonempty
  · rename_i text equals
    cases equals
    rw [whole, if_neg bare, String.ofList_toList]
  · rename_i other equals
    cases equals
    exact (other rfl).elim
  · rename_i other
    exact (other _ _ rfl).elim

theorem step_name {args : List Arg} {name : String} (declared : Declared args name)
    (matched : Matches) :
    step args ⟨none, false, matched⟩ ("--" ++ name) = .ok ⟨some name, false, matched⟩ := by
  rcases Option.map_eq_some_iff.mp declared.set with ⟨arg, found, set⟩
  have long : arg.long = name := by simpa using List.find?_some found
  simp [step, classify_name declared.nonempty declared.bare, found, State.occurs,
    State.resolvePending, set, long, bind, Except.bind, pure, Except.pure]

theorem step_value {args : List Arg} {name token : String} {matched : Matches} {s : State}
    (fresh : name ∉ matched.values.map Prod.fst)
    (stepped : step args ⟨some name, false, matched⟩ token = .ok s) :
    (Plain token ∧ s = ⟨none, false, ⟨matched.values ++ [(name, token)], matched.flags⟩⟩) ∨
      (¬ Plain token ∧ s = ⟨some name, true, matched⟩) := by
  rw [← classify_eq_value_iff]
  cases kind : classify token <;>
    simp only [step, kind, Bool.false_eq_true, if_false] at stepped
  case escape => simpa [eq_comm] using stepped
  case value => simpa [State.record, if_neg fresh, eq_comm] using stepped
  all_goals
    split at stepped
    · simp [State.occurs, State.resolvePending, bind, Except.bind] at stepped
    · cases stepped

theorem step_plain {args : List Arg} {name token : String} {matched : Matches}
    (fresh : name ∉ matched.values.map Prod.fst) (plain : Plain token) :
    step args ⟨some name, false, matched⟩ token =
      .ok ⟨none, false, ⟨matched.values ++ [(name, token)], matched.flags⟩⟩ := by
  simp [step, classify_eq_value_iff.mpr plain, State.record, if_neg fresh]

/-- An option that `--` follows never gets a value. -/
theorem trailing_fails {args : List Arg} {name : String} {matched : Matches} {tokens : List String}
    {m : Matches} : ¬ (do
      let s ← steps args ⟨some name, true, matched⟩ tokens
      s.resolvePending
      pure s.matched) = Except.ok m := by
  cases tokens <;>
    simp [steps, step, State.resolvePending, bind, Except.bind]

theorem parse_written_from {args : List Arg} {options : List (String × String)}
    (declared : ∀ option ∈ options, Declared args option.1) {matched m : Matches}
    (distinct : ((matched.values ++ options).map Prod.fst).Nodup) :
    (do
      let s ← steps args ⟨none, false, matched⟩ (written options)
      s.resolvePending
      pure s.matched) = Except.ok m ↔
      (∀ option ∈ options, Plain option.2) ∧ m = ⟨matched.values ++ options, matched.flags⟩ := by
  induction options generalizing matched with
  | nil =>
      simp [written, steps, State.resolvePending, bind, Except.bind, pure, Except.pure, eq_comm]
  | cons option rest ih =>
      rcases option with ⟨name, value⟩
      have fresh : name ∉ matched.values.map Prod.fst := by
        rw [List.map_append, List.map_cons, List.nodup_append] at distinct
        exact fun member => distinct.2.2 _ member _ (List.mem_cons_self ..) rfl
      have next := step_name (declared (name, value) (List.mem_cons_self ..)) matched
      have tokens : written ((name, value) :: rest) = ("--" ++ name) :: value :: written rest := rfl
      simp only [tokens, steps, next, bind, Except.bind]
      by_cases plain : Plain value
      · simp only [step_plain fresh plain]
        have later := @ih (fun option member => declared option (List.mem_cons_of_mem _ member))
          ⟨matched.values ++ [(name, value)], matched.flags⟩ (by simpa using distinct)
        simp only [bind, Except.bind] at later
        simp only [later, List.forall_mem_cons, plain, true_and, List.append_assoc,
          List.singleton_append]
      · simp only [List.forall_mem_cons, plain, false_and, iff_false]
        cases stepped : step args ⟨some name, false, matched⟩ value with
        | error e => simp
        | ok s =>
            rcases step_value fresh stepped with ⟨isPlain, _⟩ | ⟨_, rfl⟩
            · exact absurd isPlain plain
            · exact trailing_fails

theorem parse_written {args : List Arg} {options : List (String × String)}
    (declared : ∀ option ∈ options, Declared args option.1)
    (distinct : (options.map Prod.fst).Nodup) {m : Matches} :
    parse args (written options) = .ok m ↔
      (∀ option ∈ options, Plain option.2) ∧ m = ⟨options, []⟩ :=
  @parse_written_from args options declared ⟨[], []⟩ m distinct

end O7Formal.ArgParser
