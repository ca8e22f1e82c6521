import O7Formal.Dispatch.Handler
import O7Formal.Lib.ArgParser
import O7Formal.Lib.Decimal
import O7Formal.Run.Reduce

/-! The argument vector that a bound command is handed over by, and what the command line of the
continuation reads back from it. -/

namespace O7Formal.Dispatch

open ArgParser Decimal Fallible
open O7Formal.Ledger (Command)
open O7Formal.Run (isBlank)

structure NewCommandRequestDto where
  schemaVersion : Option UInt32
  parentRunId : Option String
  command : Option String
  idempotencyKey : Option String

structure AdmittedRequest where
  parentRunId : String
  commandText : String
  idempotencyKey : String
  deriving DecidableEq, Repr

def maxCommandTextBytes : Nat := 8 * 1024

def nonempty? (field : Option String) : Option String := field.filter (· ≠ "")

/-- The checks of the request body, with the text of each `400`. -/
def NewCommandRequestDto.admit (body : NewCommandRequestDto) : Except String AdmittedRequest := do
  match body.schemaVersion with
  | some 1 => pure ()
  | some v => throw ("unsupported schema_version " ++ toString v ++ " (expected 1)")
  | none => throw "missing schema_version"
  let parentRunId ← okOr (nonempty? body.parentRunId) "missing or empty parent_run_id"
  let commandText ← okOr body.command "missing command"
  refuseIf (isBlank commandText = true) "command must not be empty or whitespace-only"
  refuseIf (maxCommandTextBytes < commandText.utf8ByteSize)
    ("command exceeds the " ++ toString maxCommandTextBytes ++ "-byte limit")
  let idempotencyKey ← okOr (nonempty? body.idempotencyKey) "missing or empty idempotency_key"
  pure ⟨parentRunId, commandText, idempotencyKey⟩

structure ExecutionConfig where
  o7Bin : String
  ledgerPath : String
  repo : String
  worktreeRoot : String
  runsDir : String
  gate : Option String
  model : String
  maxTurns : UInt32
  deriving DecidableEq, Repr

def handedOver (exec : ExecutionConfig) (args : ContinueArgs) : List (String × String) :=
  [("repo", exec.repo), ("worktree-root", exec.worktreeRoot), ("runs-dir", exec.runsDir),
    ("model", exec.model), ("max-turns", toString exec.maxTurns.toNat), ("ledger", exec.ledgerPath),
    ("conversation-id", args.conversationId), ("parent-run-id", args.parentRunId),
    ("command", args.command), ("run-id", args.runId), ("command-id", args.commandId)] ++
  exec.gate.toList.map ("gate", ·)

def argv (exec : ExecutionConfig) (args : ContinueArgs) : List String :=
  "continue" :: written (handedOver exec args)

def Executable (token : String) : Prop := Char.ofNat 0 ∉ token.toList

instance (token : String) : Decidable (Executable token) := inferInstanceAs (Decidable (¬ _))

inductive SpawnError where
  | nulByte
  | usage (error : ArgError)
  deriving DecidableEq, Repr

def received (program : String) (arguments : List String) : Except SpawnError (List String) := do
  refuseIf (¬ ∀ token ∈ program :: arguments, Executable token) .nulByte
  pure arguments

structure ContinueCommand extends ContinueArgs where
  repo : String
  target : Option String
  base : String
  gate : Option String
  model : String
  maxTurns : UInt32
  runsDir : String
  worktreeRoot : String
  keepWorktree : Bool
  ledger : String
  deriving DecidableEq, Repr

def option (long : String) : Arg := ⟨long, none, .set⟩

def continueCommandArgs : List Arg :=
  [option "repo", option "target", option "base", option "gate", option "model",
    option "max-turns", option "runs-dir", option "worktree-root", ⟨"keep-worktree", none, .setTrue⟩,
    option "ledger", option "conversation-id", option "parent-run-id", option "command",
    option "run-id", option "command-id", ⟨"help", some 'h', .help⟩]

/-- A `u32` from an optional sign and decimal digits. -/
def parseU32 (text : String) : Option UInt32 := do
  let number ← match text.toList with
    | '-' :: digits => (decimal? digits).map fun n => -(n : Int)
    | '+' :: digits => (decimal? digits).map Int.ofNat
    | digits => (decimal? digits).map Int.ofNat
  if 0 ≤ number ∧ number.toNat < 2 ^ 32 then some (UInt32.ofNat number.toNat) else none

def pathValue (arg value : String) : Except ArgError String :=
  if value = "" then .error (.emptyValue arg) else .ok value

def u32Value (arg value : String) : Except ArgError UInt32 :=
  okOr (parseU32 value) (.invalidValue arg value)

def ContinueCommand.ofMatches (m : Matches) : Except ArgError ContinueCommand := do
  let repo ← m.required "repo"
  let repo ← pathValue "repo" repo
  let gate ← match m.value? "gate" with
    | some path => some <$> pathValue "gate" path
    | none => pure none
  let maxTurns ← u32Value "max-turns" (m.defaulted "max-turns" "12")
  let runsDir ← pathValue "runs-dir" (m.defaulted "runs-dir" "runs")
  let worktreeRoot ← pathValue "worktree-root" (m.defaulted "worktree-root" ".worktrees")
  let ledger ← m.required "ledger"
  let ledger ← pathValue "ledger" ledger
  let conversationId ← m.required "conversation-id"
  let parentRunId ← m.required "parent-run-id"
  let command ← m.required "command"
  let runId ← m.required "run-id"
  let commandId ← m.required "command-id"
  pure { conversationId, parentRunId, command, runId, commandId, repo, gate, maxTurns, runsDir,
         worktreeRoot, ledger
         target := m.value? "target"
         base := m.defaulted "base" "HEAD"
         model := m.defaulted "model" "opus"
         keepWorktree := decide ("keep-worktree" ∈ m.flags) }

/-- `o7 continue …` -/
def Cli.parse : List String → Except ArgError ContinueCommand
  | "continue" :: tokens => do
      let m ← ArgParser.parse continueCommandArgs tokens
      ContinueCommand.ofMatches m
  | tokens => .error (.unknownArgument (tokens.headD ""))

def continued (exec : ExecutionConfig) (args : ContinueArgs) :
    Except SpawnError ContinueCommand := do
  let tokens ← received exec.o7Bin (argv exec args)
  (Cli.parse tokens).mapError .usage

structure Carries (text : String) : Prop where
  executable : Executable text
  plain : Plain text

def ExecutionConfig.paths (exec : ExecutionConfig) : List String :=
  [exec.repo, exec.worktreeRoot, exec.runsDir, exec.ledgerPath] ++ exec.gate.toList

structure Configured (exec : ExecutionConfig) : Prop where
  program : Executable exec.o7Bin
  model : Carries exec.model
  paths : ∀ path ∈ exec.paths, Carries path ∧ path ≠ ""

structure Deliverable (args : ContinueArgs) : Prop where
  conversationId : Carries args.conversationId
  parentRunId : Carries args.parentRunId
  command : Carries args.command
  runId : Carries args.runId
  commandId : Carries args.commandId

def intended (exec : ExecutionConfig) (args : ContinueArgs) : ContinueCommand :=
  { args with
    repo := exec.repo
    target := none
    base := "HEAD"
    gate := exec.gate
    model := exec.model
    maxTurns := exec.maxTurns
    runsDir := exec.runsDir
    worktreeRoot := exec.worktreeRoot
    keepWorktree := false
    ledger := exec.ledgerPath }

theorem parseU32_repr (n : UInt32) : parseU32 n.toNat.repr = some n := by
  have small : 0 ≤ (n.toNat : Int) ∧ n.toNat < 2 ^ 32 := ⟨Int.natCast_nonneg _, n.toNat_lt⟩
  unfold parseU32
  rw [Nat.toList_repr]
  split
  · rename_i rest equals
    exact absurd equals (toDigits_ne_cons (by decide) rest)
  · rename_i rest equals
    exact absurd equals (toDigits_ne_cons (by decide) rest)
  · rw [decimal?_toDigits]
    simp only [Option.map_some, Option.bind_eq_bind, Option.bind_some, Int.ofNat_eq_natCast,
      Int.toNat_natCast, UInt32.ofNat_toNat]
    exact if_pos small

theorem carries_toString (n : Nat) : Carries (toString n) := by
  rw [Nat.toString_eq_repr]
  refine ⟨fun member => absurd (isDigit_repr n _ member) (by decide), .inr fun head => ?_⟩
  exact absurd (isDigit_repr n '-' (List.mem_of_head? head)) (by decide)

def givenNames : List String :=
  ["repo", "worktree-root", "runs-dir", "model", "max-turns", "ledger", "conversation-id",
    "parent-run-id", "command", "run-id", "command-id", "gate"]

theorem handedOver_names {exec : ExecutionConfig} {args : ContinueArgs} {option : String × String}
    (member : option ∈ handedOver exec args) : option.1 ∈ givenNames := by
  have named : option.1 ∈ (handedOver exec args).map Prod.fst := List.mem_map_of_mem member
  cases gate : exec.gate <;>
    simp only [handedOver, gate, givenNames, Option.toList, List.map_cons, List.map_nil,
      List.append_nil, List.cons_append, List.nil_append, List.mem_cons] at named ⊢
  all_goals tauto

theorem handedOver_declared {exec : ExecutionConfig} {args : ContinueArgs} :
    ∀ option ∈ handedOver exec args, Declared continueCommandArgs option.1 := by
  have names : ∀ name ∈ givenNames, name ≠ "" ∧ '=' ∉ name.toList ∧
      (find continueCommandArgs name).map Arg.action = some .set := by decide
  intro option member
  rcases names option.1 (handedOver_names member) with ⟨nonempty, bare, set⟩
  exact ⟨nonempty, bare, set⟩

theorem handedOver_distinct (exec : ExecutionConfig) (args : ContinueArgs) :
    ((handedOver exec args).map Prod.fst).Nodup := by
  cases gate : exec.gate <;>
    simp [handedOver, gate]

theorem pathValue_ok_iff {arg value path : String} :
    pathValue arg value = .ok path ↔ value ≠ "" ∧ value = path := by
  by_cases empty : value = "" <;> simp [pathValue, empty]

theorem ofMatches_ok_iff {exec : ExecutionConfig} {args : ContinueArgs} {c : ContinueCommand} :
    ContinueCommand.ofMatches ⟨handedOver exec args, []⟩ = .ok c ↔
      (∀ path ∈ exec.paths, path ≠ "") ∧ intended exec args = c := by
  have turns := parseU32_repr exec.maxTurns
  rcases args with ⟨conversationId, parentRunId, command, runId, commandId⟩
  cases gate : exec.gate
  all_goals
    simp [ContinueCommand.ofMatches, handedOver, ExecutionConfig.paths, gate, Matches.required,
      Matches.defaulted, Matches.value?, List.lookup_cons, pathValue_ok_iff, u32Value, turns,
      intended, bind_ok_iff, -bind_pure_comp]
    tauto

theorem receivedBy_ok_iff {program : String} {arguments tokens : List String} :
    received program arguments = .ok tokens ↔
      (Executable program ∧ ∀ token ∈ arguments, Executable token) ∧ arguments = tokens := by
  simp [received, bind_ok_iff, -bind_pure_comp]

theorem executable_argv {exec : ExecutionConfig} {args : ContinueArgs} :
    (∀ token ∈ argv exec args, Executable token) ↔
      ∀ option ∈ handedOver exec args, Executable option.2 := by
  have names : ∀ option ∈ handedOver exec args, Executable ("--" ++ option.1) := by
    intro option member nul
    have letters : ∀ name ∈ givenNames, Executable ("--" ++ name) := by decide
    exact letters option.1 (handedOver_names member) nul
  have first : Executable "continue" := by decide
  simp only [argv, written, List.mem_cons, List.mem_flatMap, List.not_mem_nil, or_false]
  constructor
  · intro all option member
    exact all option.2 (.inr ⟨option, member, .inr rfl⟩)
  · rintro each token (rfl | ⟨option, member, rfl | rfl⟩)
    · exact first
    · exact names option member
    · exact each option member

theorem carried_iff {exec : ExecutionConfig} {args : ContinueArgs} :
    (∀ option ∈ handedOver exec args, Carries option.2) ↔
      Carries exec.model ∧ (∀ path ∈ exec.paths, Carries path) ∧ Deliverable args := by
  have turns := carries_toString exec.maxTurns.toNat
  have five : Deliverable args ↔ Carries args.conversationId ∧ Carries args.parentRunId ∧
      Carries args.command ∧ Carries args.runId ∧ Carries args.commandId :=
    ⟨fun ⟨a, b, c, d, e⟩ => ⟨a, b, c, d, e⟩, fun ⟨a, b, c, d, e⟩ => ⟨a, b, c, d, e⟩⟩
  rw [five]
  cases gate : exec.gate
  all_goals
    simp only [handedOver, ExecutionConfig.paths, gate, Option.toList, List.map_cons, List.map_nil,
      List.append_nil, List.cons_append, List.nil_append, List.forall_mem_cons, List.not_mem_nil,
      false_implies, implies_true, and_true]
    tauto

theorem continued_ok_iff {exec : ExecutionConfig} {args : ContinueArgs} {c : ContinueCommand} :
    continued exec args = .ok c ↔
      (Configured exec ∧ Deliverable args) ∧ intended exec args = c := by
  have parsed : ∀ m, ArgParser.parse continueCommandArgs (written (handedOver exec args)) = .ok m ↔
      (∀ option ∈ handedOver exec args, Plain option.2) ∧ m = ⟨handedOver exec args, []⟩ :=
    fun m => parse_written handedOver_declared (handedOver_distinct exec args)
  have line : ∀ c, Cli.parse (argv exec args) = .ok c ↔
      (∀ option ∈ handedOver exec args, Plain option.2) ∧
        (∀ path ∈ exec.paths, path ≠ "") ∧ intended exec args = c := by
    intro c
    simp only [argv, Cli.parse, bind_ok_iff, parsed]
    constructor
    · rintro ⟨_, ⟨plain, rfl⟩, read⟩
      exact ⟨plain, ofMatches_ok_iff.mp read⟩
    · rintro ⟨plain, read⟩
      exact ⟨_, ⟨plain, rfl⟩, ofMatches_ok_iff.mpr read⟩
  simp only [continued, bind_ok_iff, receivedBy_ok_iff, executable_argv, mapError_ok_iff]
  constructor
  · rintro ⟨_, ⟨⟨program, executable⟩, rfl⟩, read⟩
    rcases (line c).mp read with ⟨plain, paths, rfl⟩
    rcases carried_iff.mp fun option member => ⟨executable option member, plain option member⟩
      with ⟨model, carried, deliverable⟩
    exact ⟨⟨⟨program, model, fun path member => ⟨carried path member, paths path member⟩⟩,
      deliverable⟩, rfl⟩
  · rintro ⟨⟨configured, deliverable⟩, rfl⟩
    have carried := carried_iff.mpr
      ⟨configured.model, fun path member => (configured.paths path member).1, deliverable⟩
    refine ⟨_, ⟨⟨configured.program, fun option member => (carried option member).executable⟩, rfl⟩,
      (line _).mpr ⟨fun option member => (carried option member).plain, ?_, rfl⟩⟩
    exact fun path member => (configured.paths path member).2

def continueArgs (conversationId parentRunId : String) (command : Command) : ContinueArgs :=
  ⟨conversationId, parentRunId, command.commandText, command.childRunId.getD "", command.commandId⟩

theorem spawnContinue_eq (conversationId parentRunId : String) (command : Command) :
    spawnContinue conversationId parentRunId command =
      spawnProcess (continueArgs conversationId parentRunId command) := rfl

/-- The continuation of a command is started with the command's own ids and text exactly where each
of them, and each of the server's values, is a text that an argument holds and an option takes. -/
theorem text_survives (exec : ExecutionConfig) (conversationId parentRunId : String)
    (command : Command) :
    (∃ c, continued exec (continueArgs conversationId parentRunId command) = .ok c ∧
      c.toContinueArgs = continueArgs conversationId parentRunId command) ↔
    Configured exec ∧ Deliverable (continueArgs conversationId parentRunId command) := by
  constructor
  · rintro ⟨c, started, _⟩
    exact (continued_ok_iff.mp started).1
  · intro carried
    exact ⟨_, continued_ok_iff.mpr ⟨carried, rfl⟩, rfl⟩

namespace ArgumentsSample

def exec : ExecutionConfig :=
  ⟨"/usr/bin/o7", "/srv/ledger.db", "/srv/repo", "/srv/worktrees", "/srv/runs", none, "opus", 12⟩

def body : NewCommandRequestDto :=
  ⟨some 1, some "a6c1e7d2", some "- rename the parser", some "first"⟩

def bound (text : String) : Command :=
  ⟨"c3f0b1aa", "5d2e9c47", "a6c1e7d2", text, .started, some "91b7f04e", 10, 20⟩

end ArgumentsSample

open ArgumentsSample in
/-- A text that begins with a hyphen is accepted and then refused by the command line it is handed
to, though each other value is carried. -/
theorem hyphen_text_lost :
    body.admit = .ok ⟨"a6c1e7d2", "- rename the parser", "first"⟩ ∧ Configured exec ∧
      continued exec (continueArgs "5d2e9c47" "a6c1e7d2" (bound "- rename the parser")) =
        .error (.usage (.unknownArgument "- rename the parser")) ∧
      ¬ ∃ c, continued exec (continueArgs "5d2e9c47" "a6c1e7d2" (bound "- rename the parser")) =
        .ok c := by
  have refused : continued exec
      (continueArgs "5d2e9c47" "a6c1e7d2" (bound "- rename the parser")) =
        .error (.usage (.unknownArgument "- rename the parser")) := by decide +kernel
  refine ⟨by decide +kernel, ⟨by decide, ⟨by decide, by decide⟩, ?_⟩, refused, ?_⟩
  · have each : ∀ path ∈ exec.paths, (Executable path ∧ Plain path) ∧ path ≠ "" := by decide
    intro path member
    rcases each path member with ⟨⟨executable, plain⟩, filled⟩
    exact ⟨⟨executable, plain⟩, filled⟩
  · rintro ⟨c, started⟩
    rw [refused] at started
    cases started

open ArgumentsSample in
example : (continued exec (continueArgs "5d2e9c47" "a6c1e7d2" (bound "rename the parser"))).isOk =
    true := by decide +kernel

end O7Formal.Dispatch
