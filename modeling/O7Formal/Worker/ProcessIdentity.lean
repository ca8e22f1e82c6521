import O7Formal.Lib.Decimal
import O7Formal.Lib.Fallible
import O7Formal.Lib.Words
import O7Formal.Worker.Boundary

/-! The members of a process group, read from the process table.

A raw pid is not a durable identity, so a member is named with the kernel's start time. The scan
decides whether a group is gone, so what it cannot resolve is an error and never a missing member. -/

namespace O7Formal.Worker

open Decimal Fallible Words

inductive ErrorKind where
  | notFound | invalidData | other
  deriving DecidableEq

/-- A `std::io::Error`: what the operating system answered, or data the reader refuses. -/
inductive IoError where
  | os (errno : Int32)
  | invalidData (message : String)
  deriving DecidableEq

namespace Errno

def ENOENT : Int32 := 2
def ESRCH : Int32 := 3

end Errno

/-- Of the errors of the operating system only `ENOENT` is `NotFound`. -/
def IoError.kind : IoError → ErrorKind
  | .os errno => if errno = Errno.ENOENT then .notFound else .other
  | .invalidData _ => .invalidData

def IoError.rawOsError : IoError → Option Int32
  | .os errno => some errno
  | .invalidData _ => none

/-- The process table: the numeric entries of `/proc`, and the text of each entry's `stat`. -/
structure ProcSource where
  pids : Except IoError (List Int32)
  stat : Int32 → Except IoError String

structure StatFields where
  state : Char
  processGroup : Int32
  startTimeTicks : UInt64
  deriving DecidableEq

/-- The command name may hold spaces and parentheses, so the fields are counted from the last
`)`: the state is the first, the group the third and the start time the twentieth. -/
def parseStat (stat : String) : Option StatFields := do
  let tail ← afterLast ')' stat.toList
  let fields := words isWhitespace tail
  let state ← (← fields[0]?).head?
  let pgrp ← signed? (2 ^ 31) (String.ofList (← fields[2]?))
  let starttime ← unsigned? (2 ^ 64) (String.ofList (← fields[19]?))
  some
    { state, processGroup := Int32.ofInt pgrp, startTimeTicks := UInt64.ofNat starttime }

def isTerminalState (state : Char) : Bool := state = 'Z' || state = 'X' || state = 'x'

/-- `ENOENT` before the entry was opened, `ESRCH` after it. -/
def isConfirmedProcExitRace (error : IoError) : Bool :=
  error.kind = .notFound || error.rawOsError = some Errno.ESRCH

def unparseable (pid : Int32) : IoError :=
  .invalidData
    ("unparseable /proc/" ++ toString pid.toInt ++ "/stat; cannot prove group membership")

def scanPid (source : ProcSource) (pgid : Int32) (members : List ProcessIdentity) (pid : Int32) :
    Except IoError (List ProcessIdentity) :=
  match source.stat pid with
  | .error error => if isConfirmedProcExitRace error then .ok members else .error error
  | .ok raw =>
      match parseStat raw with
      | none => .error (unparseable pid)
      | some fields =>
          if isTerminalState fields.state then .ok members
          else if fields.processGroup = pgid then
            .ok (members ++
              [{ pid, processGroup := fields.processGroup,
                 startTimeTicks := fields.startTimeTicks }])
          else .ok members

def enumerateGroupWith (source : ProcSource) (pgid : Int32) :
    Except IoError (List ProcessIdentity) := do
  let pids ← source.pids
  pids.foldlM (scanPid source pgid) []

def ExitedError (error : IoError) : Prop := error = .os Errno.ENOENT ∨ error = .os Errno.ESRCH

@[simp] theorem isConfirmedProcExitRace_iff (error : IoError) :
    isConfirmedProcExitRace error = true ↔ ExitedError error := by
  rw [isConfirmedProcExitRace, Bool.or_eq_true, decide_eq_true_eq, decide_eq_true_eq, ExitedError]
  cases error with
  | os errno => simp [IoError.kind, IoError.rawOsError]
  | invalidData message => simp [IoError.kind, IoError.rawOsError]

theorem isTerminalState_iff (state : Char) :
    isTerminalState state = true ↔ state ∈ ['Z', 'X', 'x'] := by
  simp [isTerminalState, or_assoc]

/-- What the table says of a pid is decided: the process is gone, or its line was read. -/
def Determinable (source : ProcSource) (pid : Int32) : Prop :=
  (∃ error, source.stat pid = .error error ∧ ExitedError error) ∨
    ∃ raw fields, source.stat pid = .ok raw ∧ parseStat raw = some fields

/-- The member a pid contributes, when its line was read, it still runs and is of the group. -/
def memberOf (source : ProcSource) (pgid pid : Int32) : Option ProcessIdentity := do
  let raw ← (source.stat pid).toOption
  let fields ← parseStat raw
  if fields.state ∉ ['Z', 'X', 'x'] ∧ fields.processGroup = pgid then
    some { pid, processGroup := pgid, startTimeTicks := fields.startTimeTicks }
  else none

theorem scanPid_ok_iff (source : ProcSource) (pgid : Int32) (members : List ProcessIdentity)
    (pid : Int32) (found : List ProcessIdentity) :
    scanPid source pgid members pid = .ok found ↔
      Determinable source pid ∧ members ++ (memberOf source pgid pid).toList = found := by
  unfold scanPid Determinable memberOf
  simp only [← isTerminalState_iff]
  cases read : source.stat pid with
  | error error =>
      cases race : isConfirmedProcExitRace error with
      | true =>
          have exited := (isConfirmedProcExitRace_iff error).mp race
          simp [race, exited, Except.toOption]
      | false =>
          have alive : ¬ ExitedError error := by simp [← isConfirmedProcExitRace_iff, race]
          simp [race, alive]
  | ok raw =>
      cases parsed : parseStat raw with
      | none => simp [parsed]
      | some fields =>
          cases terminal : isTerminalState fields.state with
          | true => simp [parsed, terminal, Except.toOption]
          | false =>
              by_cases same : fields.processGroup = pgid
              · simp [parsed, terminal, same, Except.toOption]
              · simp [parsed, terminal, same, Except.toOption]

theorem enumerateGroupWith_ok_iff {source : ProcSource} {pgid : Int32}
    {members : List ProcessIdentity} :
    enumerateGroupWith source pgid = .ok members ↔
      ∃ pids, source.pids = .ok pids ∧ (∀ pid ∈ pids, Determinable source pid) ∧
        pids.filterMap (memberOf source pgid) = members := by
  have scans (pids : List Int32) : pids.foldlM (scanPid source pgid) [] = .ok members ↔
      (∀ pid ∈ pids, Determinable source pid) ∧ pids.filterMap (memberOf source pgid) = members :=
    foldlM_collect_ok (scanPid_ok_iff source pgid) pids [] members
  rw [enumerateGroupWith, bind_ok_iff]
  exact exists_congr fun pids => and_congr_right fun _ => scans pids

/-- A `stat` line as the kernel writes it. -/
structure KernelStat where
  pid : Int32
  comm : String
  state : Char
  letter : state.isAlpha = true
  ppid : Int32
  processGroup : Int32
  /-- From the session to the interval timer. -/
  between : List Int
  sixteen : between.length = 16
  startTimeTicks : UInt64
  rest : List Int

def KernelStat.fields (line : KernelStat) : List String :=
  String.singleton line.state :: toString line.ppid.toInt :: toString line.processGroup.toInt ::
    (line.between.map toString ++
      toString line.startTimeTicks.toNat :: line.rest.map toString)

def KernelStat.text (line : KernelStat) : String :=
  toString line.pid.toInt ++ " (" ++ line.comm ++ ") " ++ " ".intercalate line.fields ++ "\n"

theorem plain {c : Char} (kind : c.isAlphanum = true ∨ c = '-') :
    isWhitespace c = false ∧ c ≠ ')' := by
  rcases kind with kind | rfl
  · have range : (48 ≤ c.toNat ∧ c.toNat ≤ 57) ∨ (65 ≤ c.toNat ∧ c.toNat ≤ 90) ∨
        (97 ≤ c.toNat ∧ c.toNat ≤ 122) := by
      change ((decide (65 ≤ c.val ∧ c.val ≤ 90) || (97 ≤ c.val && c.val ≤ 122)) ||
        (48 ≤ c.val && c.val ≤ 57)) = true at kind
      simp only [Bool.or_eq_true, Bool.and_eq_true, decide_eq_true_eq,
        UInt32.le_iff_toNat_le] at kind
      rcases kind with (upper | lower) | digit
      · exact .inr (.inl upper)
      · exact .inr (.inr lower)
      · exact .inl digit
    refine ⟨?_, ?_⟩
    · simp only [isWhitespace, Bool.or_eq_false_iff, Bool.and_eq_false_iff, decide_eq_false_iff_not]
      omega
    · rintro rfl
      revert range
      decide
  · decide

theorem isWord_of_plain {word : List Char} (some : word ≠ [])
    (each : ∀ c ∈ word, c.isAlphanum = true ∨ c = '-') :
    IsWord isWhitespace word ∧ ')' ∉ word :=
  ⟨⟨some, fun c among => (plain (each c among)).1⟩, fun among => (plain (each _ among)).2 rfl⟩

theorem isWord_toString (n : Int) :
    IsWord isWhitespace (toString n).toList ∧ ')' ∉ (toString n).toList := by
  refine isWord_of_plain (toString_ne_nil n) fun c among => ?_
  rcases isDigit_toString n c among with digit | sign
  · exact .inl (by rw [Char.isAlphanum, digit, Bool.or_true])
  · exact .inr sign

theorem KernelStat.field_isWord {line : KernelStat} {field : String}
    (among : field ∈ line.fields) : IsWord isWhitespace field.toList ∧ ')' ∉ field.toList := by
  have numbers : ∀ ns : List Int, field ∈ ns.map toString →
      IsWord isWhitespace field.toList ∧ ')' ∉ field.toList := by
    intro ns among
    rcases List.mem_map.mp among with ⟨n, _, rfl⟩
    exact isWord_toString n
  simp only [KernelStat.fields, List.mem_cons, List.mem_append] at among
  rcases among with rfl | rfl | rfl | among | rfl | among
  · refine isWord_of_plain (by simp) fun c member => .inl ?_
    rw [String.toList_singleton, List.mem_singleton] at member
    rw [member, Char.isAlphanum, line.letter, Bool.true_or]
  · exact isWord_toString _
  · exact isWord_toString _
  · exact numbers line.between among
  · exact isWord_toString (line.startTimeTicks.toNat : Int)
  · exact numbers line.rest among

theorem parseStat_kernel (line : KernelStat) :
    parseStat line.text =
      some ⟨line.state, line.processGroup, line.startTimeTicks⟩ := by
  have tail : afterLast ')' line.text.toList =
      some (' ' :: (List.intercalate [' '] (line.fields.map String.toList) ++ ['\n'])) := by
    have spelled : line.text.toList =
        (toString line.pid.toInt ++ " (" ++ line.comm).toList ++ ')' ::
          (' ' :: (List.intercalate [' '] (line.fields.map String.toList) ++ ['\n'])) := by
      simp [KernelStat.text]
    rw [spelled, afterLast_append]
    intro among
    simp only [List.mem_cons, List.mem_append, List.not_mem_nil, or_false] at among
    rcases among with space | among | newline
    · exact absurd space (by decide)
    · rcases mem_intercalate among with space | ⟨word, member, inside⟩
      · exact absurd space (by decide)
      · rcases List.mem_map.mp member with ⟨field, field_among, rfl⟩
        exact (line.field_isWord field_among).2 inside
    · exact absurd newline (by decide)
  have read : words isWhitespace
      (' ' :: (List.intercalate [' '] (line.fields.map String.toList) ++ ['\n'])) =
        line.fields.map String.toList := by
    rw [words_space (by decide), words_intercalate (by decide) (by decide)]
    intro word among
    rcases List.mem_map.mp among with ⟨field, field_among, rfl⟩
    exact (line.field_isWord field_among).1
  have first : (line.fields.map String.toList)[0]? = some [line.state] := by
    simp [KernelStat.fields]
  have third : (line.fields.map String.toList)[2]? =
      some (toString line.processGroup.toInt).toList := rfl
  have twentieth : (line.fields.map String.toList)[19]? =
      some (toString line.startTimeTicks.toNat).toList := by
    simp [KernelStat.fields, line.sixteen]
  have group : signed? (2 ^ 31) (toString line.processGroup.toInt) =
      some line.processGroup.toInt :=
    signed?_toString line.processGroup.le_toInt line.processGroup.toInt_lt
  have start : unsigned? (2 ^ 64) (toString line.startTimeTicks.toNat) =
      some line.startTimeTicks.toNat :=
    unsigned?_repr line.startTimeTicks.toNat_lt
  simp only [parseStat, tail, read, first, third, twentieth, Option.bind_eq_bind, Option.bind_some,
    List.head?_cons, String.ofList_toList, group, start, Int32.ofInt_toInt, UInt64.ofNat_toNat]

/-- A scan answers only when every listed pid is decided, and then with the members of the group
that still run, in the order of the listing. -/
theorem group_membership :
    (∀ (source : ProcSource) (pgid : Int32) (members : List ProcessIdentity),
      enumerateGroupWith source pgid = .ok members ↔
        ∃ pids, source.pids = .ok pids ∧ (∀ pid ∈ pids, Determinable source pid) ∧
          pids.filterMap (memberOf source pgid) = members) ∧
      ∀ line : KernelStat,
        parseStat line.text = some ⟨line.state, line.processGroup, line.startTimeTicks⟩ :=
  ⟨fun _ _ _ => enumerateGroupWith_ok_iff, parseStat_kernel⟩

end O7Formal.Worker
