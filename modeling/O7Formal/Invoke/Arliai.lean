import O7Formal.Lib.ByteCodec
import O7Formal.Lib.Fallible
import O7Formal.Lib.JsonAccess
import O7Formal.Lib.Words

/-! The call of the Arli AI provider: what its answer is taken for, and what of it enters the run
directory. -/

namespace O7Formal.Invoke.Arliai

open Json (Tree)
open Fallible
open ByteCodec (utf8Bytes)
open Words (isWhitespace trim)

inductive ArliOutcome where
  | http (status : Nat) (body : List UInt8)
  | timedOut
  | redirect (detail : String)
  | tooLarge (limit : Nat)
  | transport (detail : String)
  deriving DecidableEq, Repr

inductive InvokeStatus where
  | pass
  | blockedAuth
  | blockedUsage
  | blockedTimeout
  | blockedNotInstalled
  | blockedProvider
  | failInvalidOutput
  | failSchema
  deriving DecidableEq, Repr

inductive ExtractError where
  | badEnvelope
  | emptyChoices
  | toolCallsPresent
  | nullContent
  | badContentJson
  deriving DecidableEq, Repr

def ExtractError.errorKind : ExtractError → String
  | badEnvelope => "bad_envelope"
  | emptyChoices => "empty_choices"
  | toolCallsPresent => "tool_calls_present"
  | nullContent => "null_content"
  | badContentJson => "invalid_json"

/-- `serde_json::from_slice` and `serde_json::from_str`. -/
structure Reader where
  fromSlice : List UInt8 → Option Tree
  fromStr : List Char → Option Tree

def toolCallsPresent (message : Tree) : Bool :=
  (message.field "tool_calls").any fun calls =>
    !calls.isNull && (calls.asArray.all fun items => !items.isEmpty)

def extractContent (reader : Reader) (body : List UInt8) : Except ExtractError Tree := do
  let envelope ← okOr (reader.fromSlice body) .badEnvelope
  let choices ← okOr ((envelope.field "choices").bind Tree.asArray) .badEnvelope
  let first ← okOr choices.head? .emptyChoices
  let message ← okOr (first.field "message") .badEnvelope
  refuseIf (toolCallsPresent message = true) .toolCallsPresent
  let content ← okOr (message.field "content") .nullContent
  refuseIf (content.isNull = true) .nullContent
  let text ← okOr content.asStr .badEnvelope
  okOr (reader.fromStr (trim isWhitespace text.toList)) .badContentJson

/-- The terminal status, the value that was extracted, and the kind of failure. -/
structure Classified where
  status : InvokeStatus
  structured : Option Tree
  errorKind : Option String
  deriving DecidableEq

def classifyExtracted (isValid : Tree → Bool) : Option Tree → Classified
  | none => ⟨.failInvalidOutput, none, some "invalid_json"⟩
  | some v =>
      if isValid v = true then ⟨.pass, some v, none⟩
      else ⟨.failSchema, some v, some "schema_violation"⟩

def Claims (status : Nat) : Prop := 200 ≤ status ∧ status < 300

instance (status : Nat) : Decidable (Claims status) := inferInstanceAs (Decidable (_ ∧ _))

def blocked (status : InvokeStatus) (kind : String) : Classified := ⟨status, none, some kind⟩

def classifySuccess (reader : Reader) (isValid : Tree → Bool) (body : List UInt8) : Classified :=
  match extractContent reader body with
  | .ok v => classifyExtracted isValid (some v)
  | .error e => ⟨.failInvalidOutput, none, some e.errorKind⟩

def classifyRefused (status : Nat) : Classified :=
  if 300 ≤ status ∧ status ≤ 399 then blocked .blockedProvider "redirect"
  else if status = 401 ∨ status = 403 then blocked .blockedAuth "auth"
  else if status = 402 ∨ status = 429 then blocked .blockedUsage "usage_limit"
  else if status = 408 then blocked .blockedTimeout "timeout"
  else if 400 ≤ status ∧ status ≤ 499 then blocked .blockedProvider "http_request_rejected"
  else if 500 ≤ status ∧ status ≤ 599 then blocked .blockedProvider "http_5xx"
  else blocked .blockedProvider "http_status_unclassified"

def classifyArli (reader : Reader) (isValid : Tree → Bool) : ArliOutcome → Classified
  | .timedOut => blocked .blockedTimeout "timeout"
  | .redirect _ => blocked .blockedProvider "redirect"
  | .transport _ => blocked .blockedProvider "transport"
  | .tooLarge _ => blocked .blockedProvider "response_too_large"
  | .http status body =>
      if Claims status then classifySuccess reader isValid body else classifyRefused status

def windows (n : Nat) (bytes : List UInt8) : List (List UInt8) :=
  (List.range (bytes.length + 1 - n)).map fun i => (bytes.drop i).take n

def containsSubslice (haystack needle : List UInt8) : Bool :=
  if needle = [] ∨ haystack.length < needle.length then false
  else (windows needle.length haystack).any fun w => w == needle

def credentialReflected (key : String) : ArliOutcome → Bool
  | .http status body => decide (Claims status) && containsSubslice body (utf8Bytes key)
  | _ => false

/-- The bytes for `stdout.raw`, and the text for `stderr.log`. -/
def arliRunDirEvidence (outcome : ArliOutcome) (errorKind : Option String) (timeoutSecs : Nat) :
    List UInt8 × String :=
  match outcome with
  | .http status body =>
      if Claims status then (body, "")
      else ([], "arliai responded " ++ toString status ++ " (" ++
        errorKind.getD "unclassified" ++ "); the diagnostic body is not canonical run " ++
        "evidence and is not persisted (docs/o7-invoke.md)\n")
  | .timedOut => ([], "arliai call timed out after " ++ toString timeoutSecs ++ "s\n")
  | .redirect detail => ([], detail ++ "\n")
  | .transport detail => ([], detail ++ "\n")
  | .tooLarge limit =>
      ([], "arliai response body exceeded the " ++ toString limit ++ "-byte bound\n")

/-- What a call leaves: the two streams, the value that `result.json` holds, if there is one, and
what `meta.json` says of the answer. -/
structure RunDir where
  stdoutRaw : List UInt8
  stderrLog : String
  result : Option Tree
  status : InvokeStatus
  schemaValid : Bool
  errorKind : Option String
  deriving DecidableEq

def reflectedText : String :=
  "arliai response contained the request credential verbatim; the body is not " ++
    "persisted and the call is refused (docs/o7-invoke.md, key handling)\n"

def artifacts (reader : Reader) (isValid : Tree → Bool) (timeoutSecs : Nat) (key : String)
    (outcome : ArliOutcome) : RunDir :=
  let reflected := credentialReflected key outcome
  let classified :=
    if reflected = true then blocked .blockedProvider "credential_reflected"
    else classifyArli reader isValid outcome
  let evidence :=
    if reflected = true then ([], reflectedText)
    else arliRunDirEvidence outcome classified.errorKind timeoutSecs
  { stdoutRaw := evidence.1
    stderrLog := evidence.2
    result := classified.structured
    status := classified.status
    schemaValid := decide (classified.status = .pass)
    errorKind := classified.errorKind }

structure PreparedCall where
  prompt : String
  schema : Tree
  isValid : Tree → Bool

def stripDollarSchema : Tree → Tree
  | .object members => .object (members.filter fun p => p.1 != "$schema")
  | other => other

inductive Refusal where
  | wireLogging
  | noModel
  | noKey
  | preparation (why : String)
  deriving DecidableEq, Repr

abbrev Provider := String → Tree → String → String → ArliOutcome

def PreparedCall.answer (p : PreparedCall) (call : Provider) (model key : String) : ArliOutcome :=
  call p.prompt (stripDollarSchema p.schema) model key

def apiKey (env : Option String) : String :=
  String.ofList (trim isWhitespace (env.getD "").toList)

/-- The refusals come before the call; `prepare` answers with what is in the files. -/
def runArliai (reader : Reader) (call : Provider) (tracing : Bool) (model env : Option String)
    (prepare : Except String PreparedCall) (timeoutSecs : Nat) : Except Refusal RunDir := do
  refuseIf (tracing = true) .wireLogging
  let name ← okOr model .noModel
  let key := apiKey env
  refuseIf (key = "") .noKey
  let p ← prepare.mapError .preparation
  return artifacts reader p.isValid timeoutSecs key (p.answer call name key)

structure Answers (envelope : Tree) (text : String) : Prop where
  completed : ∃ first rest message, envelope.field "choices" = some (.array (first :: rest)) ∧
    first.field "message" = some message ∧
    (∀ calls, message.field "tool_calls" = some calls → calls = .null ∨ calls = .array []) ∧
    message.field "content" = some (.string text)

def Yields (reader : Reader) (body : List UInt8) (v : Tree) : Prop :=
  ∃ envelope text, reader.fromSlice body = some envelope ∧ Answers envelope text ∧
    reader.fromStr (trim isWhitespace text.toList) = some v

theorem toolCallsPresent_iff {message : Tree} : toolCallsPresent message = false ↔
    ∀ calls, message.field "tool_calls" = some calls → calls = .null ∨ calls = .array [] := by
  unfold toolCallsPresent
  cases message.field "tool_calls" with
  | none => simp
  | some calls =>
      have plain : (!calls.isNull && (calls.asArray.all fun items => !items.isEmpty)) = false ↔
          calls = .null ∨ calls = .array [] := by
        cases calls with
        | array items => cases items <;> simp [Tree.isNull, Tree.asArray]
        | _ => simp [Tree.isNull, Tree.asArray]
      simpa using plain

theorem extractContent_ok_iff {reader : Reader} {body : List UInt8} {v : Tree} :
    extractContent reader body = .ok v ↔ Yields reader body v := by
  simp only [extractContent, bind_ok_iff, okOr_ok_iff, refuseIf_ok_iff, Option.bind_eq_some_iff,
    Tree.asArray_some_iff, Tree.asStr_some_iff, Bool.not_eq_true, toolCallsPresent_iff]
  constructor
  · rintro ⟨envelope, read, _, ⟨_, listed, rfl⟩, first, head, message, inside, _, plain, _, content,
      _, _, text, rfl, parsed⟩
    rcases List.head?_eq_some_iff.mp head with ⟨rest, rfl⟩
    exact ⟨envelope, text, read, ⟨first, rest, message, listed, inside, plain, content⟩, parsed⟩
  · rintro ⟨envelope, text, read, ⟨first, rest, message, listed, inside, plain, content⟩, parsed⟩
    exact ⟨envelope, read, _, ⟨_, listed, rfl⟩, first, rfl, message, inside, (), plain, _, content,
      (), rfl, text, rfl, parsed⟩

theorem Yields.unique {reader : Reader} {body : List UInt8} {v w : Tree}
    (first : Yields reader body v) (second : Yields reader body w) : v = w := by
  rw [← extractContent_ok_iff] at first second
  exact Except.ok.inj (first.symm.trans second)

theorem mem_windows {n : Nat} {bytes w : List UInt8} (fits : n ≤ bytes.length) :
    w ∈ windows n bytes ↔ w.length = n ∧ w <:+: bytes := by
  simp only [windows, List.mem_map, List.mem_range]
  constructor
  · rintro ⟨i, inside, rfl⟩
    refine ⟨?_, (List.take_prefix _ _).isInfix.trans (List.drop_suffix _ _).isInfix⟩
    rw [List.length_take, List.length_drop]
    omega
  · rintro ⟨rfl, front, back, rfl⟩
    refine ⟨front.length, by simp only [List.length_append]; omega, ?_⟩
    rw [List.append_assoc, List.drop_left, List.take_left]

theorem containsSubslice_iff {haystack needle : List UInt8} :
    containsSubslice haystack needle = true ↔ needle ≠ [] ∧ needle <:+: haystack := by
  unfold containsSubslice
  split_ifs with none
  · refine iff_of_false not_false ?_
    rintro ⟨present, inside⟩
    exact none.elim present fun short => absurd inside.length_le (Nat.not_le.mpr short)
  · rw [not_or, Nat.not_lt] at none
    rw [List.any_eq_true]
    constructor
    · rintro ⟨w, among, same⟩
      rw [beq_iff_eq] at same
      subst same
      exact ⟨none.1, ((mem_windows none.2).mp among).2⟩
    · rintro ⟨_, inside⟩
      exact ⟨needle, (mem_windows none.2).mpr ⟨rfl, inside⟩, beq_self_eq_true _⟩

section Artifacts

variable {reader : Reader} {isValid : Tree → Bool} {timeoutSecs : Nat} {key : String}
  {outcome : ArliOutcome} {status : Nat} {body : List UInt8}

/-- A response that claims success and does not give the key back. -/
structure Accepted (key : String) (outcome : ArliOutcome) (body : List UInt8) : Prop where
  response : ∃ status, outcome = .http status body ∧ Claims status
  silent : ¬ utf8Bytes key <:+: body

structure Judged (reader : Reader) (isValid : Tree → Bool) (body : List UInt8) (dir : RunDir) :
    Prop where
  stdout : dir.stdoutRaw = body
  result : ∀ v, dir.result = some v ↔ Yields reader body v
  pass : dir.status = .pass ↔ ∃ v, Yields reader body v ∧ isValid v = true
  schema : dir.status = .failSchema ↔ ∃ v, Yields reader body v ∧ isValid v = false
  output : dir.status = .failInvalidOutput ↔ ¬ ∃ v, Yields reader body v
  valid : dir.schemaValid = true ↔ dir.status = .pass

def blockedStatuses : List InvokeStatus :=
  [.blockedAuth, .blockedUsage, .blockedTimeout, .blockedProvider]

structure Withheld (dir : RunDir) : Prop where
  stdout : dir.stdoutRaw = []
  result : dir.result = none
  status : dir.status ∈ blockedStatuses
  valid : dir.schemaValid = false

theorem utf8Bytes_ne_nil (present : key ≠ "") : utf8Bytes key ≠ [] :=
  fun empty => present (ByteCodec.utf8Bytes_injective empty)

theorem credentialReflected_iff (present : key ≠ "") : credentialReflected key outcome = true ↔
    ∃ status body, outcome = .http status body ∧ Claims status ∧ utf8Bytes key <:+: body := by
  cases outcome with
  | http status body =>
      simp [credentialReflected, containsSubslice_iff, utf8Bytes_ne_nil present]
  | _ => simp [credentialReflected]

theorem classifySuccess_cases (reader : Reader) (isValid : Tree → Bool) (body : List UInt8) :
    (∃ v, Yields reader body v ∧ isValid v = true ∧
      classifySuccess reader isValid body = ⟨.pass, some v, none⟩) ∨
    (∃ v, Yields reader body v ∧ isValid v = false ∧
      classifySuccess reader isValid body = ⟨.failSchema, some v, some "schema_violation"⟩) ∨
    (¬ ∃ v, Yields reader body v) ∧
      ∃ kind, classifySuccess reader isValid body = ⟨.failInvalidOutput, none, some kind⟩ := by
  unfold classifySuccess
  cases extracted : extractContent reader body with
  | error e =>
      refine .inr (.inr ⟨?_, _, rfl⟩)
      rintro ⟨v, yields⟩
      rw [← extractContent_ok_iff, extracted] at yields
      cases yields
  | ok v =>
      have yields := extractContent_ok_iff.mp extracted
      cases valid : isValid v with
      | false => exact .inr (.inl ⟨v, yields, valid, if_neg (by simp [valid])⟩)
      | true => exact .inl ⟨v, yields, valid, if_pos valid⟩

theorem artifacts_judged (present : key ≠ "") (accepted : Accepted key outcome body) :
    Judged reader isValid body (artifacts reader isValid timeoutSecs key outcome) := by
  rcases accepted with ⟨⟨status, rfl, claims⟩, silent⟩
  have kept : ¬ credentialReflected key (.http status body) = true := by
    rw [credentialReflected_iff present]
    rintro ⟨_, _, ⟨⟩, _, inside⟩
    exact silent inside
  have dir : artifacts reader isValid timeoutSecs key (.http status body) =
      let c := classifySuccess reader isValid body
      ⟨body, "", c.structured, c.status, decide (c.status = .pass), c.errorKind⟩ := by
    simp only [artifacts, if_neg kept, classifyArli, arliRunDirEvidence, if_pos claims]
  rw [dir]
  rcases classifySuccess_cases reader isValid body with
    ⟨v, yields, valid, same⟩ | ⟨v, yields, invalid, same⟩ | ⟨nothing, kind, same⟩
  · simp only [same]
    refine ⟨rfl, fun w => ?_, iff_of_true rfl ⟨v, yields, valid⟩, iff_of_false nofun ?_,
      iff_of_false nofun fun none => none ⟨v, yields⟩, by simp⟩
    · exact ⟨fun held => Option.some.inj held ▸ yields, fun other => by rw [yields.unique other]⟩
    · rintro ⟨w, other, invalid⟩
      rw [← yields.unique other, valid] at invalid
      cases invalid
  · simp only [same]
    refine ⟨rfl, fun w => ?_, iff_of_false nofun ?_, iff_of_true rfl ⟨v, yields, invalid⟩,
      iff_of_false nofun fun none => none ⟨v, yields⟩, by simp⟩
    · exact ⟨fun held => Option.some.inj held ▸ yields, fun other => by rw [yields.unique other]⟩
    · rintro ⟨w, other, valid⟩
      rw [← yields.unique other, invalid] at valid
      cases valid
  · simp only [same]
    refine ⟨rfl, fun w => ?_, iff_of_false nofun ?_, iff_of_false nofun ?_,
      iff_of_true rfl nothing, by simp⟩
    · exact iff_of_false nofun fun yields => nothing ⟨w, yields⟩
    · exact fun ⟨w, yields, _⟩ => nothing ⟨w, yields⟩
    · exact fun ⟨w, yields, _⟩ => nothing ⟨w, yields⟩

theorem classifyRefused_blocked (status : Nat) :
    ∃ s ∈ blockedStatuses, ∃ kind, classifyRefused status = blocked s kind := by
  unfold classifyRefused
  split_ifs <;> exact ⟨_, by decide, _, rfl⟩

theorem withheld_of_blocked {s : InvokeStatus} (among : s ∈ blockedStatuses) (text kind : String) :
    Withheld ⟨[], text, none, s, decide (s = .pass), some kind⟩ := by
  refine ⟨rfl, rfl, among, decide_eq_false ?_⟩
  rintro rfl
  exact absurd among (by decide)

theorem artifacts_reflected (reflected : credentialReflected key outcome = true) :
    artifacts reader isValid timeoutSecs key outcome =
      ⟨[], reflectedText, none, .blockedProvider, false, some "credential_reflected"⟩ := by
  simp only [artifacts, if_pos reflected]
  rfl

theorem artifacts_refused (refused : ¬ Claims status) : ∃ s ∈ blockedStatuses, ∃ text kind,
    ∀ body, artifacts reader isValid timeoutSecs key (.http status body) =
      ⟨[], text, none, s, decide (s = .pass), some kind⟩ := by
  rcases classifyRefused_blocked status with ⟨s, among, kind, same⟩
  refine ⟨s, among, (arliRunDirEvidence (.http status []) (some kind) timeoutSecs).2, kind,
    fun body => ?_⟩
  have kept : ¬ credentialReflected key (.http status body) = true := by
    simp [credentialReflected, refused]
  simp only [artifacts, if_neg kept, classifyArli, arliRunDirEvidence, if_neg refused, same,
    blocked]

theorem reflected_of_withheld (present : key ≠ "") (claims : Claims status)
    (withheld : ¬ Accepted key (.http status body) body) :
    credentialReflected key (.http status body) = true := by
  rw [credentialReflected_iff present]
  refine ⟨status, body, rfl, claims, ?_⟩
  by_contra silent
  exact withheld ⟨⟨status, rfl, claims⟩, silent⟩

theorem artifacts_withheld (present : key ≠ "") (withheld : ∀ body, ¬ Accepted key outcome body) :
    Withheld (artifacts reader isValid timeoutSecs key outcome) := by
  cases outcome with
  | http status body =>
      by_cases claims : Claims status
      · rw [artifacts_reflected (reflected_of_withheld present claims (withheld body))]
        exact withheld_of_blocked (by decide) _ _
      · rcases artifacts_refused claims with ⟨s, among, text, kind, same⟩
        rw [same]
        exact withheld_of_blocked among _ _
  | timedOut => exact withheld_of_blocked (s := .blockedTimeout) (by decide) _ _
  | redirect detail => exact withheld_of_blocked (s := .blockedProvider) (by decide) _ _
  | tooLarge limit => exact withheld_of_blocked (s := .blockedProvider) (by decide) _ _
  | transport detail => exact withheld_of_blocked (s := .blockedProvider) (by decide) _ _

theorem artifacts_withheld_eq {body' : List UInt8} (present : key ≠ "")
    (first : ¬ Accepted key (.http status body) body)
    (second : ¬ Accepted key (.http status body') body') :
    artifacts reader isValid timeoutSecs key (.http status body) =
      artifacts reader isValid timeoutSecs key (.http status body') := by
  by_cases claims : Claims status
  · rw [artifacts_reflected (reflected_of_withheld present claims first),
      artifacts_reflected (reflected_of_withheld present claims second)]
  · rcases artifacts_refused claims with ⟨s, _, text, kind, same⟩
    rw [same, same]

end Artifacts

theorem runArliai_ok_iff {reader : Reader} {call : Provider} {tracing : Bool}
    {model env : Option String} {prepare : Except String PreparedCall} {timeoutSecs : Nat}
    {dir : RunDir} : runArliai reader call tracing model env prepare timeoutSecs = .ok dir ↔
      ∃ name p, tracing = false ∧ model = some name ∧ apiKey env ≠ "" ∧ prepare = .ok p ∧
        artifacts reader p.isValid timeoutSecs (apiKey env) (p.answer call name (apiKey env)) =
          dir := by
  simp only [runArliai, bind_ok_iff, refuseIf_ok_iff, okOr_ok_iff, mapError_ok_iff, pure_ok_iff,
    Bool.not_eq_true]
  constructor
  · rintro ⟨_, silent, name, known, _, present, p, prepared, rfl⟩
    exact ⟨name, p, silent, known, present, prepared, rfl⟩
  · rintro ⟨name, p, silent, known, present, prepared, rfl⟩
    exact ⟨(), silent, name, known, (), present, p, prepared, rfl⟩

/-- The key is in no byte that a call leaves in `stdout.raw`. A response that claims success and
does not give the key back is judged by its own value alone; of any other answer no body enters
the run directory, and what is left depends on no body. -/
theorem runArliai_confined {reader : Reader} {call : Provider} {tracing : Bool}
    {model env : Option String} {prepare : Except String PreparedCall} {timeoutSecs : Nat}
    {dir : RunDir} (ran : runArliai reader call tracing model env prepare timeoutSecs = .ok dir) :
    ∃ name p, tracing = false ∧ model = some name ∧ apiKey env ≠ "" ∧ prepare = .ok p ∧
      ¬ utf8Bytes (apiKey env) <:+: dir.stdoutRaw ∧
      (∀ body, Accepted (apiKey env) (p.answer call name (apiKey env)) body →
        Judged reader p.isValid body dir) ∧
      ((∀ body, ¬ Accepted (apiKey env) (p.answer call name (apiKey env)) body) →
        Withheld dir) ∧
      ∀ (call' : Provider) (status : Nat) (body body' : List UInt8),
        p.answer call name (apiKey env) = .http status body →
        p.answer call' name (apiKey env) = .http status body' →
        ¬ Accepted (apiKey env) (.http status body) body →
        ¬ Accepted (apiKey env) (.http status body') body' →
        runArliai reader call' tracing model env prepare timeoutSecs = .ok dir := by
  rcases runArliai_ok_iff.mp ran with ⟨name, p, silent, known, present, prepared, rfl⟩
  refine ⟨name, p, silent, known, present, prepared, ?_,
    fun body accepted => artifacts_judged present accepted, artifacts_withheld present, ?_⟩
  · intro inside
    by_cases accepted : ∃ body, Accepted (apiKey env) (p.answer call name (apiKey env)) body
    · rcases accepted with ⟨body, accepted⟩
      rw [(artifacts_judged present accepted).stdout] at inside
      exact accepted.silent inside
    · rw [(artifacts_withheld present (not_exists.mp accepted)).stdout, List.infix_nil] at inside
      exact utf8Bytes_ne_nil present inside
  · intro call' status body body' answered answered' first second
    rw [runArliai_ok_iff]
    refine ⟨name, p, silent, known, present, prepared, ?_⟩
    rw [answered, answered', artifacts_withheld_eq present second first]

namespace Sample

def reader : Reader := ⟨fun _ => none, fun _ => none⟩

def request : PreparedCall := ⟨"p", .object [], fun _ => true⟩

def env : Option String := some " k\n"

def dir (status : Nat) (body : List UInt8) : RunDir :=
  artifacts reader request.isValid 9 "k" (.http status body)

theorem ran (status : Nat) (body : List UInt8) :
    runArliai reader (fun _ _ _ _ => .http status body) false (some "m") env (.ok request) 9 =
      .ok (dir status body) :=
  runArliai_ok_iff.mpr ⟨"m", request, rfl, rfl, by decide, rfl, rfl⟩

end Sample

open Sample in
theorem runArliai_confined_answers :
    (¬ utf8Bytes (apiKey env) <:+: (dir 401 [0x6b]).stdoutRaw ∧ Withheld (dir 401 [0x6b])) ∧
    Judged reader request.isValid [0x7b, 0x7d] (dir 200 [0x7b, 0x7d]) ∧
    ¬ utf8Bytes (apiKey env) <:+: (dir 200 [0x22, 0x6b, 0x22]).stdoutRaw ∧
      Withheld (dir 200 [0x22, 0x6b, 0x22]) := by
  refine ⟨?_, ?_, ?_⟩
  · rcases runArliai_confined (ran 401 [0x6b]) with
      ⟨name, p, _, known, _, prepared, silent, _, withheld, _⟩
    cases known
    cases prepared
    refine ⟨silent, withheld ?_⟩
    rintro _ ⟨⟨status, same, claims⟩, _⟩
    cases same
    exact absurd claims (by decide)
  · rcases runArliai_confined (ran 200 [0x7b, 0x7d]) with
      ⟨name, p, _, known, _, prepared, _, judged, _⟩
    cases known
    cases prepared
    exact judged _ ⟨⟨200, rfl, by decide⟩, by decide⟩
  · rcases runArliai_confined (ran 200 [0x22, 0x6b, 0x22]) with
      ⟨name, p, _, known, _, prepared, silent, _, withheld, _⟩
    cases known
    cases prepared
    refine ⟨silent, withheld ?_⟩
    rintro _ ⟨⟨status, same, _⟩, apart⟩
    cases same
    exact apart (by decide)

end O7Formal.Invoke.Arliai
