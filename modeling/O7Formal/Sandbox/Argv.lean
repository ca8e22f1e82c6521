import O7Formal.Lib.Decimal
import O7Formal.Lib.Utf8
import O7Formal.Run.Event
import O7Formal.Sandbox.Request

/-! The policy on the backend's command line: the vector the boundary builds, the parser of the
backend, and the policy the backend reconstructs. -/

namespace O7Formal.Sandbox

open ByteCodec Decimal Fallible Utf8
open Run (Sha256)

def Digest256.ofBytes (sha256 : Sha256) (bytes : List UInt8) : Digest256 :=
  ⟨hexLower (sha256 bytes).1, by
    have ascii := utf8Bytes_hexLower (sha256 bytes).1
    rwa [(sha256 bytes).2] at ascii⟩

def SandboxPolicy.digest (sha256 : Sha256) (policy : SandboxPolicy) : Digest256 :=
  .ofBytes sha256 policy.canonicalBytes

/-- `Duration::as_millis` -/
def asMillis (d : StdDuration) : Nat := d.nanos / 1000000

theorem short_millis (d : StdDuration) : (utf8Bytes (toString (asMillis d))).length < 2 ^ 63 := by
  have below : asMillis d < 10 ^ 23 := by
    have bounded := d.bounded
    unfold asMillis
    omega
  have digits : (asMillis d).repr.toList.length ≤ 23 := by
    rw [Nat.toList_repr]
    exact Nat.toDigits_length 10 _ 23 (by norm_num) below
  have bytes := length_utf8Bytes_le (toString (asMillis d))
  have same : toString (asMillis d) = (asMillis d).repr := rfl
  rw [same] at bytes ⊢
  omega

def policyFlags (policy : SandboxPolicy) : List Bytes :=
  (match policy.network with
    | .denyAll => [.ofText "--deny-net" (by decide)]) ++
  [.ofText "--worktree" (by decide), policy.worktree] ++
  [.ofText "--timeout-ms" (by decide),
    .ofText (toString (asMillis policy.timeout)) (short_millis policy.timeout)] ++
  policy.allowExec.toList.flatMap (fun path => [.ofText "--allow-exec" (by decide), path]) ++
  policy.envAllowlist.toList.flatMap (fun name => [.ofText "--allow-env" (by decide), name])

def HexText.bytes {width : Nat} (text : HexText width) (short : width < 2 ^ 63) : Bytes :=
  .ofText text.asStr (text.canonical.1.trans_lt short)

/-- What follows the backend's own name: only the sealed target stands behind the separator. -/
def backendArgv (policy : SandboxPolicy) (launchNonce : LaunchNonce) (sealedTarget : Bytes) :
    List Bytes :=
  [.ofText "run" (by decide), .ofText "--launch-nonce" (by decide),
    launchNonce.bytes (by norm_num)] ++
  policyFlags policy ++ [.ofText "--" (by decide)] ++ [sealedTarget]

structure Args where
  nonce : String
  worktree : Bytes
  timeoutMs : Nat
  allowExec : Slice Bytes
  allowEnv : Slice Bytes
  target : Bytes

/-- `OsStr::to_str` -/
def toStr (text : Bytes) : Option String := fromUtf8 text.toList

@[ext]
structure Flags where
  nonce : Option String
  worktree : Option Bytes
  timeoutMs : Option Nat
  allowExec : Slice Bytes
  allowEnv : Slice Bytes

def Flags.empty : Flags := ⟨none, none, none, .nil, .nil⟩

def Flags.set (flags : Flags) (flag : String) (value : Bytes) : Option Flags :=
  match flag with
  | "--launch-nonce" => (toStr value).map fun text => { flags with nonce := some text }
  | "--worktree" => some { flags with worktree := some value }
  | "--timeout-ms" =>
      ((toStr value).bind (unsigned? (2 ^ 128))).map fun n => { flags with timeoutMs := some n }
  | "--allow-exec" => (flags.allowExec.push value).map fun xs => { flags with allowExec := xs }
  | "--allow-env" => (flags.allowEnv.push value).map fun xs => { flags with allowEnv := xs }
  | _ => none

def parseFlags : List Bytes → Flags → Option (Flags × List Bytes)
  | [], _ => none
  | flag :: rest, flags =>
      match toStr flag with
      | none => none
      | some "--deny-net" => parseFlags rest flags
      | some "--" => some (flags, rest)
      | some flag =>
          match rest with
          | [] => none
          | value :: rest => (flags.set flag value).bind (parseFlags rest)

def parseArgs (argv : List Bytes) : Option Args := do
  let first ← argv[1]?
  if (← toStr first) ≠ "run" then none
  let (flags, rest) ← parseFlags (argv.drop 2) .empty
  let target ← rest.head?
  some
    { nonce := ← flags.nonce, worktree := ← flags.worktree, timeoutMs := ← flags.timeoutMs,
      allowExec := flags.allowExec, allowEnv := flags.allowEnv, target }

/-- `Duration::from_millis` of the milliseconds, cut to 64 bits. -/
def fromMillis (ms : Nat) : StdDuration :=
  ⟨min ms (2 ^ 64 - 1) * 1000000, by
    have cut : min ms (2 ^ 64 - 1) ≤ 2 ^ 64 - 1 := Nat.min_le_right _ _
    omega⟩

def reconstructedPolicy (args : Args) : SandboxPolicy :=
  { worktree := args.worktree, allowExec := args.allowExec, network := .denyAll,
    envAllowlist := args.allowEnv, timeout := fromMillis args.timeoutMs }

@[simp] theorem toStr_ofText (s : String) (short : (utf8Bytes s).length < 2 ^ 63) :
    toStr (.ofText s short) = some s := by
  rw [toStr]
  exact (fromUtf8_utf8 s.toList).trans (by rw [String.ofList_toList])

theorem parseFlags_value {flag : String} (named : flag ≠ "--deny-net") (inside : flag ≠ "--")
    {short : (utf8Bytes flag).length < 2 ^ 63} (value : Bytes) (rest : List Bytes)
    (flags : Flags) :
    parseFlags (.ofText flag short :: value :: rest) flags =
      (flags.set flag value).bind (parseFlags rest) := by
  rw [parseFlags, toStr_ofText]
  split
  · rename_i absent
    cases absent
  · rename_i same
    exact absurd (Option.some.inj same) named
  · rename_i same
    exact absurd (Option.some.inj same) inside
  · rename_i same
    cases same
    rfl

theorem parseFlags_repeated {flag : String} (field : Flags → Slice Bytes)
    (update : Flags → Slice Bytes → Flags) (named : flag ≠ "--deny-net") (inside : flag ≠ "--")
    {short : (utf8Bytes flag).length < 2 ^ 63}
    (sets : ∀ flags value, flags.set flag value = ((field flags).push value).map (update flags))
    (reads : ∀ flags xs, field (update flags xs) = xs)
    (replaces : ∀ flags xs ys, update (update flags xs) ys = update flags ys)
    (keeps : ∀ flags, update flags (field flags) = flags)
    {xs : List Bytes} (rest : List Bytes) {flags : Flags} (whole : Slice Bytes)
    (total : whole.toList = (field flags).toList ++ xs) :
    parseFlags (xs.flatMap (fun value => [.ofText flag short, value]) ++ rest) flags =
      parseFlags rest (update flags whole) := by
  induction xs generalizing flags with
  | nil =>
      have same : whole = field flags := Slice.ext (by rw [total, List.append_nil])
      rw [same, keeps]
      rfl
  | cons x xs ih =>
      rcases Slice.push_of_append total with ⟨more, pushed, total⟩
      rw [List.flatMap_cons, List.append_assoc, List.cons_append, List.singleton_append,
        parseFlags_value named inside, sets, pushed]
      change parseFlags _ (update flags more) = _
      rw [ih (by rw [reads, total]), replaces]

theorem whole_millis {policy : SandboxPolicy} (valid : policy.validate = .ok ()) :
    policy.timeout.nanos ≤ maxTimeout ∧ policy.timeout.nanos % 1000000 = 0 := by
  simp only [SandboxPolicy.validate, bind_ok_iff, refuseIf_ok_iff, exists_const] at valid
  rcases valid with ⟨_, _, _, _, _, above, whole⟩
  exact ⟨by omega, by omega⟩

theorem fromMillis_asMillis {policy : SandboxPolicy} (valid : policy.validate = .ok ()) :
    fromMillis (asMillis policy.timeout) = policy.timeout := by
  rcases whole_millis valid with ⟨above, whole⟩
  have limit : maxTimeout = 86400000000000 := rfl
  have uncut : min (asMillis policy.timeout) (2 ^ 64 - 1) = asMillis policy.timeout :=
    Nat.min_eq_left (by unfold asMillis; omega)
  apply StdDuration.ext
  change min (asMillis policy.timeout) (2 ^ 64 - 1) * 1000000 = _
  rw [uncut, asMillis]
  omega

theorem set_worktree (flags : Flags) (path : Bytes) :
    flags.set "--worktree" path = some { flags with worktree := some path } := rfl

theorem set_timeout (flags : Flags) (d : StdDuration) :
    flags.set "--timeout-ms" (.ofText (toString (asMillis d)) (short_millis d)) =
      some { flags with timeoutMs := some (asMillis d) } := by
  have below : asMillis d < 2 ^ 128 := by
    have bounded := d.bounded
    unfold asMillis
    omega
  have read : unsigned? (2 ^ 128) (toString (asMillis d)) = some (asMillis d) :=
    unsigned?_repr below
  simp only [Flags.set, toStr_ofText, Option.bind_some, read, Option.map_some]

theorem parseFlags_denyNet {short : (utf8Bytes "--deny-net").length < 2 ^ 63} (rest : List Bytes)
    (flags : Flags) :
    parseFlags (.ofText "--deny-net" short :: rest) flags = parseFlags rest flags := by
  rw [parseFlags, toStr_ofText]
  rfl

theorem parseFlags_separator {short : (utf8Bytes "--").length < 2 ^ 63} (rest : List Bytes)
    (flags : Flags) : parseFlags (.ofText "--" short :: rest) flags = some (flags, rest) := by
  rw [parseFlags, toStr_ofText]
  rfl

theorem parseFlags_backendArgv (policy : SandboxPolicy) (launchNonce : LaunchNonce)
    (sealedTarget : Bytes) :
    parseFlags ((backendArgv policy launchNonce sealedTarget).drop 1) .empty =
      some (⟨some launchNonce.asStr, some policy.worktree, some (asMillis policy.timeout),
        policy.allowExec, policy.envAllowlist⟩, [sealedTarget]) := by
  have spelled : (backendArgv policy launchNonce sealedTarget).drop 1 =
      .ofText "--launch-nonce" (by decide) :: launchNonce.bytes (by norm_num) ::
      .ofText "--deny-net" (by decide) :: .ofText "--worktree" (by decide) :: policy.worktree ::
      .ofText "--timeout-ms" (by decide) ::
      .ofText (toString (asMillis policy.timeout)) (short_millis policy.timeout) ::
      (policy.allowExec.toList.flatMap (fun path => [.ofText "--allow-exec" (by decide), path]) ++
        (policy.envAllowlist.toList.flatMap (fun name => [.ofText "--allow-env" (by decide), name])
          ++ [.ofText "--" (by decide), sealedTarget])) := by
    cases policy.network
    simp [backendArgv, policyFlags]
  have nonce : Flags.empty.set "--launch-nonce" (launchNonce.bytes (by norm_num)) =
      some { Flags.empty with nonce := some launchNonce.asStr } := by
    simp only [Flags.set, HexText.bytes, toStr_ofText, Option.map_some]
  rw [spelled, parseFlags_value (by decide) (by decide), nonce, Option.bind_some,
    parseFlags_denyNet, parseFlags_value (by decide) (by decide), set_worktree, Option.bind_some,
    parseFlags_value (by decide) (by decide), set_timeout, Option.bind_some,
    parseFlags_repeated Flags.allowExec (fun flags xs => { flags with allowExec := xs })
      (by decide) (by decide) (fun _ _ => rfl) (fun _ _ => rfl) (fun _ _ _ => rfl)
      (fun _ => rfl) _ policy.allowExec rfl,
    parseFlags_repeated Flags.allowEnv (fun flags xs => { flags with allowEnv := xs })
      (by decide) (by decide) (fun _ _ => rfl) (fun _ _ => rfl) (fun _ _ _ => rfl)
      (fun _ => rfl) _ policy.envAllowlist rfl,
    parseFlags_separator]

/-- The backend that parses the boundary's vector has the same nonce, target and policy. -/
theorem policy_survives_argv (sha256 : Sha256) {policy : SandboxPolicy}
    (valid : policy.validate = .ok ()) (program : Bytes) (launchNonce : LaunchNonce)
    (sealedTarget : Bytes) :
    ∃ args, parseArgs (program :: backendArgv policy launchNonce sealedTarget) = some args ∧
      args.nonce = launchNonce.asStr ∧ args.target = sealedTarget ∧
      reconstructedPolicy args = policy ∧
      (reconstructedPolicy args).digest sha256 = policy.digest sha256 := by
  have first : (program :: backendArgv policy launchNonce sealedTarget)[1]? =
      some (.ofText "run" (by decide)) := rfl
  have rest : (program :: backendArgv policy launchNonce sealedTarget).drop 2 =
      (backendArgv policy launchNonce sealedTarget).drop 1 := rfl
  have restored (args : Args) (worktree : args.worktree = policy.worktree)
      (timeout : args.timeoutMs = asMillis policy.timeout)
      (execs : args.allowExec = policy.allowExec) (envs : args.allowEnv = policy.envAllowlist) :
      reconstructedPolicy args = policy := by
    have network : NetworkPolicy.denyAll = policy.network := by cases policy.network; rfl
    refine SandboxPolicy.ext worktree execs network envs ?_
    exact (congrArg fromMillis timeout).trans (fromMillis_asMillis valid)
  refine ⟨⟨launchNonce.asStr, policy.worktree, asMillis policy.timeout, policy.allowExec,
    policy.envAllowlist, sealedTarget⟩, ?_, rfl, rfl, restored _ rfl rfl rfl rfl, ?_⟩
  · simp only [parseArgs, first, rest, parseFlags_backendArgv, Option.bind_eq_bind,
      Option.bind_some, toStr_ofText]
    rfl
  · rw [restored _ rfl rfl rfl rfl]

def Sample.dashes : SandboxPolicy :=
  { Sample.policy ⟨[.ofText "/--allow-env" (by decide)], by norm_num⟩ with
    envAllowlist := ⟨[.ofText "--" (by decide), .ofText "--worktree" (by decide)], by norm_num⟩ }

theorem policy_survives_argv_dashes :
    ∃ args, parseArgs (Sample.tools ::
        backendArgv Sample.dashes (Sample.launch .nil).launchNonce Sample.sealedObject) =
          some args ∧
      args.nonce = "00000000000000000000000000000000" ∧ args.target = Sample.sealedObject ∧
      reconstructedPolicy args = Sample.dashes ∧
      (reconstructedPolicy args).digest Run.standardSha256 =
        Sample.dashes.digest Run.standardSha256 :=
  policy_survives_argv Run.standardSha256 rfl Sample.tools (Sample.launch .nil).launchNonce
    Sample.sealedObject

end O7Formal.Sandbox
