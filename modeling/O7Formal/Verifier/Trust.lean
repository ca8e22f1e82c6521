import O7Formal.Lib.Fallible
import O7Formal.Lib.Slice
import O7Formal.Lib.SortedSearch
import O7Formal.Run.Event
import O7Formal.Worker.Boundary

/-! Verifier commands and trust anchors: their shape, and what their digests bind. -/

namespace O7Formal.Verifier

open Fallible
open Worker (Duration BoundaryRequirement)

@[ext]
structure CanonicalRepoId where
  gitCommonDir : Bytes
  dev : UInt64
  ino : UInt64
  deriving DecidableEq

inductive RequiredBoundary where
  | allowUnconfined | requireFullyEnforced
  deriving DecidableEq

def RequiredBoundary.requirement : RequiredBoundary → BoundaryRequirement
  | .allowUnconfined => .allowUnconfined
  | .requireFullyEnforced => .requireFullyEnforced

def maxTimeout : Duration := Duration.fromSecs 3600

def maxOutputBytes : Nat := 64 * 1024 * 1024

inductive CwdPolicy where
  | worktreeRoot
  | absolute (path : Bytes)
  deriving DecidableEq

@[ext]
structure ExitPolicy where
  successCodes : Slice Int32
  ascending : SortedSearch.Increasing Int32.toInt successCodes.toList
  deriving DecidableEq

def ExitPolicy.isSuccess (policy : ExitPolicy) (code : Int32) : Bool :=
  policy.successCodes.toList.contains code

/-- A map of byte strings, in the order of its keys. -/
@[ext]
structure Environment where
  entries : Slice (Bytes × Bytes)
  ascending : SortedSearch.Increasing Prod.fst entries.toList
  deriving DecidableEq

structure OutputLimits where
  maxTotalBytes : UInt64
  deriving DecidableEq

inductive CommandError where
  | relativeExecutable (path : Bytes)
  | relativeCwd (path : Bytes)
  | timeout (d : StdDuration)
  | outputBudget (n : UInt64)
  | emptyExitPolicy
  deriving DecidableEq

@[ext]
structure TrustedCommand where
  executable : Bytes
  arguments : Slice Bytes
  cwdPolicy : CwdPolicy
  environment : Environment
  timeout : StdDuration
  outputLimits : OutputLimits
  exitPolicy : ExitPolicy
  boundaryRequirement : RequiredBoundary
  deriving DecidableEq

def checkCwd : CwdPolicy → Except CommandError Unit
  | .worktreeRoot => .ok ()
  | .absolute path => refuseIf (path.isAbsolute = false) (.relativeCwd path)

def TrustedCommand.validate (command : TrustedCommand) : Except CommandError Unit := do
  refuseIf (command.executable.isAbsolute = false) (.relativeExecutable command.executable)
  checkCwd command.cwdPolicy
  refuseIf (command.timeout.nanos = 0 ∨ command.timeout.nanos > maxTimeout)
    (.timeout command.timeout)
  refuseIf (command.outputLimits.maxTotalBytes = 0 ∨
      command.outputLimits.maxTotalBytes.toNat > maxOutputBytes)
    (.outputBudget command.outputLimits.maxTotalBytes)
  refuseIf (command.exitPolicy.successCodes.toList = []) .emptyExitPolicy

theorem TrustedCommand.validate_budget {command : TrustedCommand}
    (valid : command.validate = .ok ()) :
    command.outputLimits.maxTotalBytes.toNat ≤ maxOutputBytes := by
  simp only [validate, bind_ok_iff, refuseIf_ok_iff, exists_const, not_or, not_lt] at valid
  rcases valid with ⟨_, _, _, _, ⟨_, budget⟩, _⟩
  exact budget

end O7Formal.Verifier

/-! ### Trust anchors -/

namespace O7Formal.Verifier

open ByteCodec PrefixCode
open Run (Sha256)

@[ext]
structure ExecutableIdentity where
  text : String
  bounded : (utf8Bytes text).length < 2 ^ 63
  deriving DecidableEq

def ExecutableIdentity.ofBytes (sha256 : Sha256) (bytes : List UInt8) : ExecutableIdentity :=
  let raw := sha256 (utf8Bytes "o7-verifier-exe\x00v1\x00" ++ bytes)
  ⟨hexLower raw.1, by rw [(utf8Bytes_hexLower raw.1).1, raw.2]; norm_num⟩

structure CommandDigest where
  text : String
  deriving DecidableEq

def CommandDigest.ofRaw (raw : {raw : List UInt8 // raw.length = 32}) : CommandDigest :=
  ⟨hexLower raw.1⟩

def frameText (s : String) : List UInt8 := frame (utf8Bytes s)

def frameBytes (bytes : Bytes) : List UInt8 := frame bytes.toList

def frameU64 (n : Nat) : List UInt8 := frame (leBytes 8 n)

def frameCwd : CwdPolicy → List UInt8
  | .worktreeRoot => frameText "worktree-root"
  | .absolute path => frameText "absolute" ++ frameBytes path

def frameCode (code : Int32) : List UInt8 := frame (leBytes 4 code.toUInt32.toNat)

def frameBoundary : RequiredBoundary → List UInt8
  | .allowUnconfined => frameText "boundary:allow-unconfined"
  | .requireFullyEnforced => frameText "boundary:require-fully-enforced"

def foldStructural (repo : CanonicalRepoId) (command : TrustedCommand) : List UInt8 :=
  frameBytes repo.gitCommonDir ++
  frameU64 repo.dev.toNat ++
  frameU64 repo.ino.toNat ++
  frameBytes command.executable ++
  (frameU64 command.arguments.toList.length ++ command.arguments.toList.flatMap frameBytes) ++
  frameCwd command.cwdPolicy ++
  (frameU64 command.environment.entries.toList.length ++
    command.environment.entries.toList.flatMap fun entry =>
      frameBytes entry.1 ++ frameBytes entry.2) ++
  (frameU64 command.exitPolicy.successCodes.toList.length ++
    command.exitPolicy.successCodes.toList.flatMap frameCode) ++
  frame (leBytes 16 command.timeout.nanos) ++
  frameU64 command.outputLimits.maxTotalBytes.toNat ++
  frameBoundary command.boundaryRequirement

def structuralPreimage (repo : CanonicalRepoId) (command : TrustedCommand) : List UInt8 :=
  utf8Bytes "o7-verifier-command-structural\x00v2\x00" ++ foldStructural repo command

def commandPreimage (repo : CanonicalRepoId) (command : TrustedCommand)
    (identity : ExecutableIdentity) : List UInt8 :=
  utf8Bytes "o7-verifier-command\x00v2\x00" ++ foldStructural repo command ++
    frameText identity.text

def structuralCommandDigest (sha256 : Sha256) (repo : CanonicalRepoId) (command : TrustedCommand) :
    CommandDigest :=
  .ofRaw (sha256 (structuralPreimage repo command))

def commandDigest (sha256 : Sha256) (repo : CanonicalRepoId) (command : TrustedCommand)
    (identity : ExecutableIdentity) : CommandDigest :=
  .ofRaw (sha256 (commandPreimage repo command identity))

structure TrustAnchor where
  repo : CanonicalRepoId
  executableIdentity : ExecutableIdentity
  digest : CommandDigest

def TrustAnchor.fromParts (sha256 : Sha256) (repo : CanonicalRepoId) (command : TrustedCommand)
    (identity : ExecutableIdentity) : TrustAnchor :=
  ⟨repo, identity, commandDigest sha256 repo command identity⟩

def TrustAnchor.forExecutableBytes (sha256 : Sha256) (repo : CanonicalRepoId)
    (command : TrustedCommand) (bytes : List UInt8) : TrustAnchor :=
  .fromParts sha256 repo command (.ofBytes sha256 bytes)

structure TrustStore where
  trusted : List CommandDigest
  deriving DecidableEq

namespace TrustStore

def new : TrustStore := ⟨[]⟩

def trust (store : TrustStore) (anchor : TrustAnchor) : TrustStore :=
  ⟨store.trusted.insert anchor.digest⟩

def isTrusted (store : TrustStore) (anchor : TrustAnchor) : Bool :=
  store.trusted.contains anchor.digest

def revoke (store : TrustStore) (digest : CommandDigest) : TrustStore :=
  ⟨store.trusted.filter (· ≠ digest)⟩

theorem mem_trust (store : TrustStore) (anchor : TrustAnchor) :
    anchor.digest ∈ (store.trust anchor).trusted := List.mem_insert_self

theorem isTrusted_trust (store : TrustStore) (anchor : TrustAnchor) :
    (store.trust anchor).isTrusted anchor = true :=
  List.contains_iff_mem.mpr (store.mem_trust anchor)

theorem isTrusted_revoke (store : TrustStore) (anchor : TrustAnchor) :
    (store.revoke anchor.digest).isTrusted anchor = false := by
  rw [Bool.eq_false_iff, isTrusted, ne_eq, List.contains_iff_mem, revoke, List.mem_filter]
  simp

end TrustStore

theorem decodes_frameText (s t : String) (shortS : Framable (utf8Bytes s))
    (shortT : Framable (utf8Bytes t)) {r u : List UInt8}
    (same : frameText s ++ r = frameText t ++ u) : s = t ∧ r = u :=
  decodes_frame_utf8 shortS shortT same

theorem decodes_frameCwd : Decodes (fun _ => True) frameCwd := by
  have root : Framable (utf8Bytes "worktree-root") := by decide
  have absolute : Framable (utf8Bytes "absolute") := by decide
  intro a b r t _ _ same
  cases a with
  | worktreeRoot =>
      cases b with
      | worktreeRoot => exact ⟨rfl, (decodes_frameText _ _ root root same).2⟩
      | absolute path =>
          rw [frameCwd, frameCwd, List.append_assoc] at same
          exact absurd (decodes_frameText _ _ root absolute same).1 (by decide)
  | absolute path =>
      cases b with
      | worktreeRoot =>
          rw [frameCwd, frameCwd, List.append_assoc] at same
          exact absurd (decodes_frameText _ _ absolute root same).1 (by decide)
      | absolute path' =>
          rw [frameCwd, frameCwd, List.append_assoc, List.append_assoc] at same
          have rest := (decodes_frameText _ _ absolute absolute same).2
          rcases decodes_frame_bytes trivial trivial rest with ⟨paths, tail⟩
          exact ⟨congrArg CwdPolicy.absolute paths, tail⟩

theorem decodes_frameCode : Decodes (fun _ => True) frameCode := by
  intro a b r t _ _ same
  have wide : (256 : Nat) ^ 4 = 2 ^ 32 := by norm_num
  rcases decodes_frame_leBytes 4 (by norm_num) (wide ▸ a.toUInt32.toNat_lt)
    (wide ▸ b.toUInt32.toNat_lt) same with ⟨word, rest⟩
  exact ⟨congrArg Int32.ofUInt32 (UInt32.toNat_inj.mp word), rest⟩

theorem decodes_frameBoundary : Decodes (fun _ => True) frameBoundary := by
  have weak : Framable (utf8Bytes "boundary:allow-unconfined") := by decide
  have strong : Framable (utf8Bytes "boundary:require-fully-enforced") := by decide
  intro a b r t _ _ same
  cases a with
  | allowUnconfined =>
      cases b with
      | allowUnconfined => exact ⟨rfl, (decodes_frameText _ _ weak weak same).2⟩
      | requireFullyEnforced =>
          exact absurd (decodes_frameText _ _ weak strong same).1 (by decide)
  | requireFullyEnforced =>
      cases b with
      | allowUnconfined => exact absurd (decodes_frameText _ _ strong weak same).1 (by decide)
      | requireFullyEnforced => exact ⟨rfl, (decodes_frameText _ _ strong strong same).2⟩

theorem decodes_entry :
    Decodes (fun _ => True) (fun entry : Bytes × Bytes => frameBytes entry.1 ++ frameBytes entry.2) := by
  intro a b r t _ _ same
  rw [List.append_assoc, List.append_assoc] at same
  rcases decodes_frame_bytes trivial trivial same with ⟨name, same⟩
  rcases decodes_frame_bytes trivial trivial same with ⟨value, rest⟩
  exact ⟨Prod.ext name value, rest⟩

theorem decodes_timeout :
    Decodes (fun _ => True) (fun t : StdDuration => frame (leBytes 16 t.nanos)) := by
  intro a b r t _ _ same
  have wide : 2 ^ 64 * 1000000000 ≤ 256 ^ 16 := by norm_num
  rcases decodes_frame_leBytes 16 (by norm_num) (a.bounded.trans_le wide) (b.bounded.trans_le wide)
    same with ⟨nanos, rest⟩
  exact ⟨StdDuration.ext nanos, rest⟩

theorem decodes_foldStructural : Decodes (fun _ => True)
    (fun spec : CanonicalRepoId × TrustedCommand => foldStructural spec.1 spec.2) := by
  intro a b r t _ _ same
  rcases a with ⟨repo, command⟩
  rcases b with ⟨repo', command'⟩
  simp only [foldStructural, List.append_assoc] at same
  rcases decodes_frame_bytes trivial trivial same with ⟨gitCommonDir, same⟩
  rcases decodes_frame_u64 trivial trivial same with ⟨dev, same⟩
  rcases decodes_frame_u64 trivial trivial same with ⟨ino, same⟩
  rcases decodes_frame_bytes trivial trivial same with ⟨executable, same⟩
  rw [← List.append_assoc (frameU64 _), ← List.append_assoc (frameU64 _)] at same
  rcases decodes_frame_counted decodes_frame_bytes trivial trivial same with ⟨arguments, same⟩
  rcases decodes_frameCwd trivial trivial same with ⟨cwd, same⟩
  rw [← List.append_assoc (frameU64 _), ← List.append_assoc (frameU64 _)] at same
  rcases decodes_frame_counted decodes_entry trivial trivial same with ⟨environment, same⟩
  rw [← List.append_assoc (frameU64 _), ← List.append_assoc (frameU64 _)] at same
  rcases decodes_frame_counted decodes_frameCode trivial trivial same with ⟨codes, same⟩
  rcases decodes_timeout trivial trivial same with ⟨timeout, same⟩
  rcases decodes_frame_u64 trivial trivial same with ⟨budget, same⟩
  rcases decodes_frameBoundary trivial trivial same with ⟨boundary, rest⟩
  refine ⟨Prod.ext (CanonicalRepoId.ext gitCommonDir dev ino) ?_, rest⟩
  exact TrustedCommand.ext executable arguments cwd (Environment.ext environment) timeout
    (congrArg OutputLimits.mk budget) (ExitPolicy.ext codes) boundary

theorem structural_apart (repo repo' : CanonicalRepoId) (command command' : TrustedCommand)
    (identity : ExecutableIdentity) :
    structuralPreimage repo command ≠ commandPreimage repo' command' identity := by
  intro same
  have marks := congrArg (fun bytes => bytes[19]?) same
  simp only [structuralPreimage, commandPreimage, List.append_assoc] at marks
  rw [List.getElem?_append_left (by decide), List.getElem?_append_left (by decide)] at marks
  exact absurd marks (by decide)

/-- What the digests are computed over separates every two repositories, commands and identities,
and the structural one is never the trust key's. -/
theorem preimages_separate :
    Function.Injective (fun spec : CanonicalRepoId × TrustedCommand × ExecutableIdentity =>
        commandPreimage spec.1 spec.2.1 spec.2.2) ∧
      Function.Injective (fun spec : CanonicalRepoId × TrustedCommand =>
        structuralPreimage spec.1 spec.2) ∧
      ∀ repo repo' command command' identity,
        structuralPreimage repo command ≠ commandPreimage repo' command' identity := by
  refine ⟨?_, ?_, structural_apart⟩
  · intro a b same
    rcases a with ⟨repo, command, identity⟩
    rcases b with ⟨repo', command', identity'⟩
    simp only [commandPreimage, List.append_assoc, List.append_cancel_left_eq] at same
    rcases decodes_foldStructural (a := (repo, command)) (b := (repo', command')) trivial trivial
      same with ⟨spec, rest⟩
    have short : ∀ identity : ExecutableIdentity, Framable (utf8Bytes identity.text) :=
      fun identity => identity.bounded.trans (by norm_num)
    have text := decodes_frame_utf8.injOn (short identity) (short identity') rest
    cases spec
    cases ExecutableIdentity.ext text
    rfl
  · intro a b same
    exact decodes_foldStructural.injOn trivial trivial (List.append_cancel_left same)

end O7Formal.Verifier
