import O7Formal.Lib.Fallible
import O7Formal.Lib.SetCode
import O7Formal.Worker.Boundary

/-! The confinement that a backend is asked for, and its canonical bytes. -/

namespace O7Formal.Sandbox

open ByteCodec Fallible PrefixCode
open Sha2 (beBytes)

inductive NetworkPolicy where
  | denyAll
  deriving DecidableEq

def minTimeout : Nat := Worker.Duration.fromMillis 1

def maxTimeout : Nat := Worker.Duration.fromSecs (24 * 60 * 60)

@[ext]
structure SandboxPolicy where
  worktree : Bytes
  allowExec : Slice Bytes
  network : NetworkPolicy
  envAllowlist : Slice Bytes
  timeout : StdDuration
  deriving DecidableEq

inductive SandboxPolicyError where
  | relativeWorktree (path : Bytes)
  | relativeExecAllowance (path : Bytes)
  | noExecAllowance
  | duplicateExecAllowance (path : Bytes)
  | duplicateEnvName (name : Bytes)
  | timeoutTooSmall (timeout : StdDuration)
  | timeoutTooLarge (timeout : StdDuration)
  | timeoutNotWholeMilliseconds (timeout : StdDuration)
  deriving DecidableEq

def checkSet {ε : Type} (check : Bytes → Except ε Unit) (duplicate : Bytes → ε) :
    List Bytes → List Bytes → Except ε Unit
  | _, [] => .ok ()
  | seen, x :: rest => do
      check x
      refuseIf (x ∈ seen) (duplicate x)
      checkSet check duplicate (x :: seen) rest

def checkExec (path : Bytes) : Except SandboxPolicyError Unit :=
  refuseIf (path.isAbsolute = false) (.relativeExecAllowance path)

namespace SandboxPolicy

def validate (policy : SandboxPolicy) : Except SandboxPolicyError Unit := do
  refuseIf (policy.worktree.isAbsolute = false) (.relativeWorktree policy.worktree)
  refuseIf (policy.allowExec.toList = []) .noExecAllowance
  checkSet checkExec .duplicateExecAllowance [] policy.allowExec.toList
  checkSet (fun _ => .ok ()) .duplicateEnvName [] policy.envAllowlist.toList
  refuseIf (policy.timeout.nanos < minTimeout) (.timeoutTooSmall policy.timeout)
  refuseIf (policy.timeout.nanos > maxTimeout) (.timeoutTooLarge policy.timeout)
  refuseIf (policy.timeout.nanos % 1000000000 % 1000000 ≠ 0)
    (.timeoutNotWholeMilliseconds policy.timeout)

def sortedSet (xs : List Bytes) : List Bytes := xs.insertionSort (· ≤ ·)

def networkByte : NetworkPolicy → UInt8
  | .denyAll => 0x01

def canonicalBytes (policy : SandboxPolicy) : List UInt8 :=
  utf8Bytes "o7-sandbox-policy\x00v1\x00" ++
  (pushBytes (utf8Bytes "worktree") ++ pushBytes policy.worktree.toList) ++
  [networkByte policy.network] ++
  pushList (fun e => pushBytes e.toList) (sortedSet policy.allowExec.toList) ++
  pushList (fun e => pushBytes e.toList) (sortedSet policy.envAllowlist.toList) ++
  beBytes 16 policy.timeout.nanos

end SandboxPolicy

theorem checkSet_ok {ε : Type} {check : Bytes → Except ε Unit} {duplicate : Bytes → ε}
    {seen xs : List Bytes} (ok : checkSet check duplicate seen xs = .ok ()) :
    xs.Nodup ∧ ∀ x ∈ xs, x ∉ seen := by
  induction xs generalizing seen with
  | nil => exact ⟨List.nodup_nil, nofun⟩
  | cons x rest ih =>
      simp only [checkSet, bind_ok_iff, refuseIf_ok_iff, exists_const] at ok
      rcases ok with ⟨_, _, fresh, later⟩
      rcases ih later with ⟨distinct, apart⟩
      refine ⟨List.nodup_cons.mpr ⟨fun again => apart x again List.mem_cons_self, distinct⟩, ?_⟩
      rw [List.forall_mem_cons]
      exact ⟨fresh, fun y member seen => apart y member (List.mem_cons_of_mem _ seen)⟩

theorem checkSet_ok_of {ε : Type} {check : Bytes → Except ε Unit} {duplicate : Bytes → ε}
    {seen xs : List Bytes} (passes : ∀ x ∈ xs, check x = .ok ()) (distinct : xs.Nodup)
    (apart : ∀ x ∈ xs, x ∉ seen) : checkSet check duplicate seen xs = .ok () := by
  induction xs generalizing seen with
  | nil => rfl
  | cons x rest ih =>
      rw [List.forall_mem_cons] at passes apart
      rw [List.nodup_cons] at distinct
      rw [checkSet, passes.1, ok_bind, refuseIf, if_neg apart.1]
      refine ih passes.2 distinct.2 fun y member again => ?_
      rcases List.mem_cons.mp again with same | before
      · exact distinct.1 (same ▸ member)
      · exact apart.2 y member before

theorem SandboxPolicy.distinct_of_valid {policy : SandboxPolicy} (valid : policy.validate = .ok ()) :
    policy.allowExec.toList.Nodup ∧ policy.envAllowlist.toList.Nodup := by
  simp only [validate, bind_ok_iff, refuseIf_ok_iff, exists_const] at valid
  rcases valid with ⟨_, _, _, execs, _, envs, _⟩
  exact ⟨(checkSet_ok execs).1, (checkSet_ok envs).1⟩

structure SameMeaning (p q : SandboxPolicy) : Prop where
  worktree : p.worktree = q.worktree
  network : p.network = q.network
  timeout : p.timeout = q.timeout
  execs : ∀ path, path ∈ p.allowExec.toList ↔ path ∈ q.allowExec.toList
  envs : ∀ name, name ∈ p.envAllowlist.toList ↔ name ∈ q.envAllowlist.toList

theorem length_sortedSet (xs : Slice Bytes) :
    (SandboxPolicy.sortedSet xs.toList).length < 2 ^ 64 := by
  rw [SandboxPolicy.sortedSet, List.length_insertionSort]
  exact xs.short

theorem decodes_pushSet :
    Decodes (fun xs : List Bytes => xs.length < 2 ^ 64) (pushList fun e : Bytes => pushBytes e.toList) :=
  decodes_pushList decodes_pushBytes

theorem canonicalBytes_eq_iff {p q : SandboxPolicy} (validP : p.validate = .ok ())
    (validQ : q.validate = .ok ()) : p.canonicalBytes = q.canonicalBytes ↔ SameMeaning p q := by
  rcases SandboxPolicy.distinct_of_valid validP with ⟨execsP, envsP⟩
  rcases SandboxPolicy.distinct_of_valid validQ with ⟨execsQ, envsQ⟩
  constructor
  · intro same
    simp only [SandboxPolicy.canonicalBytes, List.append_assoc, List.append_cancel_left_eq] at same
    rcases decodes_pushBytes trivial trivial same with ⟨worktree, same⟩
    have network : p.network = q.network := by cases p.network; cases q.network; rfl
    rw [network, List.append_cancel_left_eq] at same
    rcases decodes_pushSet (length_sortedSet p.allowExec) (length_sortedSet q.allowExec) same with
      ⟨execs, same⟩
    rcases decodes_pushSet (length_sortedSet p.envAllowlist) (length_sortedSet q.envAllowlist) same
      with ⟨envs, same⟩
    have wide : 2 ^ 64 * 1000000000 ≤ 256 ^ 16 := by norm_num
    have nanos := (decodes_beBytes 16).injOn (p.timeout.bounded.trans_le wide)
      (q.timeout.bounded.trans_le wide) same
    exact ⟨worktree, network, StdDuration.ext nanos, (sort_eq_iff_same execsP execsQ).mp execs,
      (sort_eq_iff_same envsP envsQ).mp envs⟩
  · intro same
    have execs := (sort_eq_iff_same execsP execsQ).mpr same.execs
    have envs := (sort_eq_iff_same envsP envsQ).mpr same.envs
    rw [SandboxPolicy.canonicalBytes, SandboxPolicy.canonicalBytes, same.worktree, same.network,
      same.timeout, SandboxPolicy.sortedSet, SandboxPolicy.sortedSet, execs, envs,
      SandboxPolicy.sortedSet, SandboxPolicy.sortedSet]

end O7Formal.Sandbox
