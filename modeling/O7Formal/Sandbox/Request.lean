import O7Formal.Sandbox.Policy

/-! The launch that a backend is asked for, and what its digest is computed over. -/

namespace O7Formal.Sandbox

open ByteCodec PrefixCode
open Sha2 (beBytes)

@[ext]
structure HexText (width : Nat) where
  asStr : String
  canonical : (utf8Bytes asStr).length = width ∧ (utf8Bytes asStr).all isHexByte = true
  deriving DecidableEq

abbrev Digest256 := HexText 64

abbrev LaunchNonce := HexText 32

inductive StdinKind where
  | null
  deriving DecidableEq

structure EnvEntry where
  name : Bytes
  value : Bytes
  deriving DecidableEq

@[ext]
structure LaunchRequest where
  schemaVersion : UInt32
  targetDigest : Digest256
  argv : Slice Bytes
  cwd : Bytes
  env : Slice EnvEntry
  stdin : StdinKind
  launchNonce : LaunchNonce
  deriving DecidableEq

namespace LaunchRequest

variable (request : LaunchRequest)

def entries : List (Bytes × Bytes) := request.env.toList.map fun e => (e.name, e.value)

def sortedEntries : List (Bytes × Bytes) :=
  ((request.entries.map toLex).insertionSort (· ≤ ·)).map ofLex

def stdinByte : StdinKind → UInt8
  | .null => 0x00

def specPreimage : List UInt8 :=
  utf8Bytes "o7-launch-spec\x00v1\x00" ++
  beBytes 4 request.schemaVersion.toNat ++
  pushBytes (utf8Bytes request.targetDigest.asStr) ++
  pushList (fun a => pushBytes a.toList) request.argv.toList ++
  pushBytes request.cwd.toList ++
  pushList (fun e => pushBytes e.1.toList ++ pushBytes e.2.toList) request.sortedEntries ++
  [stdinByte request.stdin] ++
  pushBytes (utf8Bytes request.launchNonce.asStr)

end LaunchRequest

theorem decodes_pushHex (width : Nat) (short : width < 2 ^ 64) :
    Decodes (fun _ : HexText width => True) (fun d => pushBytes (utf8Bytes d.asStr)) := by
  intro a b r t _ _ same
  have shortOf : ∀ d : HexText width, (utf8Bytes d.asStr).length < 2 ^ 64 :=
    fun d => d.canonical.1.trans_lt short
  rcases decodes_pushShort (shortOf a) (shortOf b) same with ⟨bytes, rest⟩
  exact ⟨HexText.ext (utf8Bytes_injective bytes), rest⟩

theorem decodes_pushEntry : Decodes (fun _ => True)
    (fun e : Bytes × Bytes => pushBytes e.1.toList ++ pushBytes e.2.toList) := by
  intro a b r t _ _ same
  rw [List.append_assoc, List.append_assoc] at same
  rcases decodes_pushBytes trivial trivial same with ⟨name, same⟩
  rcases decodes_pushBytes trivial trivial same with ⟨value, rest⟩
  exact ⟨Prod.ext name value, rest⟩

def DistinctNames (request : LaunchRequest) : Prop := (request.entries.map Prod.fst).Nodup

/-- The same launch, with the environment as a finite map. -/
structure SameLaunch (r s : LaunchRequest) : Prop where
  schemaVersion : r.schemaVersion = s.schemaVersion
  targetDigest : r.targetDigest = s.targetDigest
  argv : r.argv = s.argv
  cwd : r.cwd = s.cwd
  env : ∀ name, valueOf r.entries name = valueOf s.entries name
  stdin : r.stdin = s.stdin
  launchNonce : r.launchNonce = s.launchNonce

theorem sortedEntries_eq_iff {r s : LaunchRequest} (distinctR : DistinctNames r)
    (distinctS : DistinctNames s) : r.sortedEntries = s.sortedEntries ↔
      ∀ name, valueOf r.entries name = valueOf s.entries name := by
  rw [same_map_iff distinctR distinctS, LaunchRequest.sortedEntries, LaunchRequest.sortedEntries,
    List.map_inj_right fun _ _ => ofLex_inj.mp, sort_eq_iff_perm,
    List.map_perm_map_iff toLex.injective]
  exact List.perm_ext_iff_of_nodup (List.Nodup.of_map _ distinctR) (List.Nodup.of_map _ distinctS)

theorem length_sortedEntries (request : LaunchRequest) : request.sortedEntries.length < 2 ^ 64 := by
  rw [LaunchRequest.sortedEntries, List.length_map, List.length_insertionSort, List.length_map,
    LaunchRequest.entries, List.length_map]
  exact request.env.short

theorem specPreimage_eq_iff {r s : LaunchRequest} (distinctR : DistinctNames r)
    (distinctS : DistinctNames s) : r.specPreimage = s.specPreimage ↔ SameLaunch r s := by
  constructor
  · intro same
    simp only [LaunchRequest.specPreimage, List.append_assoc, List.append_cancel_left_eq] at same
    have narrow : (256 : Nat) ^ 4 = 2 ^ 32 := by norm_num
    rcases decodes_beBytes 4 (narrow ▸ r.schemaVersion.toNat_lt) (narrow ▸ s.schemaVersion.toNat_lt)
      same with ⟨version, same⟩
    rcases decodes_pushHex 64 (by norm_num) trivial trivial same with ⟨target, same⟩
    rcases decodes_pushList decodes_pushBytes r.argv.short s.argv.short same with ⟨argv, same⟩
    rcases decodes_pushBytes trivial trivial same with ⟨cwd, same⟩
    rcases decodes_pushList decodes_pushEntry (length_sortedEntries r) (length_sortedEntries s) same
      with ⟨entries, same⟩
    have stdin : r.stdin = s.stdin := by cases r.stdin; cases s.stdin; rfl
    rw [stdin, List.append_cancel_left_eq] at same
    exact ⟨UInt32.toNat_inj.mp version, target, Slice.ext argv, cwd,
      (sortedEntries_eq_iff distinctR distinctS).mp entries, stdin,
      (decodes_pushHex 32 (by norm_num)).injOn trivial trivial same⟩
  · intro same
    have entries := (sortedEntries_eq_iff distinctR distinctS).mpr same.env
    rw [LaunchRequest.specPreimage, LaunchRequest.specPreimage, same.schemaVersion,
      same.targetDigest, same.argv, same.cwd, entries, same.stdin, same.launchNonce]

/-- The canonical bytes of a policy and the bytes of a launch stand for what they mean. -/
theorem digests_identify :
    (∀ p q : SandboxPolicy, p.validate = .ok () → q.validate = .ok () →
      (p.canonicalBytes = q.canonicalBytes ↔ SameMeaning p q)) ∧
    ∀ r s : LaunchRequest, DistinctNames r → DistinctNames s →
      (r.specPreimage = s.specPreimage ↔ SameLaunch r s) :=
  ⟨fun _ _ => canonicalBytes_eq_iff, fun _ _ => specPreimage_eq_iff⟩

namespace Sample

def tools : Bytes := .ofText "/usr/bin" (by decide)

def sealedObject : Bytes := .ofText "/proc/1/fd/3" (by decide)

def policy (execs : Slice Bytes) : SandboxPolicy :=
  ⟨.ofText "/worktree" (by decide), execs, .denyAll, .nil, ⟨1000000, by norm_num⟩⟩

def launch (env : Slice EnvEntry) : LaunchRequest :=
  { schemaVersion := 1
    targetDigest := ⟨"0000000000000000000000000000000000000000000000000000000000000000", by decide⟩
    argv := .nil
    cwd := .ofText "/worktree" (by decide)
    env := env
    stdin := .null
    launchNonce := ⟨"00000000000000000000000000000000", by decide⟩ }

def home : EnvEntry := ⟨.ofText "HOME" (by decide), .nil⟩

def path : EnvEntry := ⟨.ofText "PATH" (by decide), .nil⟩

theorem pair_bounded {α : Type} (a b : α) : [a, b].length < 2 ^ 63 := by norm_num

end Sample

open Sample

theorem digests_identify_reordered :
    (policy ⟨[tools, sealedObject], pair_bounded _ _⟩).canonicalBytes =
        (policy ⟨[sealedObject, tools], pair_bounded _ _⟩).canonicalBytes ∧
      (launch ⟨[home, path], pair_bounded _ _⟩).specPreimage =
        (launch ⟨[path, home], pair_bounded _ _⟩).specPreimage := by
  constructor
  · refine (digests_identify.1 (policy _) (policy _) rfl rfl).mpr ⟨rfl, rfl, rfl, ?_, fun _ => Iff.rfl⟩
    intro path
    simp [policy, or_comm]
  · have one : DistinctNames (launch ⟨[home, path], pair_bounded _ _⟩) := by
      unfold DistinctNames
      decide
    have other : DistinctNames (launch ⟨[path, home], pair_bounded _ _⟩) := by
      unfold DistinctNames
      decide
    refine (digests_identify.2 (launch _) (launch _) one other).mpr ⟨rfl, rfl, rfl, rfl, ?_, rfl, rfl⟩
    refine (same_map_iff one other).mpr fun entry => ?_
    simp [LaunchRequest.entries, launch, or_comm]

end O7Formal.Sandbox
