import O7Formal.Lib.Slice
import O7Formal.Lib.Utf8
import O7Formal.Run.Event

/-! The identities that a worktree is bound to, and the digest that names its directory. -/

namespace O7Formal.Worktree

open ByteCodec (hexLower leBytes utf8Bytes)
open Utf8 (fromUtf8Lossy)

def maxRunIdLen : Nat := 128

/-- A safe path component: no separator, no leading dot or dash, neither empty nor too long. -/
def isSafeRunId (id : String) : Bool :=
  decide (1 ≤ (utf8Bytes id).length) && decide ((utf8Bytes id).length ≤ maxRunIdLen) &&
    (id.toList.head?.any fun c => c.isAlphanum || c = '_') &&
    id.toList.all fun c => c.isAlphanum || c = '.' || c = '_' || c = '-'

structure RunId where
  asStr : String
  safe : isSafeRunId asStr = true
  deriving DecidableEq

def isObjectId (oid : String) : Bool :=
  ((utf8Bytes oid).length == 40 || (utf8Bytes oid).length == 64) &&
    (utf8Bytes oid).all ByteCodec.isHexByte

structure CommittedRevision where
  asStr : String
  shape : isObjectId asStr = true
  deriving DecidableEq

structure CanonicalRepoId where
  gitCommonDir : Bytes
  dev : UInt64
  ino : UInt64
  deriving DecidableEq

structure WorktreeIdentity where
  runId : RunId
  repo : CanonicalRepoId
  revision : CommittedRevision
  deriving DecidableEq

def framed (bytes : List UInt8) : List UInt8 := leBytes 8 bytes.length ++ bytes

abbrev IdentityDigest := String

/-- `OsStr::to_string_lossy` -/
def toStringLossy (path : Bytes) : String := fromUtf8Lossy path.toList

def WorktreeIdentity.preimage (identity : WorktreeIdentity) : List UInt8 :=
  utf8Bytes "o7-worktree-identity\x00v1\x00" ++
    framed (utf8Bytes identity.runId.asStr) ++
    framed (utf8Bytes (toStringLossy identity.repo.gitCommonDir)) ++
    framed (leBytes 8 identity.repo.dev.toNat) ++
    framed (leBytes 8 identity.repo.ino.toNat) ++
    framed (utf8Bytes identity.revision.asStr)

def WorktreeIdentity.digest (sha256 : Run.Sha256) (identity : WorktreeIdentity) : IdentityDigest :=
  hexLower (sha256 identity.preimage).val

structure FsIdentity where
  dev : UInt64
  ino : UInt64
  deriving DecidableEq, Repr

structure MaterializeSummary where
  files : Nat
  symlinks : Nat
  totalBytes : UInt64
  skippedGitlinks : Nat
  deriving DecidableEq, Repr

/-- One durable `run -> worktree` record. -/
structure WorktreeRecord where
  runId : RunId
  repo : CanonicalRepoId
  revision : CommittedRevision
  identityDigest : IdentityDigest
  worktreePath : String
  fsIdentity : FsIdentity
  summary : MaterializeSummary
  createdUnix : UInt64
  deriving DecidableEq

def stateSchema : UInt32 := 1

structure StateFile where
  schema : UInt32
  records : List WorktreeRecord
  deriving DecidableEq

def worktreePath (root : String) (digest : IdentityDigest) : String := root ++ "/" ++ digest

end O7Formal.Worktree

/-! ### Which identities the digest of a worktree tells apart -/

namespace O7Formal.Worktree

open ByteCodec PrefixCode
open Utf8 (fromUtf8Lossy_utf8)

theorem RunId.short (id : RunId) : (utf8Bytes id.asStr).length < 2 ^ 64 := by
  have safe := id.safe
  simp only [isSafeRunId, Bool.and_eq_true, decide_eq_true_eq] at safe
  exact safe.1.1.2.trans_lt (by norm_num [maxRunIdLen])

theorem CommittedRevision.length (revision : CommittedRevision) :
    (utf8Bytes revision.asStr).length = 40 ∨ (utf8Bytes revision.asStr).length = 64 := by
  have shape := revision.shape
  simpa [isObjectId] using (Bool.and_eq_true_iff.mp shape).1

theorem RunId.asStr_injective {a b : RunId} (same : a.asStr = b.asStr) : a = b := by
  cases a
  cases b
  cases same
  rfl

theorem CommittedRevision.asStr_injective {a b : CommittedRevision} (same : a.asStr = b.asStr) :
    a = b := by
  cases a
  cases b
  cases same
  rfl

theorem framed_inj_of_close {a b r t : List UInt8} (same : framed a ++ r = framed b ++ t)
    (close : r.length < t.length + 2 ^ 64 ∧ t.length < r.length + 2 ^ 64) : a = b ∧ r = t := by
  have total := congrArg List.length same
  simp only [framed, List.append_assoc, List.length_append, leBytes_length] at total same
  rcases List.append_inj same (by rw [leBytes_length, leBytes_length]) with ⟨words, rest⟩
  have wraps := leBytes_inj_mod 8 _ _ words
  have wide : (256 : Nat) ^ 8 = 2 ^ 64 := by norm_num
  rw [wide] at wraps
  exact List.append_inj rest (by omega)

theorem framed_word_inj {m n : UInt64} {r t : List UInt8}
    (same : framed (leBytes 8 m.toNat) ++ r = framed (leBytes 8 n.toNat) ++ t) : m = n ∧ r = t := by
  have wide : (256 : Nat) ^ 8 = 2 ^ 64 := by norm_num
  rcases decodes_frame_leBytes 8 (by norm_num) (wide ▸ m.toNat_lt) (wide ▸ n.toNat_lt) same with
    ⟨word, rest⟩
  exact ⟨UInt64.toNat_inj.mp word, rest⟩

theorem preimage_eq_iff (a b : WorktreeIdentity) : a.preimage = b.preimage ↔
    a.runId = b.runId ∧
      toStringLossy a.repo.gitCommonDir = toStringLossy b.repo.gitCommonDir ∧
      a.repo.dev = b.repo.dev ∧ a.repo.ino = b.repo.ino ∧ a.revision = b.revision := by
  constructor
  · intro same
    simp only [WorktreeIdentity.preimage, List.append_assoc, List.append_cancel_left_eq] at same
    rcases decodes_frame a.runId.short b.runId.short same with ⟨run, same⟩
    have close : ∀ a b : WorktreeIdentity,
        (framed (leBytes 8 a.repo.dev.toNat) ++ (framed (leBytes 8 a.repo.ino.toNat) ++
          framed (utf8Bytes a.revision.asStr))).length <
        (framed (leBytes 8 b.repo.dev.toNat) ++ (framed (leBytes 8 b.repo.ino.toNat) ++
          framed (utf8Bytes b.revision.asStr))).length + 2 ^ 64 := by
      intro a b
      have lengthA := a.revision.length
      have lengthB := b.revision.length
      simp only [framed, List.length_append, leBytes_length]
      omega
    rcases framed_inj_of_close same ⟨close a b, close b a⟩ with ⟨path, same⟩
    rcases framed_word_inj same with ⟨dev, same⟩
    rcases framed_word_inj same with ⟨ino, same⟩
    have shortOf : ∀ r : CommittedRevision, (utf8Bytes r.asStr).length < 2 ^ 64 := by
      intro r
      have length := r.length
      omega
    have revision := decodes_frame.injOn (shortOf a.revision) (shortOf b.revision) same
    exact ⟨RunId.asStr_injective (utf8Bytes_injective run), utf8Bytes_injective path, dev, ino,
      CommittedRevision.asStr_injective (utf8Bytes_injective revision)⟩
  · rintro ⟨run, path, dev, ino, revision⟩
    rw [WorktreeIdentity.preimage, WorktreeIdentity.preimage, run, path, dev, ino, revision]

/-- Two identities that differ in their paths only, and there only in bytes that are no UTF-8. -/
structure Merged (a b : WorktreeIdentity) : Prop where
  runId : a.runId = b.runId
  dev : a.repo.dev = b.repo.dev
  ino : a.repo.ino = b.repo.ino
  revision : a.revision = b.revision
  apart : a.repo.gitCommonDir ≠ b.repo.gitCommonDir
  text : toStringLossy a.repo.gitCommonDir = toStringLossy b.repo.gitCommonDir

theorem toStringLossy_ofText (s : String) (short : (utf8Bytes s).length < 2 ^ 63) :
    toStringLossy (.ofText s short) = s :=
  (fromUtf8Lossy_utf8 s.toList).trans (by rw [String.ofList_toList])

theorem not_merged_of_texts {a b : WorktreeIdentity} {s t : String}
    {shortA : (utf8Bytes s).length < 2 ^ 63} {shortB : (utf8Bytes t).length < 2 ^ 63}
    (pathA : a.repo.gitCommonDir = .ofText s shortA)
    (pathB : b.repo.gitCommonDir = .ofText t shortB) : ¬ Merged a b := by
  intro merged
  have text := merged.text
  rw [pathA, pathB, toStringLossy_ofText, toStringLossy_ofText] at text
  subst text
  exact merged.apart (pathA.trans pathB.symm)

/-- The digest's preimage identifies a pair of identities exactly when they are not merged. -/
theorem preimage_identifies (a b : WorktreeIdentity) :
    (a.preimage = b.preimage → a = b) ↔ ¬ Merged a b := by
  rw [preimage_eq_iff]
  constructor
  · intro identifies merged
    have same := identifies
      ⟨merged.runId, merged.text, merged.dev, merged.ino, merged.revision⟩
    exact merged.apart (congrArg (fun i => i.repo.gitCommonDir) same)
  · rintro distinct ⟨run, text, dev, ino, revision⟩
    by_cases path : a.repo.gitCommonDir = b.repo.gitCommonDir
    · rcases a with ⟨runA, ⟨pathA, devA, inoA⟩, revisionA⟩
      rcases b with ⟨runB, ⟨pathB, devB, inoB⟩, revisionB⟩
      cases run
      cases path
      cases dev
      cases ino
      cases revision
      rfl
    · exact absurd ⟨run, dev, ino, revision, path, text⟩ distinct

private def bare (name : UInt8) : WorktreeIdentity :=
  { runId := ⟨"r1", by decide⟩
    repo := ⟨⟨[0x2f, name], by norm_num⟩, 66, 1234⟩
    revision := ⟨"aaaaaaaaaaaaaaaaaaaaaaaaaaaaaaaaaaaaaaaa", by decide⟩ }

theorem preimage_merges :
    ¬ ∀ a b : WorktreeIdentity, a.preimage = b.preimage → a = b := by
  intro injective
  have merged : (bare 0xff).preimage = (bare 0xfe).preimage :=
    (preimage_eq_iff (bare 0xff) (bare 0xfe)).mpr ⟨rfl, by decide +kernel, rfl, rfl, rfl⟩
  have same := congrArg (fun i => i.repo.gitCommonDir.toList) (injective _ _ merged)
  exact absurd same (by decide)

end O7Formal.Worktree
