import O7Formal.Worktree.Reap

/-! The creation of a worktree: the lock, the state file, the directory of the digest, what git and the
plan write into it, and the record that is persisted at the end. -/

set_option linter.dupNamespace false

namespace O7Formal.Worktree

open DirTree (Fd)
open Program (attempt require)

inductive StateRootError where
  | io (path : String) (source : Errno)
  | symlink (path : String)
  | ownership (path : String) (expected found : UInt32)
  | permissions (path : String) (expected found : UInt32)
  | worktreeExists (path : String)
  | insideRepo (root : String) (repo : Bytes)
  deriving DecidableEq

inductive WorktreeError where
  | git (why : String)
  | stateRoot (e : StateRootError)
  | materialize (why : String)
  | alreadyExists (path : String)
  deriving DecidableEq

inductive StoreError where
  | worktree (e : WorktreeError)
  | stateRoot (e : StateRootError)
  | runAlreadyTracked (runId : String)
  | schemaMismatch (found : UInt32)
  | corrupt (path detail : String)
  | lock (why : String)
  | serialize (why : String)
  deriving DecidableEq

def BuildError.worktree : BuildError → WorktreeError
  | .git why => .git why
  | .materialize why => .materialize why

def mapControlErr (path : String) (e : Errno) : StateRootError :=
  if e = .loop then .symlink path else .io path e

def passOn {ε ε' α : Type} (wrap : ε → ε') (work : ExceptT ε Code α) : ExceptT ε' Code α :=
  attempt work.run wrap

def stateFileName : String := "worktrees.json"

def Root.join (root : Root) (name : String) : String := root.path ++ "/" ++ name

section Store

variable (root : Root)

/-- The descriptor is of a directory; it is to be ours and for its owner only. -/
def verifyRootFd (fd : Fd) (path : String) : ExceptT StateRootError Code Unit := do
  let st ← attempt (fstat fd) (.io path)
  require (st.uid = root.euid) (.ownership path root.euid st.uid)
  require (st.mode &&& 0o777 = ownerOnly) (.permissions path ownerOnly (st.mode &&& 0o777))

def reverify : ExceptT StateRootError Code Unit := verifyRootFd root root.fd root.path

def openLockFile : ExceptT StateRootError Code Unit := do
  reverify root
  attempt (ask .openLock) (mapControlErr (root.join ".lock"))

def readStateFile : ExceptT StateRootError Code (Option StateContent) := do
  reverify root
  attempt (ask .readStateFile) (mapControlErr (root.join stateFileName))

def fsIdentityOf (fd : Fd) (path : String) : ExceptT StateRootError Code FsIdentity := do
  let st ← attempt (fstat fd) (.io path)
  pure st.id

/-- The mode that `mkdirat` sets is masked; it is set again on the descriptor. -/
def createWorktreeDir (digest : IdentityDigest) :
    ExceptT StateRootError Code (String × FsIdentity) := do
  reverify root
  let full := worktreePath root.path digest
  attempt (ask (.fs (.mkdirAt root.fd digest ownerOnly))) fun e =>
    if e = .exist then .worktreeExists full else .io full e
  let fd ← attempt (openDirAt root.fd digest) (.io full)
  holding fd do
    attempt (ask (.fs (.fchmod fd ownerOnly))) (.io full)
    verifyRootFd root fd full
    let id ← fsIdentityOf fd full
    pure (full, id)

def removeWorktreeDir (process : Process) (digest : IdentityDigest) (expected : FsIdentity) :
    ExceptT ReapError Code Unit := do
  passOn (fun _ => .unproven root.path "state root no longer proves ours before delete")
    (reverify root)
  removeVerifiedRelative root root.fd digest (quarantineName process expected) (root.join digest)
    expected process.descriptors

def tempName (process : Process) : String :=
  "." ++ stateFileName ++ ".tmp." ++ toString process.id ++ "." ++ toString process.tmpCounter

def writeStateFileAtomic (process : Process) (state : StateFile) :
    ExceptT StateRootError Code Unit := do
  reverify root
  let tmp := tempName process
  attempt (ask (.createTemp tmp)) (.io (root.join tmp))
  unlinkOnError tmp do attempt (ask (.writeTemp tmp state)) (.io (root.join tmp))
  unlinkOnError tmp do attempt (ask (.renameTemp tmp)) (.io (root.join stateFileName))
  attempt (ask .syncRoot) (.io root.path)
where
  unlinkOnError (tmp : String) (work : ExceptT StateRootError Code Unit) :
      ExceptT StateRootError Code Unit :=
    ExceptT.mk do
      match ← work.run with
      | .ok _ => pure (.ok ())
      | .error e => do
          let _ ← ask (.unlinkTemp tmp)
          pure (.error e)

def ensureOutsideRepo (repo : Bytes) : ExceptT StateRootError Code Unit := do
  let inside ← liftM (ask (.insideRepo repo))
  require (inside = false) (.insideRepo root.path repo)

structure Worktree where
  identity : WorktreeIdentity
  digest : IdentityDigest
  path : String
  fsIdentity : FsIdentity
  summary : MaterializeSummary

variable (sha256 : Run.Sha256) (git : HardenedGit)

def initAndWrite (digest : IdentityDigest) (revision : CommittedRevision) :
    ExceptT WorktreeError Code MaterializeSummary := do
  attempt (ask (.initWorktree digest revision)) BuildError.worktree
  attempt (ask (.writePlan digest)) BuildError.worktree

def buildOrRemove (digest : IdentityDigest) (revision : CommittedRevision) (id : FsIdentity)
    (process : Process) : ExceptT WorktreeError Code MaterializeSummary :=
  ExceptT.mk do
    match ← (initAndWrite digest revision).run with
    | .ok summary => pure (.ok summary)
    | .error e => do
        let _ ← (removeWorktreeDir root process digest id).run
        pure (.error e)

def Worktree.create (process : Process) (runId : RunId) (revision : CommittedRevision) :
    ExceptT WorktreeError Code Worktree := do
  let repo ← attempt (ask .canonicalRepoId) BuildError.worktree
  let identity : WorktreeIdentity := ⟨runId, repo, revision⟩
  let digest := identity.digest sha256
  passOn .stateRoot (ensureOutsideRepo root repo.gitCommonDir)
  passOn .stateRoot (ensureOutsideRepo root git.repo)
  let toplevel ← liftM (ask .worktreeToplevel)
  passOn .stateRoot (match toplevel with
    | some toplevel => ensureOutsideRepo root toplevel
    | none => pure ())
  attempt (ask (.prepare revision)) BuildError.worktree
  let (path, id) ← passOn (fun e => match e with
    | .worktreeExists path => .alreadyExists path
    | e => .stateRoot e) (createWorktreeDir root digest)
  let summary ← buildOrRemove root digest revision id process
  pure ⟨identity, digest, path, id, summary⟩

def WorktreeStore.lock : ExceptT StoreError Code Unit := do
  passOn .stateRoot (openLockFile root)
  attempt (ask .lockExclusive) fun e =>
    .lock ("flock LOCK_EX on the state root failed: " ++ errnoText e)

def StateContent.decode (path : String) : Option StateContent → Except StoreError StateFile
  | none => .ok ⟨stateSchema, []⟩
  | some (.corrupt detail) => .error (.corrupt path detail)
  | some (.json file) =>
      if file.schema ≠ stateSchema then .error (.schemaMismatch file.schema) else .ok file

def WorktreeStore.load : ExceptT StoreError Code StateFile := do
  let content ← passOn .stateRoot (readStateFile root)
  ExceptT.mk (pure (StateContent.decode (root.join stateFileName) content))

def WorktreeStore.persist (process : Process) (state : StateFile) :
    ExceptT StoreError Code Unit := do
  attempt (ask (.serialize state)) .serialize
  passOn .stateRoot (writeStateFileAtomic root process state)

def Worktree.record (worktree : Worktree) (createdUnix : UInt64) : WorktreeRecord where
  runId := worktree.identity.runId
  repo := worktree.identity.repo
  revision := worktree.identity.revision
  identityDigest := worktree.digest
  worktreePath := worktree.path
  fsIdentity := worktree.fsIdentity
  summary := worktree.summary
  createdUnix := createdUnix

def WorktreeStore.create (process : Process) (runId : RunId) (revision : CommittedRevision) :
    ExceptT StoreError Code Worktree := do
  WorktreeStore.lock root
  let state ← WorktreeStore.load root
  require (∀ record ∈ state.records, record.runId ≠ runId) (.runAlreadyTracked runId.asStr)
  let worktree ← passOn .worktree (Worktree.create root sha256 git process runId revision)
  let createdUnix ← liftM (ask .nowUnix)
  WorktreeStore.persist root process
    { state with records := state.records ++ [worktree.record createdUnix] }
  pure worktree

end Store

end O7Formal.Worktree
