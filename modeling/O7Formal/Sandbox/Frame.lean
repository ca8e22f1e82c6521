import O7Formal.Lib.LengthFrame
import O7Formal.Lib.Words
import O7Formal.Sandbox.Request

/-! The two frames between the boundary and its backend: the request that is sent, and the report
that comes back. Each is one length-prefixed JSON message and nothing after it. -/

namespace O7Formal.Sandbox

open ByteCodec Fallible LengthFrame Words

inductive IdError where
  | digest (value : String)
  | nonce (value : String)
  | backend
  deriving DecidableEq

def parseHex (width : Nat) (refused : String → IdError) (value : String) :
    Except IdError (HexText width) :=
  if canonical : (utf8Bytes value).length = width ∧ (utf8Bytes value).all isHexByte = true then
    .ok ⟨value, canonical⟩
  else .error (refused value)

def Digest256.parse : String → Except IdError Digest256 := parseHex 64 .digest

def LaunchNonce.parse : String → Except IdError LaunchNonce := parseHex 32 .nonce

/-- `str::trim` leaves nothing. -/
def isBlank (text : String) : Bool := text.toList.all isWhitespace

structure BackendIdentity where
  name : String
  version : String
  named : isBlank name = false ∧ isBlank version = false
  deriving DecidableEq

def BackendIdentity.new (name version : String) : Except IdError BackendIdentity :=
  if named : isBlank name = false ∧ isBlank version = false then .ok ⟨name, version, named⟩
  else .error .backend

inductive Enforcement where
  | enforced | partially | notEnforced
  deriving DecidableEq

@[ext]
structure SandboxReport where
  schemaVersion : UInt32
  backend : BackendIdentity
  backendDigest : Digest256
  policyDigest : Digest256
  launchNonce : LaunchNonce
  launchSpecDigest : Digest256
  filesystem : Enforcement
  network : Enforcement
  env : Enforcement
  processTree : Enforcement
  timeout : Enforcement
  deriving DecidableEq

def schemaVersion : UInt32 := 1

structure RawRequest where
  schemaVersion : UInt32
  targetDigest : String
  argv : Slice Bytes
  cwd : Bytes
  env : Slice EnvEntry
  stdin : StdinKind
  launchNonce : String
  deriving DecidableEq

structure RawReport where
  schemaVersion : UInt32
  backendName : String
  backendVersion : String
  backendDigest : String
  policyDigest : String
  launchNonce : String
  launchSpecDigest : String
  filesystem : Enforcement
  network : Enforcement
  env : Enforcement
  processTree : Enforcement
  timeout : Enforcement
  deriving DecidableEq

/-- A JSON writer and reader of a schema, and the text of an identifier's refusal. -/
structure Serde (ρ : Type) where
  write : ρ → Except String (List UInt8)
  read : List UInt8 → Except String ρ
  custom : IdError → List UInt8 → String

def Serde.Faithful {ρ : Type} (serde : Serde ρ) : Prop :=
  ∀ value bytes, serde.write value = .ok bytes → serde.read bytes = .ok value

def LaunchRequest.raw (request : LaunchRequest) : RawRequest :=
  { schemaVersion := request.schemaVersion, targetDigest := request.targetDigest.asStr,
    argv := request.argv, cwd := request.cwd, env := request.env, stdin := request.stdin,
    launchNonce := request.launchNonce.asStr }

def SandboxReport.raw (report : SandboxReport) : RawReport :=
  { schemaVersion := report.schemaVersion, backendName := report.backend.name,
    backendVersion := report.backend.version, backendDigest := report.backendDigest.asStr,
    policyDigest := report.policyDigest.asStr, launchNonce := report.launchNonce.asStr,
    launchSpecDigest := report.launchSpecDigest.asStr, filesystem := report.filesystem,
    network := report.network, env := report.env, processTree := report.processTree,
    timeout := report.timeout }

/-- `serde_json::from_slice` -/
def LaunchRequest.fromSlice (serde : Serde RawRequest) (body : List UInt8) :
    Except String LaunchRequest := do
  let raw ← serde.read body
  let checked : Except IdError LaunchRequest := do
    let targetDigest ← Digest256.parse raw.targetDigest
    let launchNonce ← LaunchNonce.parse raw.launchNonce
    .ok { schemaVersion := raw.schemaVersion, targetDigest, argv := raw.argv, cwd := raw.cwd,
          env := raw.env, stdin := raw.stdin, launchNonce }
  checked.mapError fun e => serde.custom e body

/-- `serde_json::from_slice` -/
def SandboxReport.fromSlice (serde : Serde RawReport) (body : List UInt8) :
    Except String SandboxReport := do
  let raw ← serde.read body
  let checked : Except IdError SandboxReport := do
    let backend ← BackendIdentity.new raw.backendName raw.backendVersion
    let backendDigest ← Digest256.parse raw.backendDigest
    let policyDigest ← Digest256.parse raw.policyDigest
    let launchNonce ← LaunchNonce.parse raw.launchNonce
    let launchSpecDigest ← Digest256.parse raw.launchSpecDigest
    .ok { schemaVersion := raw.schemaVersion, backend, backendDigest, policyDigest, launchNonce,
          launchSpecDigest, filesystem := raw.filesystem, network := raw.network, env := raw.env,
          processTree := raw.processTree, timeout := raw.timeout }
  checked.mapError fun e => serde.custom e body

def maxRequestBytes : Nat := 1024 * 1024

inductive RequestFrameError where
  | truncated (present need : Nat)
  | tooLarge (len : Nat)
  | trailing (extra : Nat)
  | body (text : String)
  | duplicateEnvName (name : Bytes)
  | unsupportedVersion (found : UInt32)
  deriving DecidableEq

def RequestFrameError.faults : Faults RequestFrameError := ⟨.truncated, .tooLarge, .trailing⟩

namespace LaunchRequest

def encode (serde : Serde RawRequest) (request : LaunchRequest) :
    Except RequestFrameError (List UInt8) := do
  let body ← (serde.write request.raw).mapError .body
  writeFrame RequestFrameError.faults maxRequestBytes body

def checkNames (request : LaunchRequest) : Except RequestFrameError Unit :=
  checkSet (fun _ => .ok ()) .duplicateEnvName [] (request.env.toList.map EnvEntry.name)

def decode (serde : Serde RawRequest) (bytes : List UInt8) :
    Except RequestFrameError LaunchRequest := do
  let body ← readFrame RequestFrameError.faults maxRequestBytes bytes
  let request ← (fromSlice serde body).mapError .body
  refuseIf (request.schemaVersion ≠ Sandbox.schemaVersion) (.unsupportedVersion request.schemaVersion)
  request.checkNames
  .ok request

end LaunchRequest

def maxReportBytes : Nat := 64 * 1024

inductive ReportError where
  | malformed (text : String)
  | unsupportedVersion (found : UInt32)
  deriving DecidableEq

inductive FrameError where
  | truncated (present need : Nat)
  | tooLarge (len : Nat)
  | trailing (extra : Nat)
  | body (error : ReportError)
  deriving DecidableEq

def FrameError.faults : Faults FrameError := ⟨.truncated, .tooLarge, .trailing⟩

namespace SandboxReport

def parse (serde : Serde RawReport) (body : List UInt8) : Except ReportError SandboxReport := do
  let report ← (fromSlice serde body).mapError .malformed
  refuseIf (report.schemaVersion ≠ Sandbox.schemaVersion) (.unsupportedVersion report.schemaVersion)
  .ok report

def encode (serde : Serde RawReport) (report : SandboxReport) :
    Except FrameError (List UInt8) := do
  let body ← (serde.write report.raw).mapError fun text => .body (.malformed text)
  writeFrame FrameError.faults maxReportBytes body

def decode (serde : Serde RawReport) (bytes : List UInt8) : Except FrameError SandboxReport := do
  let body ← readFrame FrameError.faults maxReportBytes bytes
  (parse serde body).mapError .body

end SandboxReport

structure BoundarySpawnSpec where
  arguments : Slice Bytes
  workingDirectory : Bytes
  environment : Slice (Bytes × Bytes)
  sorted : (environment.toList.map Prod.fst).Pairwise (· < ·)
  stdin : Worker.StdinMode

inductive SandboyLaunchError where
  | disallowedEnv (name : Bytes)
  deriving DecidableEq

def stdinKind : Worker.StdinMode → StdinKind
  | .null => .null

section LaunchRequest

local instance lawfulBytes : LawfulBEq Bytes := inferInstance

def launchRequest (policy : SandboxPolicy) (spec : BoundarySpawnSpec) (targetDigest : Digest256)
    (launchNonce : LaunchNonce) : Except SandboyLaunchError LaunchRequest := do
  refuseFirst spec.environment.toList (fun entry => entry.1 ∉ policy.envAllowlist.toList)
    (fun entry => .disallowedEnv entry.1)
  .ok
    { schemaVersion := schemaVersion, targetDigest, argv := spec.arguments,
      cwd := spec.workingDirectory,
      env := spec.environment.map fun entry => ⟨entry.1, entry.2⟩,
      stdin := stdinKind spec.stdin, launchNonce }

end LaunchRequest

theorem parseHex_asStr {width : Nat} {refused : String → IdError} (text : HexText width) :
    parseHex width refused text.asStr = .ok text := dif_pos text.canonical

theorem BackendIdentity.new_named (backend : BackendIdentity) :
    BackendIdentity.new backend.name backend.version = .ok backend := dif_pos backend.named

theorem LaunchRequest.fromSlice_raw {serde : Serde RawRequest} {body : List UInt8}
    {request : LaunchRequest} (read : serde.read body = .ok request.raw) :
    LaunchRequest.fromSlice serde body = .ok request := by
  simp only [LaunchRequest.fromSlice, read, ok_bind, LaunchRequest.raw, Digest256.parse,
    LaunchNonce.parse, parseHex_asStr]
  rfl

theorem SandboxReport.fromSlice_raw {serde : Serde RawReport} {body : List UInt8}
    {report : SandboxReport} (read : serde.read body = .ok report.raw) :
    SandboxReport.fromSlice serde body = .ok report := by
  simp only [SandboxReport.fromSlice, read, ok_bind, SandboxReport.raw, Digest256.parse,
    LaunchNonce.parse, parseHex_asStr, BackendIdentity.new_named]
  rfl

theorem LaunchRequest.checkNames_ok_iff {request : LaunchRequest} {u : Unit} :
    request.checkNames = .ok u ↔ DistinctNames request := by
  have names : request.entries.map Prod.fst = request.env.toList.map EnvEntry.name := by
    rw [LaunchRequest.entries, List.map_map]
    rfl
  rw [DistinctNames, names, LaunchRequest.checkNames]
  constructor
  · exact fun ok => (checkSet_ok ok).1
  · exact fun distinct => checkSet_ok_of (fun _ _ => rfl) distinct (fun _ _ => List.not_mem_nil)

theorem LaunchRequest.decode_ok_iff {serde : Serde RawRequest} {bytes : List UInt8}
    {request : LaunchRequest} : LaunchRequest.decode serde bytes = .ok request ↔
      ∃ body, body.length ≤ maxRequestBytes ∧ bytes = framed body ∧
        LaunchRequest.fromSlice serde body = .ok request ∧
        request.schemaVersion = Sandbox.schemaVersion ∧ DistinctNames request := by
  have small : maxRequestBytes < 2 ^ 32 := by decide
  simp only [LaunchRequest.decode, bind_ok_iff, readFrame_ok_iff small, mapError_ok_iff,
    refuseIf_ok_iff, exists_const, not_not, Except.ok.injEq, LaunchRequest.checkNames_ok_iff]
  constructor
  · rintro ⟨body, ⟨short, whole⟩, r, read, version, distinct, rfl⟩
    exact ⟨body, short, whole, read, version, distinct⟩
  · rintro ⟨body, short, whole, read, version, distinct⟩
    exact ⟨body, ⟨short, whole⟩, request, read, version, distinct, rfl⟩

theorem SandboxReport.decode_ok_iff {serde : Serde RawReport} {bytes : List UInt8}
    {report : SandboxReport} : SandboxReport.decode serde bytes = .ok report ↔
      ∃ body, body.length ≤ maxReportBytes ∧ bytes = framed body ∧
        SandboxReport.fromSlice serde body = .ok report ∧
        report.schemaVersion = Sandbox.schemaVersion := by
  have small : maxReportBytes < 2 ^ 32 := by decide
  simp only [SandboxReport.decode, SandboxReport.parse, bind_ok_iff, readFrame_ok_iff small,
    mapError_ok_iff, refuseIf_ok_iff, exists_const, not_not, Except.ok.injEq]
  constructor
  · rintro ⟨body, ⟨short, whole⟩, r, read, version, rfl⟩
    exact ⟨body, short, whole, read, version⟩
  · rintro ⟨body, short, whole, read, version⟩
    exact ⟨body, ⟨short, whole⟩, report, read, version, rfl⟩

theorem LaunchRequest.encode_ok_iff {serde : Serde RawRequest} {request : LaunchRequest}
    {bytes : List UInt8} : LaunchRequest.encode serde request = .ok bytes ↔
      ∃ body, serde.write request.raw = .ok body ∧ body.length ≤ maxRequestBytes ∧
        framed body = bytes := by
  simp only [LaunchRequest.encode, bind_ok_iff, mapError_ok_iff, writeFrame_ok_iff]

theorem SandboxReport.encode_ok_iff {serde : Serde RawReport} {report : SandboxReport}
    {bytes : List UInt8} : SandboxReport.encode serde report = .ok bytes ↔
      ∃ body, serde.write report.raw = .ok body ∧ body.length ≤ maxReportBytes ∧
        framed body = bytes := by
  simp only [SandboxReport.encode, bind_ok_iff, mapError_ok_iff, writeFrame_ok_iff]

def LaunchRequest.Supported (request : LaunchRequest) : Prop :=
  request.schemaVersion = Sandbox.schemaVersion ∧ DistinctNames request

def SandboxReport.Supported (report : SandboxReport) : Prop :=
  report.schemaVersion = Sandbox.schemaVersion

theorem request_codec {serde : Serde RawRequest} (faithful : serde.Faithful) :
    FrameCodec maxRequestBytes (LaunchRequest.encode serde) (LaunchRequest.decode serde)
      (fun body request => LaunchRequest.fromSlice serde body = .ok request)
      LaunchRequest.Supported := by
  refine frameCodec_of (by decide) (fun _ _ => LaunchRequest.decode_ok_iff) ?_
  intro request bytes encoded
  rcases LaunchRequest.encode_ok_iff.mp encoded with ⟨body, written, short, same⟩
  exact ⟨body, short, same, LaunchRequest.fromSlice_raw (faithful _ _ written)⟩

theorem report_codec {serde : Serde RawReport} (faithful : serde.Faithful) :
    FrameCodec maxReportBytes (SandboxReport.encode serde) (SandboxReport.decode serde)
      (fun body report => SandboxReport.fromSlice serde body = .ok report)
      SandboxReport.Supported := by
  refine frameCodec_of (by decide) (fun _ _ => SandboxReport.decode_ok_iff) ?_
  intro report bytes encoded
  rcases SandboxReport.encode_ok_iff.mp encoded with ⟨body, written, short, same⟩
  exact ⟨body, short, same, SandboxReport.fromSlice_raw (faithful _ _ written)⟩

theorem launchRequest_supported {policy : SandboxPolicy} {spec : BoundarySpawnSpec}
    {targetDigest : Digest256} {launchNonce : LaunchNonce} {request : LaunchRequest}
    (built : launchRequest policy spec targetDigest launchNonce = .ok request) :
    request.Supported := by
  simp only [launchRequest, bind_ok_iff, refuseFirst_ok_iff, exists_const, Except.ok.injEq] at built
  rcases built with ⟨_, rfl⟩
  refine ⟨rfl, ?_⟩
  rw [DistinctNames, LaunchRequest.entries, Slice.map, List.map_map, List.map_map]
  exact spec.sorted.imp fun before => ne_of_lt before

/-- Both frames are codecs of one message, and every request of the boundary survives its own. -/
theorem frame_codecs {requests : Serde RawRequest} {reports : Serde RawReport}
    (requestsFaithful : requests.Faithful) (reportsFaithful : reports.Faithful) :
    FrameCodec maxRequestBytes (LaunchRequest.encode requests) (LaunchRequest.decode requests)
        (fun body request => LaunchRequest.fromSlice requests body = .ok request)
        (fun request => request.schemaVersion = 1 ∧ DistinctNames request) ∧
      FrameCodec maxReportBytes (SandboxReport.encode reports) (SandboxReport.decode reports)
        (fun body report => SandboxReport.fromSlice reports body = .ok report)
        (fun report => report.schemaVersion = 1) ∧
      ∀ policy spec targetDigest launchNonce request bytes,
        launchRequest policy spec targetDigest launchNonce = .ok request →
        LaunchRequest.encode requests request = .ok bytes →
        LaunchRequest.decode requests bytes = .ok request :=
  ⟨request_codec requestsFaithful, report_codec reportsFaithful,
    fun _ _ _ _ _ _ built encoded => (request_codec requestsFaithful).roundTrip _ _ encoded
      (launchRequest_supported built)⟩

namespace Sample

def serde {ρ : Type} [DecidableEq ρ] (value : ρ) (text : String) : Serde ρ :=
  { write := fun v => if v = value then .ok (utf8Bytes text) else .error "unknown value"
    read := fun body => if body = utf8Bytes text then .ok value else .error "unknown text"
    custom := fun _ _ => "invalid identifier" }

theorem serde_write {ρ : Type} [DecidableEq ρ] (value : ρ) (text : String) :
    (serde value text).write value = .ok (utf8Bytes text) := if_pos rfl

theorem serde_faithful {ρ : Type} [DecidableEq ρ] (value : ρ) (text : String) :
    (serde value text).Faithful := by
  intro v bytes written
  by_cases known : v = value
  · have same : utf8Bytes text = bytes := by simpa [serde, known] using written
    rw [← same, known]
    exact if_pos rfl
  · simp [serde, known] at written

def homeLaunch : LaunchRequest := launch ⟨[home], by norm_num⟩

def homeLaunchText : String :=
  "\x7b\"schema_version\":1,\"target_digest\":\"000000000000000000000000000000000000000000000" ++
  "0000000000000000000\",\"argv\":[],\"cwd\":[47,119,111,114,107,116,114,101,101],\"env\":[" ++
  "\x7b\"name\":[72,79,77,69],\"value\":[]\x7d],\"stdin\":\"null\",\"launch_nonce\":\"0000000" ++
  "0000000000000000000000000\"\x7d"

def report : SandboxReport :=
  { schemaVersion := 1
    backend := ⟨"sandboy-linux", "0.1.0", by decide⟩
    backendDigest := homeLaunch.targetDigest
    policyDigest := homeLaunch.targetDigest
    launchNonce := homeLaunch.launchNonce
    launchSpecDigest := homeLaunch.targetDigest
    filesystem := .enforced
    network := .enforced
    env := .enforced
    processTree := .enforced
    timeout := .enforced }

def reportText : String :=
  "\x7b\"schema_version\":1,\"backend\":\x7b\"name\":\"sandboy-linux\",\"version\":\"0.1.0\"" ++
  "\x7d,\"backend_digest\":\"0000000000000000000000000000000000000000000000000000000000000000" ++
  "\",\"policy_digest\":\"0000000000000000000000000000000000000000000000000000000000000000\"," ++
  "\"launch_nonce\":\"00000000000000000000000000000000\",\"launch_spec_digest\":\"00000000000" ++
  "00000000000000000000000000000000000000000000000000000\",\"filesystem\":\"enforced\",\"netw" ++
  "ork\":\"enforced\",\"env\":\"enforced\",\"process_tree\":\"enforced\",\"timeout\":\"enforc" ++
  "ed\"\x7d"

end Sample

theorem frame_codecs_sample :
    LaunchRequest.decode (Sample.serde Sample.homeLaunch.raw Sample.homeLaunchText)
        (framed (utf8Bytes Sample.homeLaunchText)) = .ok Sample.homeLaunch ∧
      SandboxReport.decode (Sample.serde Sample.report.raw Sample.reportText)
        (framed (utf8Bytes Sample.reportText)) = .ok Sample.report := by
  have codecs := frame_codecs
    (Sample.serde_faithful Sample.homeLaunch.raw Sample.homeLaunchText)
    (Sample.serde_faithful Sample.report.raw Sample.reportText)
  refine ⟨codecs.1.roundTrip _ _ ?_ ⟨rfl, List.nodup_singleton _⟩, codecs.2.1.roundTrip _ _ ?_ rfl⟩
  · have short : (utf8Bytes Sample.homeLaunchText).length ≤ maxRequestBytes := by
      rw [length_utf8Bytes]
      decide +kernel
    exact LaunchRequest.encode_ok_iff.mpr ⟨_, Sample.serde_write _ _, short, rfl⟩
  · have short : (utf8Bytes Sample.reportText).length ≤ maxReportBytes := by
      rw [length_utf8Bytes]
      decide +kernel
    exact SandboxReport.encode_ok_iff.mpr ⟨_, Sample.serde_write _ _, short, rfl⟩

end O7Formal.Sandbox
