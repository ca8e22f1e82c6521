import O7Formal.Dispatch.Leavings
import O7Formal.Producers.Batch

/-! Every artifact of a record is on disk before the event that names it, and no later write of the run
touches it. -/

namespace O7Formal.Dispatch

open O7Formal.Producers (isPlain logLocator logName sanitize)
open O7Formal.Run (ArtifactRef RunEvent RunEventKind Sha256 referencedArtifacts)

def RecordFile.entry : RecordFile → Option (String × List UInt8)
  | .ledgerBinding _ => none
  | .commandBinding _ bytes => some (Run.commandBindingLocator, bytes)
  | .file locator bytes => some (locator, bytes)

def entries (items : List Item) : List (String × List UInt8) :=
  (itemFiles items).filterMap RecordFile.entry

/-- Each event of a script names files that were written before it, with their digests. -/
def Grounded (sha256 : Sha256) : List (String × List UInt8) → List Item → Prop
  | _, [] => True
  | held, .file file :: rest => Grounded sha256 (held ++ file.entry.toList) rest
  | held, .event kind :: rest =>
      (∀ r ∈ referencedArtifacts kind, ∃ bytes, (r.locator, bytes) ∈ held ∧
        r.digest = .ofBytes sha256 bytes) ∧ Grounded sha256 held rest

section Grounded

variable {sha256 : Sha256} {held : List (String × List UInt8)} {items first later : List Item}

@[simp] theorem entries_append (a b : List Item) : entries (a ++ b) = entries a ++ entries b := by
  rw [entries, itemFiles_append, List.filterMap_append]
  rfl

theorem entries_file (file : RecordFile) (rest : List Item) :
    entries (.file file :: rest) = file.entry.toList ++ entries rest := by
  change (file :: itemFiles rest).filterMap RecordFile.entry = _
  rw [List.filterMap_cons]
  cases file.entry <;> rfl

theorem entries_event (kind : RunEventKind) (rest : List Item) :
    entries (.event kind :: rest) = entries rest := rfl

theorem grounded_append : Grounded sha256 held (first ++ later) ↔
    Grounded sha256 held first ∧ Grounded sha256 (held ++ entries first) later := by
  induction first generalizing held with
  | nil => simp [Grounded, entries, itemFiles]
  | cons item rest ih =>
      cases item with
      | file file =>
          rw [List.cons_append, Grounded, Grounded, ih, entries_file, List.append_assoc]
      | event kind => rw [List.cons_append, Grounded, Grounded, ih, entries_event, and_assoc]

theorem grounded_file {file : RecordFile}
    (after : Grounded sha256 (held ++ file.entry.toList) later) :
    Grounded sha256 held (.file file :: later) := after

theorem grounded_silent {kind : RunEventKind} (named : referencedArtifacts kind = [])
    (after : Grounded sha256 held later) : Grounded sha256 held (.event kind :: later) := by
  refine ⟨?_, after⟩
  intro r member
  rw [named] at member
  cases member

theorem grounded_event {kind : RunEventKind} {r : ArtifactRef} {bytes : List UInt8}
    (named : referencedArtifacts kind = [r]) (written : (r.locator, bytes) ∈ held)
    (digest : r.digest = .ofBytes sha256 bytes) (after : Grounded sha256 held later) :
    Grounded sha256 held (.event kind :: later) := by
  refine ⟨?_, after⟩
  intro other member
  rw [named, List.mem_singleton] at member
  rw [member]
  exact ⟨bytes, written, digest⟩

theorem grounded_prefix (grounded : Grounded sha256 held items) {part : List Item}
    (listed : part <+: items) : Grounded sha256 held part := by
  rcases listed with ⟨rest, rfl⟩
  exact (grounded_append.mp grounded).1

theorem grounded_backed (grounded : Grounded sha256 held items) {kind : RunEventKind}
    (member : kind ∈ itemKinds items) {r : ArtifactRef} (named : r ∈ referencedArtifacts kind) :
    ∃ bytes, (r.locator, bytes) ∈ held ++ entries items ∧ r.digest = .ofBytes sha256 bytes := by
  induction items generalizing held with
  | nil => cases member
  | cons item rest ih =>
      cases item with
      | file file =>
          rcases ih grounded member with ⟨bytes, written, digest⟩
          rw [List.append_assoc] at written
          exact ⟨bytes, by rwa [entries_file], digest⟩
      | event other =>
          have cases_ : kind = other ∨ kind ∈ itemKinds rest := by
            simpa [itemKinds] using member
          cases cases_ with
          | inl same =>
              rcases grounded.1 r (same ▸ named) with ⟨bytes, written, digest⟩
              exact ⟨bytes, List.mem_append_left _ written, digest⟩
          | inr later => exact ih grounded.2 later

end Grounded

section Reading

variable {start : RecordDir}

theorem read_store_other {file : RecordFile} {dir : RecordDir} {locator : String}
    (apart : ∀ entry ∈ file.entry, entry.1 ≠ locator) :
    (file.store dir).read locator = dir.read locator := by
  cases file with
  | ledgerBinding binding => rfl
  | commandBinding binding bytes => exact Function.update_of_ne (apart _ rfl).symm _ _
  | file name bytes => exact Function.update_of_ne (apart _ rfl).symm _ _

theorem read_store_own {file : RecordFile} {dir : RecordDir} {locator : String}
    {bytes : List UInt8} (own : file.entry = some (locator, bytes)) :
    (file.store dir).read locator = .ok bytes := by
  cases file with
  | ledgerBinding binding => cases own
  | commandBinding binding bytes =>
      cases own
      exact Function.update_self Run.commandBindingLocator (.ok bytes) dir.read
  | file name bytes =>
      cases own
      exact Function.update_self locator (.ok bytes) dir.read

theorem read_stores_other {files : List RecordFile} {dir : RecordDir} {locator : String}
    (apart : locator ∉ (files.filterMap RecordFile.entry).map Prod.fst) :
    (files.foldl (fun dir file => file.store dir) dir).read locator = dir.read locator := by
  induction files generalizing dir with
  | nil => rfl
  | cons file rest ih =>
      have here : ∀ entry ∈ file.entry, entry.1 ≠ locator := by
        intro entry own same
        apply apart
        rw [← same]
        exact List.mem_map_of_mem (List.mem_filterMap.mpr ⟨file, List.mem_cons_self, own⟩)
      have others : locator ∉ (rest.filterMap RecordFile.entry).map Prod.fst := by
        intro member
        rcases List.mem_map.mp member with ⟨entry, among, same⟩
        rcases List.mem_filterMap.mp among with ⟨other, listed, own⟩
        apply apart
        rw [← same]
        exact List.mem_map_of_mem
          (List.mem_filterMap.mpr ⟨other, List.mem_cons_of_mem _ listed, own⟩)
      rw [List.foldl_cons, ih others, read_store_other here]

theorem read_stores_own {files : List RecordFile} {dir : RecordDir} {locator : String}
    {bytes : List UInt8} (distinct : ((files.filterMap RecordFile.entry).map Prod.fst).Nodup)
    (member : (locator, bytes) ∈ files.filterMap RecordFile.entry) :
    (files.foldl (fun dir file => file.store dir) dir).read locator = .ok bytes := by
  induction files generalizing dir with
  | nil => cases member
  | cons file rest ih =>
      rw [List.foldl_cons]
      rw [List.filterMap_cons] at distinct member
      cases own : file.entry with
      | none =>
          rw [own] at distinct member
          exact ih distinct member
      | some entry =>
          rw [own] at distinct member
          rw [List.map_cons, List.nodup_cons] at distinct
          cases List.mem_cons.mp member with
          | inl same =>
              rw [← same] at own distinct
              rw [read_stores_other distinct.1]
              exact read_store_own own
          | inr later => exact ih distinct.2 later

theorem read_built {items : List Item} {events : List RunEvent} {locator : String}
    {bytes : List UInt8} (distinct : ((entries items).map Prod.fst).Nodup)
    (member : (locator, bytes) ∈ entries items) :
    (built start (itemFiles items) events).read locator = .ok bytes :=
  read_stores_own distinct member

end Reading

theorem sanitize_plain (name : String) : ∀ c ∈ (sanitize name).toList, isPlain c = true := by
  intro c member
  rw [sanitize, String.toList_ofList] at member
  rcases List.mem_map.mp member with ⟨d, _, rfl⟩
  split
  · assumption
  · decide

theorem slash_not_plain {c : Char} (plain : isPlain c = true) : c ≠ '/' := by
  intro same
  rw [same] at plain
  exact absurd plain (by decide)

theorem logName_noSlash (step : Producers.GateStep) : '/' ∉ (logName step).toList := by
  rw [logName, String.toList_append, List.mem_append]
  intro member
  cases member with
  | inl inName => exact slash_not_plain (sanitize_plain _ _ inName) rfl
  | inr suffix => exact absurd suffix (by decide)

theorem logName_ends (step : Producers.GateStep) : 4 ≤ (logName step).toList.length := by
  rw [logName, String.toList_append, List.length_append]
  have suffix : ".log".toList.length = 4 := by decide
  omega

theorem confined_logLocator (step : Producers.GateStep) : confined (logLocator step) = true := by
  have parts : (logLocator step).toList.splitOn '/' = ["gate".toList, (logName step).toList] := by
    have text : (logLocator step).toList = "gate".toList ++ '/' :: (logName step).toList := by
      rw [logLocator, String.toList_append]
      rfl
    rw [text, List.splitOn_append_cons_self, List.splitOn_eq_singleton (logName_noSlash step)]
    rfl
  have long := logName_ends step
  have named : (logName step).toList ≠ ['.', '.'] := by
    intro same
    rw [same] at long
    exact absurd long (by decide)
  unfold confined
  rw [parts]
  simp [Producers.logLocator_ne, named]

theorem logLocator_apart (step : Producers.GateStep) {name : String} (flat : '/' ∉ name.toList) :
    logLocator step ≠ name := by
  intro same
  apply flat
  rw [← same, logLocator, String.toList_append]
  exact List.mem_append_left _ (by decide)

end O7Formal.Dispatch
