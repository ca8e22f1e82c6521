import O7Formal.Dispatch.Admission

/-! The byte budget of a bounded replay. An artifact is charged at the size that `fstat` reports,
before it is read; the read has a limit of its own, and a file may have grown by then. -/

namespace O7Formal.Dispatch

open Fallible
open FileTree (Location names openBelow parts)
open O7Formal.Run (ArtifactError ArtifactRef)

def u64Max : Nat := 2 ^ 64 - 1

/-- What one resolution finds: the size of the file that it opens, and then what reading it to its
end delivers. -/
structure Found where
  size : Except String Nat
  contents : Except String (List UInt8)

/-- `take(limit + 1)` and `read_to_end`, on the descriptor whose size is known. -/
def readBoundedFromFd (contents : Except String (List UInt8)) (declaredSize limit : Nat) :
    Except String (List UInt8) := do
  refuseIf (limit < declaredSize) ("declared size " ++ toString declaredSize ++ " exceeds the " ++
    toString limit ++ "-byte limit")
  let buf ← (contents.map (List.take (limit + 1))).mapError fun e => "read: " ++ e
  refuseIf (limit < buf.length) ("grew past the " ++ toString limit ++
    "-byte limit during read (observed at least " ++ toString buf.length ++ " bytes)")
  pure buf

def resolve (total : Nat) (a : ArtifactRef) (found : Found) :
    Except ArtifactError (List UInt8) × Nat :=
  let fail (reason : String) : Except ArtifactError (List UInt8) := .error ⟨a.locator, reason⟩
  if confined a.locator = false then (fail escapes, total)
  else match found.size with
    | .error reason => (fail reason, total)
    | .ok size =>
        if maxArtifactBytes < size then
          (fail ("artifact is " ++ toString size ++ " bytes, exceeding the " ++
            toString maxArtifactBytes ++
            "-byte per-artifact limit for an HTTP-triggered candidate replay"), total)
        else if u64Max < total + size then
          (fail "total hydrated byte counter overflowed", total)
        else if maxTotalHydratedBytes < total + size then
          -- The counter keeps what was charged.
          (fail ("total hydrated bytes for this replay would reach " ++ toString (total + size) ++
            ", exceeding the " ++ toString maxTotalHydratedBytes ++
            "-byte total budget for an HTTP-triggered candidate replay"), total + size)
        else ((readBoundedFromFd found.contents size maxArtifactBytes).mapError
          fun reason => ⟨a.locator, reason⟩, total + size)

def returned (total : Nat) : List (ArtifactRef × Found) → List (List UInt8)
  | [] => []
  | request :: later =>
      (resolve total request.1 request.2).1.toOption.toList ++
        returned (resolve total request.1 request.2).2 later

def NotGrown (found : Found) : Prop :=
  ∀ size ∈ found.size.toOption, ∀ bytes ∈ found.contents.toOption, bytes.length ≤ size

section Resolve

variable {total : Nat} {a : ArtifactRef} {found : Found} {bytes : List UInt8}

theorem readBoundedFromFd_ok {contents : Except String (List UInt8)} {size limit : Nat}
    (ok : readBoundedFromFd contents size limit = .ok bytes) :
    contents = .ok bytes ∧ bytes.length ≤ limit := by
  cases contents with
  | error e =>
      simp only [readBoundedFromFd, bind_ok_iff] at ok
      rcases ok with ⟨_, _, _, read, _⟩
      cases read
  | ok all =>
      simp only [readBoundedFromFd, bind_ok_iff, refuseIf_ok_iff, pure_ok_iff] at ok
      rcases ok with ⟨_, _, buf, read, _, short, rfl⟩
      have taken : all.take (limit + 1) = buf := Except.ok.inj read
      have whole : all.length ≤ limit := by
        rw [← taken, List.length_take] at short
        omega
      rw [List.take_of_length_le (whole.trans (Nat.le_succ limit))] at taken
      rw [← taken]
      exact ⟨rfl, whole⟩

theorem resolve_ok (ok : (resolve total a found).1 = .ok bytes) :
    confined a.locator = true ∧ ∃ size, found.size = .ok size ∧ found.contents = .ok bytes ∧
      bytes.length ≤ maxArtifactBytes ∧ (resolve total a found).2 = total + size ∧
      total + size ≤ maxTotalHydratedBytes := by
  rw [resolve] at ok ⊢
  split_ifs at ok ⊢ with outside
  refine ⟨(Bool.not_eq_false _).mp outside, ?_⟩
  cases opened : found.size with
  | error reason =>
      rw [opened] at ok
      cases ok
  | ok size =>
      simp only [opened] at ok ⊢
      split_ifs at ok ⊢ with large wraps exceeds
      cases read : readBoundedFromFd found.contents size maxArtifactBytes with
      | error reason =>
          rw [read] at ok
          cases ok
      | ok buf =>
          rw [read] at ok
          cases ok
          have held := readBoundedFromFd_ok read
          exact ⟨size, rfl, held.1, held.2, rfl, not_lt.mp exceeds⟩

theorem le_resolve : total ≤ (resolve total a found).2 := by
  rw [resolve]
  split_ifs
  · exact le_rfl
  · cases found.size with
    | error reason => exact le_rfl
    | ok size =>
        dsimp only
        split_ifs <;> omega

theorem resolve_within {size : Nat} (inside : confined a.locator = true)
    (opened : found.size = .ok size) (read : found.contents = .ok bytes)
    (small : size ≤ maxArtifactBytes) (short : bytes.length ≤ maxArtifactBytes)
    (room : total + size ≤ maxTotalHydratedBytes) :
    resolve total a found = (.ok bytes, total + size) := by
  have bounded : readBoundedFromFd found.contents size maxArtifactBytes = .ok bytes := by
    simp only [readBoundedFromFd, bind_ok_iff, refuseIf_ok_iff, pure_ok_iff, read]
    have taken : bytes.take (maxArtifactBytes + 1) = bytes :=
      List.take_of_length_le (short.trans (Nat.le_succ _))
    exact ⟨(), not_lt.mpr small, bytes, congrArg Except.ok taken, (), not_lt.mpr short, rfl⟩
  have unwrapped : ¬ u64Max < total + size := by
    rw [maxTotalHydratedBytes] at room
    rw [u64Max]
    omega
  rw [resolve, inside, opened, if_neg Bool.noConfusion]
  simp only [if_neg (not_lt.mpr small), if_neg unwrapped, if_neg (not_lt.mpr room), bounded]
  rfl

def unchanging (store : RunStore) (here : Location Char) (a : ArtifactRef) : Found :=
  let read :=
    (openBelow store.files here (names (parts a.locator.toList))).mapError FileTree.Errno.text
  ⟨read.map List.length, read⟩

theorem unchanging_notGrown (store : RunStore) (here : Location Char) (a : ArtifactRef) :
    NotGrown (unchanging store here a) := by
  intro size opened bytes read
  cases below : openBelow store.files here (names (parts a.locator.toList)) with
  | error e =>
      rw [unchanging, below] at read
      cases read
  | ok all =>
      rw [unchanging, below] at opened read
      cases opened
      cases read
      exact le_rfl

theorem resolve_spend {store : RunStore} {here : Location Char} {next : Nat} :
    spend (boundedRecordDirResolver store here) total a = .ok next ↔
      ∃ bytes, resolve total a (unchanging store here a) = (.ok bytes, next) := by
  constructor
  · intro spent
    simp only [spend, boundedRecordDirResolver, bind_ok_iff, refuseIf_ok_iff, pure_ok_iff,
      Bool.not_eq_false] at spent
    rcases spent with ⟨all, ⟨_, inside, bytes, read, _, short, same⟩, _, room, rfl⟩
    subst same
    have held : (unchanging store here a).contents = .ok bytes := by
      cases below : openBelow store.files here (names (parts a.locator.toList)) with
      | error e =>
          rw [below] at read
          cases read
      | ok whole =>
          rw [below] at read
          cases read
          rw [unchanging, below]
          rfl
    have size : (unchanging store here a).size = .ok bytes.length :=
      congrArg (Except.map List.length) held
    exact ⟨bytes, resolve_within inside size held (not_lt.mp short) (not_lt.mp short)
      (not_lt.mp room)⟩
  · rintro ⟨bytes, resolved⟩
    rcases resolve_ok (congrArg Prod.fst resolved) with
      ⟨inside, size, opened, read, short, charged, within⟩
    have same : size = bytes.length := by
      have mapped : (unchanging store here a).size = .ok bytes.length :=
        congrArg (Except.map List.length) read
      exact Except.ok.inj (opened.symm.trans mapped)
    rw [resolved] at charged
    subst same
    have answered : boundedRecordDirResolver store here a = .ok bytes := by
      cases below : openBelow store.files here (names (parts a.locator.toList)) with
      | error e =>
          rw [unchanging, below] at read
          cases read
      | ok whole =>
          rw [unchanging, below] at read
          cases read
          rw [boundedRecordDirResolver, inside, below]
          simp only [bind_ok_iff, refuseIf_ok_iff, pure_ok_iff]
          exact ⟨(), Bool.noConfusion, bytes, rfl, (), not_lt.mpr short, rfl⟩
    rw [spend, answered, ok_bind, bind_ok_iff]
    exact ⟨(), refuseIf_ok_iff.mpr (not_lt.mpr within), congrArg Except.ok charged.symm⟩

end Resolve

theorem returned_bounded (total : Nat) (requests : List (ArtifactRef × Found)) :
    ∀ bytes ∈ returned total requests, bytes.length ≤ maxArtifactBytes := by
  induction requests generalizing total with
  | nil => nofun
  | cons request later ih =>
      intro bytes member
      rw [returned, List.mem_append] at member
      rcases member with here | rest
      · cases answer : (resolve total request.1 request.2).1 with
        | error e =>
            rw [answer] at here
            cases here
        | ok read =>
            rw [answer] at here
            rcases List.mem_singleton.mp here with rfl
            rcases resolve_ok answer with ⟨_, _, _, _, short, _⟩
            exact short
      · exact ih _ bytes rest

theorem returned_left {requests : List (ArtifactRef × Found)}
    (still : ∀ request ∈ requests, NotGrown request.2) (total : Nat) :
    ((returned total requests).map List.length).sum ≤ maxTotalHydratedBytes - total := by
  induction requests generalizing total with
  | nil => exact Nat.zero_le _
  | cons request later ih =>
      rw [List.forall_mem_cons] at still
      have rest := ih still.2 (resolve total request.1 request.2).2
      rw [returned, List.map_append, List.sum_append]
      cases answer : (resolve total request.1 request.2).1 with
      | error e =>
          have risen : total ≤ (resolve total request.1 request.2).2 := le_resolve
          have none : ((Except.error e : Except ArtifactError (List UInt8)).toOption.toList.map
              List.length).sum = 0 := rfl
          omega
      | ok bytes =>
          rcases resolve_ok answer with ⟨_, size, opened, read, _, charged, within⟩
          have short : bytes.length ≤ size :=
            still.1 size (by rw [opened]; rfl) bytes (by rw [read]; rfl)
          have one : ((Except.ok bytes : Except ArtifactError (List UInt8)).toOption.toList.map
              List.length).sum = bytes.length := by
            simp [Except.toOption]
          omega

/-- One byte string is within the limit of an artifact; all of them are within the budget, where no
file grows between the size that is charged and the read. -/
theorem hydration_bounded (requests : List (ArtifactRef × Found)) :
    (∀ bytes ∈ returned 0 requests, bytes.length ≤ maxArtifactBytes) ∧
      ((∀ request ∈ requests, NotGrown request.2) →
        ((returned 0 requests).map List.length).sum ≤ maxTotalHydratedBytes) :=
  ⟨returned_bounded 0 requests, fun still => returned_left still 0⟩

def growing (bytes : List UInt8) : ArtifactRef × Found :=
  (⟨.gateLog, "log", ⟨String.ofList (List.replicate 64 '0'), by decide⟩⟩, ⟨.ok 0, .ok bytes⟩)

theorem returned_growing {bytes : List UInt8} (short : bytes.length ≤ maxArtifactBytes)
    (later : List (ArtifactRef × Found)) :
    returned 0 (growing bytes :: later) = bytes :: returned 0 later := by
  have opened : (growing bytes).2.size = .ok 0 := rfl
  have read : resolve 0 (growing bytes).1 (growing bytes).2 = (.ok bytes, 0) :=
    resolve_within (by decide : confined "log" = true) opened rfl (Nat.zero_le _) short
      (Nat.zero_le _)
  rw [returned, read]
  rfl

/-- Three files that grow to the limit of an artifact are half as much again as the budget. -/
theorem growing_exceeds : ∃ bytes : List UInt8, maxTotalHydratedBytes <
    ((returned 0 [growing bytes, growing bytes, growing bytes]).map List.length).sum := by
  have full : (List.replicate maxArtifactBytes (0 : UInt8)).length = maxArtifactBytes :=
    List.length_replicate
  generalize List.replicate maxArtifactBytes (0 : UInt8) = bytes at full
  refine ⟨bytes, ?_⟩
  rw [returned_growing full.le, returned_growing full.le, returned_growing full.le]
  simp only [returned, List.map_cons, List.map_nil, List.sum_cons, List.sum_nil, full]
  decide

def still (bytes : List UInt8) : ArtifactRef × Found :=
  ((growing bytes).1, ⟨.ok bytes.length, .ok bytes⟩)

theorem still_notGrown (bytes : List UInt8) : NotGrown (still bytes).2 := by
  intro size opened held read
  cases opened
  cases read
  exact le_rfl

theorem returned_still {total : Nat} {bytes : List UInt8} (short : bytes.length ≤ maxArtifactBytes)
    (room : total + bytes.length ≤ maxTotalHydratedBytes) (later : List (ArtifactRef × Found)) :
    returned total (still bytes :: later) = bytes :: returned (total + bytes.length) later := by
  have read : resolve total (still bytes).1 (still bytes).2 =
      (.ok bytes, total + bytes.length) :=
    resolve_within (by decide : confined "log" = true) rfl rfl short short room
  rw [returned, read]
  rfl

theorem hydration_bounded_unchanging :
    returned 0 [still [102, 97, 105, 108], growing [], still [111, 107]] =
      [[102, 97, 105, 108], [], [111, 107]] ∧
    ((returned 0 [still [102, 97, 105, 108], growing [], still [111, 107]]).map List.length).sum ≤
      maxTotalHydratedBytes := by
  constructor
  · have nothing : growing [] = still [] := rfl
    rw [nothing, returned_still (by decide) (by decide), returned_still (by decide) (by decide),
      returned_still (by decide) (by decide)]
    rfl
  · apply (hydration_bounded _).2
    rw [List.forall_mem_cons, List.forall_mem_cons, List.forall_mem_singleton]
    exact ⟨still_notGrown _, still_notGrown [], still_notGrown _⟩

end O7Formal.Dispatch
