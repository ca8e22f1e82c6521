import O7Formal.Lib.Fallible

/-! Computations that read a store which may grow. A stable one keeps every answer it has given:
a failure may turn into a success, and a success never changes. -/

namespace O7Formal.Fallible

universe u

variable {σ : Type*} [Preorder σ] {ε : Type*} {α β : Type u}

def Kept {α : Type*} (read : σ → Option α) : Prop :=
  ∀ ⦃s s' : σ⦄, s ≤ s' → ∀ a, read s = some a → read s' = some a

def Stable {α : Type*} (f : σ → Except ε α) : Prop :=
  ∀ ⦃s s' : σ⦄, s ≤ s' → ∀ a, f s = .ok a → f s' = .ok a

theorem stable_const (x : Except ε α) : Stable fun _ : σ => x := by
  intro s s' _ a ok
  exact ok

theorem stable_okOr {read : σ → Option α} (kept : Kept read) (e : ε) :
    Stable fun s => okOr (read s) e := by
  intro s s' grown a ok
  exact okOr_ok_iff.mpr (kept grown a (okOr_ok_iff.mp ok))

theorem stable_refuseIf_none {α : Type*} [DecidableEq α] {read : σ → Option α} (kept : Kept read)
    (e : ε) : Stable fun s => refuseIf (read s = none) e := by
  intro s s' grown u ok
  rcases Option.ne_none_iff_exists'.mp (refuseIf_ok_iff.mp ok) with ⟨a, held⟩
  refine refuseIf_ok_iff.mpr ?_
  rw [kept grown a held]
  exact Option.some_ne_none a

theorem stable_bind {f : σ → Except ε α} {g : σ → α → Except ε β} (first : Stable f)
    (second : ∀ a, Stable fun s => g s a) : Stable fun s => f s >>= g s := by
  intro s s' grown b ok
  rcases bind_ok_iff.mp ok with ⟨a, here, rest⟩
  exact bind_ok_iff.mpr ⟨a, first grown a here, second a grown b rest⟩

theorem stable_mapError {ε' : Type*} {f : σ → Except ε α} (stable : Stable f) (g : ε → ε') :
    Stable fun s => (f s).mapError g := by
  intro s s' grown a ok
  exact mapError_ok_iff.mpr (stable grown a (mapError_ok_iff.mp ok))

theorem stable_mapM {ι : Type*} {f : σ → ι → Except ε α} (each : ∀ x, Stable fun s => f s x)
    (xs : List ι) : Stable fun s => xs.mapM (f s) := by
  intro s s' grown ys ok
  exact mapM_ok_iff.mpr ((mapM_ok_iff.mp ok).imp fun x y here => each x grown y here)

end O7Formal.Fallible
