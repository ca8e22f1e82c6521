import Mathlib.Tactic

/-! Encoders that can be read back from the front of any longer text.

An encoder `Decodes` on a set of values when no text starts with the code of two
of them and the code never swallows part of what follows. The rules below build
such encoders out of fixed-width fields, tags, counted lists and optional fields;
nothing here depends on what the symbols are. -/

namespace O7Formal.PrefixCode

variable {α β σ : Type*}

/-- Two codes followed by arbitrary continuations agree only if both the values and
the continuations agree. -/
def Decodes (valid : α → Prop) (enc : α → List σ) : Prop :=
  ∀ ⦃a b : α⦄ ⦃r t : List σ⦄, valid a → valid b → enc a ++ r = enc b ++ t → a = b ∧ r = t

theorem Decodes.injOn {valid : α → Prop} {enc : α → List σ} (code : Decodes valid enc)
    {a b : α} (validA : valid a) (validB : valid b) (same : enc a = enc b) : a = b := by
  have extended : enc a ++ [] = enc b ++ [] := by rw [same]
  exact (code validA validB extended).1

theorem decodes_of_width {valid : α → Prop} {enc : α → List σ} (width : Nat)
    (constant : ∀ a, (enc a).length = width)
    (separates : ∀ a b, valid a → valid b → enc a = enc b → a = b) : Decodes valid enc := by
  intro a b r t validA validB same
  have split := List.append_inj same (by rw [constant a, constant b])
  exact ⟨separates a b validA validB split.1, split.2⟩

theorem decodes_tag (tag : α → σ) (separates : Function.Injective tag) :
    Decodes (fun _ : α => True) (fun a => [tag a]) := by
  apply decodes_of_width 1
  · intro a
    rfl
  · intro a b _ _ same
    exact separates (List.singleton_inj.mp same)

theorem Decodes.flatMap {valid : α → Prop} {enc : α → List σ} (code : Decodes valid enc) :
    ∀ (xs ys : List α) (r t : List σ), (∀ x ∈ xs, valid x) → (∀ y ∈ ys, valid y) →
      xs.length = ys.length → xs.flatMap enc ++ r = ys.flatMap enc ++ t → xs = ys ∧ r = t := by
  intro xs
  induction xs with
  | nil =>
      intro ys r t _ _ count same
      have empty : ys = [] := List.length_eq_zero_iff.mp count.symm
      subst empty
      exact ⟨rfl, by simpa using same⟩
  | cons x xs ih =>
      intro ys r t validX validY count same
      cases ys with
      | nil => simp at count
      | cons y ys =>
          simp only [List.flatMap_cons, List.append_assoc] at same
          obtain ⟨rfl, rest⟩ :=
            code (validX x List.mem_cons_self) (validY y List.mem_cons_self) same
          obtain ⟨rfl, tail⟩ := ih ys r t
            (by intro z member; exact validX z (List.mem_cons_of_mem _ member))
            (by intro z member; exact validY z (List.mem_cons_of_mem _ member))
            (by simpa using count) rest
          exact ⟨rfl, tail⟩

theorem Decodes.counted {valid : α → Prop} {enc : α → List σ} (code : Decodes valid enc)
    {countable : Nat → Prop} {encCount : Nat → List σ} (counts : Decodes countable encCount) :
    Decodes (fun xs : List α => countable xs.length ∧ ∀ x ∈ xs, valid x)
      (fun xs => encCount xs.length ++ xs.flatMap enc) := by
  intro xs ys r t validX validY same
  simp only [List.append_assoc] at same
  obtain ⟨count, rest⟩ := counts validX.1 validY.1 same
  exact code.flatMap xs ys r t validX.2 validY.2 count rest

def encOption (absent : σ) (present : σ) (enc : α → List σ) : Option α → List σ
  | none => [absent]
  | some a => present :: enc a

theorem Decodes.option {valid : α → Prop} {enc : α → List σ} (code : Decodes valid enc)
    {absent present : σ} (differ : absent ≠ present) :
    Decodes (fun o : Option α => ∀ a ∈ o, valid a) (encOption absent present enc) := by
  intro o p r t validO validP same
  cases o with
  | none =>
      cases p with
      | none => exact ⟨rfl, by simpa [encOption] using same⟩
      | some b => simp [encOption, differ] at same
  | some a =>
      cases p with
      | none => simp [encOption, differ.symm] at same
      | some b =>
          simp only [encOption, List.cons_append, List.cons.injEq, true_and] at same
          obtain ⟨rfl, rest⟩ := code (validO a rfl) (validP b rfl) same
          exact ⟨rfl, rest⟩

end O7Formal.PrefixCode
