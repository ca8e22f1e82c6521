import Mathlib.Data.List.Sort
import O7Formal.Lib.Slice
import O7Formal.Lib.Sha256

/-! Canonical codes of sets and finite maps: their elements in order, each behind its length. -/

namespace O7Formal

open ByteCodec PrefixCode
open Sha2 (beBytes)

section Sorting

variable {α : Type} [LinearOrder α] {xs ys : List α}

theorem sort_eq_iff_perm :
    xs.insertionSort (· ≤ ·) = ys.insertionSort (· ≤ ·) ↔ xs.Perm ys := by
  constructor
  · intro same
    exact (List.perm_insertionSort _ xs).symm.trans (same ▸ List.perm_insertionSort _ ys)
  · intro perm
    apply @List.Perm.eq_of_pairwise _ (· ≤ ·)
    · exact fun a b _ _ first second => le_antisymm first second
    · exact List.pairwise_insertionSort _ xs
    · exact List.pairwise_insertionSort _ ys
    · exact (List.perm_insertionSort _ xs).trans (perm.trans (List.perm_insertionSort _ ys).symm)

theorem sort_eq_iff_same (distinctX : xs.Nodup) (distinctY : ys.Nodup) :
    xs.insertionSort (· ≤ ·) = ys.insertionSort (· ≤ ·) ↔ ∀ a, a ∈ xs ↔ a ∈ ys :=
  sort_eq_iff_perm.trans (List.perm_ext_iff_of_nodup distinctX distinctY)

end Sorting

section Maps

variable {κ ν : Type} [DecidableEq κ] {xs ys : List (κ × ν)}

def valueOf (xs : List (κ × ν)) (key : κ) : Option ν :=
  (xs.find? fun entry => decide (entry.1 = key)).map Prod.snd

theorem valueOf_iff (distinct : (xs.map Prod.fst).Nodup) (key : κ) (value : ν) :
    valueOf xs key = some value ↔ (key, value) ∈ xs := by
  constructor
  · intro found
    rcases Option.map_eq_some_iff.mp found with ⟨⟨key', value'⟩, entry, same⟩
    have named := List.find?_some entry
    rw [decide_eq_true_eq] at named
    cases named
    cases same
    exact List.mem_of_find?_eq_some entry
  · intro member
    cases found : xs.find? fun entry => decide (entry.1 = key) with
    | none =>
        have missed := List.find?_eq_none.mp found (key, value) member
        exact absurd (decide_eq_true rfl) missed
    | some entry =>
        have named := List.find?_some found
        rw [decide_eq_true_eq] at named
        have same : entry = (key, value) :=
          List.inj_on_of_nodup_map distinct (List.mem_of_find?_eq_some found) member named
        rw [valueOf, found, same]
        rfl

theorem same_map_iff (distinctX : (xs.map Prod.fst).Nodup) (distinctY : (ys.map Prod.fst).Nodup) :
    (∀ key, valueOf xs key = valueOf ys key) ↔ ∀ entry, entry ∈ xs ↔ entry ∈ ys := by
  constructor
  · intro same entry
    rw [← valueOf_iff distinctX entry.1 entry.2, ← valueOf_iff distinctY entry.1 entry.2,
      same entry.1]
  · intro same key
    apply Option.ext
    intro value
    rw [valueOf_iff distinctX, valueOf_iff distinctY]
    exact same (key, value)

end Maps

theorem length_beBytes (width n : Nat) : (beBytes width n).length = width := by
  rw [beBytes, List.length_reverse, leBytes_length]

theorem decodes_beBytes (width : Nat) : Decodes (fun n => n < 256 ^ width) (beBytes width) := by
  apply decodes_of_width width (length_beBytes width)
  intro m n small small' same
  exact (decodes_leBytes width).injOn small small' (List.reverse_injective same)

def pushLen (n : Nat) : List UInt8 := beBytes 8 n

def pushBytes (bytes : List UInt8) : List UInt8 := pushLen bytes.length ++ bytes

theorem decodes_pushLen : Decodes (fun n => n < 2 ^ 64) pushLen := by
  have wide : (256 : Nat) ^ 8 = 2 ^ 64 := by norm_num
  rw [← wide]
  exact decodes_beBytes 8

theorem decodes_pushShort : Decodes (fun bytes : List UInt8 => bytes.length < 2 ^ 64) pushBytes := by
  intro a b r t shortA shortB same
  rw [pushBytes, pushBytes, List.append_assoc, List.append_assoc] at same
  rcases decodes_pushLen shortA shortB same with ⟨length, rest⟩
  exact List.append_inj rest length

theorem decodes_pushBytes : Decodes (fun _ : Bytes => True) (fun bytes => pushBytes bytes.toList) := by
  intro a b r t _ _ same
  rcases decodes_pushShort a.short b.short same with ⟨bytes, rest⟩
  exact ⟨Slice.ext bytes, rest⟩

def pushList {α : Type} (enc : α → List UInt8) (xs : List α) : List UInt8 :=
  pushLen xs.length ++ xs.flatMap enc

theorem decodes_pushList {α : Type} {enc : α → List UInt8} (code : Decodes (fun _ => True) enc) :
    Decodes (fun xs : List α => xs.length < 2 ^ 64) (pushList enc) := by
  intro xs ys r t shortX shortY same
  exact code.counted decodes_pushLen ⟨shortX, fun _ _ => trivial⟩ ⟨shortY, fun _ _ => trivial⟩ same

end O7Formal
