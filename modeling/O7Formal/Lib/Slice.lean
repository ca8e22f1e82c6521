import Mathlib.Data.List.Lex
import O7Formal.Lib.ByteCodec

/-! Vectors and slices of machine memory: lists whose length a signed 64-bit size counts, with their
framed codes. -/

namespace O7Formal

open ByteCodec PrefixCode

/-- A vector holds fewer than `2 ^ 63` elements. -/
@[ext]
structure Slice (α : Type) where
  toList : List α
  bounded : toList.length < 2 ^ 63
  deriving DecidableEq

namespace Slice

variable {α : Type}

def nil : Slice α := ⟨[], by norm_num⟩

def map {β : Type} (f : α → β) (xs : Slice α) : Slice β :=
  ⟨xs.toList.map f, by rw [List.length_map]; exact xs.bounded⟩

/-- One element more; a vector that is full cannot take it. -/
def push (xs : Slice α) (x : α) : Option (Slice α) :=
  if bounded : (xs.toList ++ [x]).length < 2 ^ 63 then some ⟨xs.toList ++ [x], bounded⟩ else none

theorem short (xs : Slice α) : xs.toList.length < 2 ^ 64 := xs.bounded.trans (by norm_num)

theorem push_of_append {xs ys : Slice α} {x : α} {rest : List α}
    (whole : ys.toList = xs.toList ++ x :: rest) :
    ∃ zs, xs.push x = some zs ∧ ys.toList = zs.toList ++ rest := by
  have bounded := ys.bounded
  rw [whole, List.length_append, List.length_cons] at bounded
  have room : (xs.toList ++ [x]).length < 2 ^ 63 := by
    rw [List.length_append, List.length_singleton]
    omega
  exact ⟨_, dif_pos room, by rw [whole, List.append_assoc, List.singleton_append]⟩

end Slice

/-- A byte string, as an `OsString`, a path or a `Vec<u8>` holds it. -/
abbrev Bytes := Slice UInt8

namespace Bytes

def ranks (bytes : Bytes) : List Nat := bytes.toList.map UInt8.toNat

theorem ranks_injective : Function.Injective ranks := by
  intro a b same
  exact Slice.ext (List.map_injective_iff.mpr (fun _ _ => UInt8.toNat_inj.mp) same)

/-- Byte strings are ordered as their bytes are, the first one first. -/
instance : LinearOrder Bytes := LinearOrder.lift' ranks ranks_injective

end Bytes

def Bytes.isAbsolute (path : Bytes) : Bool := path.toList.head? = some 0x2f

def Bytes.ofText (s : String) (short : (utf8Bytes s).length < 2 ^ 63) : Bytes := ⟨utf8Bytes s, short⟩

/-- A duration of nanoseconds, whose whole seconds are counted in 64 bits. -/
@[ext]
structure StdDuration where
  nanos : Nat
  bounded : nanos < 2 ^ 64 * 1000000000
  deriving DecidableEq

theorem decodes_frame_bytes : Decodes (fun _ : Bytes => True) (fun bytes => frame bytes.toList) := by
  intro a b r t _ _ same
  rcases decodes_frame a.short b.short same with ⟨bytes, rest⟩
  exact ⟨Slice.ext bytes, rest⟩

theorem decodes_frame_u64 :
    Decodes (fun _ : UInt64 => True) (fun n => frame (leBytes 8 n.toNat)) := by
  intro m n r t _ _ same
  have wide : (256 : Nat) ^ 8 = 2 ^ 64 := by norm_num
  rcases decodes_frame_leBytes 8 (by norm_num) (wide ▸ m.toNat_lt) (wide ▸ n.toNat_lt) same with
    ⟨word, rest⟩
  exact ⟨UInt64.toNat_inj.mp word, rest⟩

theorem decodes_frame_counted {α : Type} {enc : α → List UInt8}
    (code : Decodes (fun _ => True) enc) : Decodes (fun _ : Slice α => True)
      (fun xs => frame (leBytes 8 xs.toList.length) ++ xs.toList.flatMap enc) := by
  intro xs ys r t _ _ same
  have wide : (256 : Nat) ^ 8 = 2 ^ 64 := by norm_num
  have counts : Decodes (fun n => n < 2 ^ 64) (fun n => frame (leBytes 8 n)) := by
    rw [← wide]
    exact decodes_frame_leBytes 8 (by norm_num)
  rcases code.counted counts ⟨xs.short, fun _ _ => trivial⟩ ⟨ys.short, fun _ _ => trivial⟩ same with
    ⟨elements, rest⟩
  exact ⟨Slice.ext elements, rest⟩

end O7Formal
