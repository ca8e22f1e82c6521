import O7Formal.Lib.ByteCodec

/-! SHA-256 of FIPS 180-4, on 32-bit words held as natural numbers. -/

namespace O7Formal.Sha2

open ByteCodec

def word (n : Nat) : Nat := n % 2 ^ 32

def rotr (count x : Nat) : Nat := (x >>> count) ||| word (x <<< (32 - count))

def ch (e f g : Nat) : Nat := (e &&& f) ^^^ ((2 ^ 32 - 1 - e) &&& g)

def maj (a b c : Nat) : Nat := (a &&& b) ^^^ (a &&& c) ^^^ (b &&& c)

def bigSigma0 (x : Nat) : Nat := rotr 2 x ^^^ rotr 13 x ^^^ rotr 22 x

def bigSigma1 (x : Nat) : Nat := rotr 6 x ^^^ rotr 11 x ^^^ rotr 25 x

def smallSigma0 (x : Nat) : Nat := rotr 7 x ^^^ rotr 18 x ^^^ (x >>> 3)

def smallSigma1 (x : Nat) : Nat := rotr 17 x ^^^ rotr 19 x ^^^ (x >>> 10)

def roundConstants : List Nat :=
  [0x428a2f98, 0x71374491, 0xb5c0fbcf, 0xe9b5dba5, 0x3956c25b, 0x59f111f1, 0x923f82a4, 0xab1c5ed5,
   0xd807aa98, 0x12835b01, 0x243185be, 0x550c7dc3, 0x72be5d74, 0x80deb1fe, 0x9bdc06a7, 0xc19bf174,
   0xe49b69c1, 0xefbe4786, 0x0fc19dc6, 0x240ca1cc, 0x2de92c6f, 0x4a7484aa, 0x5cb0a9dc, 0x76f988da,
   0x983e5152, 0xa831c66d, 0xb00327c8, 0xbf597fc7, 0xc6e00bf3, 0xd5a79147, 0x06ca6351, 0x14292967,
   0x27b70a85, 0x2e1b2138, 0x4d2c6dfc, 0x53380d13, 0x650a7354, 0x766a0abb, 0x81c2c92e, 0x92722c85,
   0xa2bfe8a1, 0xa81a664b, 0xc24b8b70, 0xc76c51a3, 0xd192e819, 0xd6990624, 0xf40e3585, 0x106aa070,
   0x19a4c116, 0x1e376c08, 0x2748774c, 0x34b0bcb5, 0x391c0cb3, 0x4ed8aa4a, 0x5b9cca4f, 0x682e6ff3,
   0x748f82ee, 0x78a5636f, 0x84c87814, 0x8cc70208, 0x90befffa, 0xa4506ceb, 0xbef9a3f7, 0xc67178f2]

structure Working where
  a : Nat
  b : Nat
  c : Nat
  d : Nat
  e : Nat
  f : Nat
  g : Nat
  h : Nat
  deriving DecidableEq, Repr

def initialHash : Working :=
  ⟨0x6a09e667, 0xbb67ae85, 0x3c6ef372, 0xa54ff53a, 0x510e527f, 0x9b05688c, 0x1f83d9ab, 0x5be0cd19⟩

def round (v : Working) (k w : Nat) : Working :=
  let t1 := v.h + bigSigma1 v.e + ch v.e v.f v.g + k + w
  let t2 := bigSigma0 v.a + maj v.a v.b v.c
  ⟨word (t1 + t2), v.a, v.b, v.c, word (v.d + t1), v.e, v.f, v.g⟩

def schedule : Nat → List Nat → List Nat
  | 0, _ => []
  | _ + 1, [] => []
  | n + 1, w :: window =>
      let next := word (smallSigma1 (window.getD 13 0) + window.getD 8 0 +
        smallSigma0 (window.getD 0 0) + w)
      w :: schedule n (window ++ [next])

def rounds (v : Working) : List Nat → List Nat → Working
  | k :: ks, w :: ws => rounds (round v k w) ks ws
  | _, _ => v

def compress (v : Working) (block : List Nat) : Working :=
  let r := rounds v roundConstants (schedule 64 block)
  ⟨word (v.a + r.a), word (v.b + r.b), word (v.c + r.c), word (v.d + r.d),
   word (v.e + r.e), word (v.f + r.f), word (v.g + r.g), word (v.h + r.h)⟩

def beBytes (width n : Nat) : List UInt8 := (leBytes width n).reverse

/-- The message, a one bit, zeros to a whole block, and the length in bits. -/
def pad (message : List UInt8) : List UInt8 :=
  message ++ [0x80] ++ List.replicate ((119 - message.length % 64) % 64) 0 ++
    beBytes 8 (8 * message.length)

def words : List UInt8 → List Nat
  | a :: b :: c :: d :: rest =>
      (((a.toNat * 256 + b.toNat) * 256 + c.toNat) * 256 + d.toNat) :: words rest
  | _ => []

def absorb : Nat → List Nat → Working → Working
  | 0, _, v => v
  | blocks + 1, ws, v => absorb blocks (ws.drop 16) (compress v (ws.take 16))

def output (v : Working) : List UInt8 :=
  [v.a, v.b, v.c, v.d, v.e, v.f, v.g, v.h].flatMap (beBytes 4)

def sha256 (message : List UInt8) : List UInt8 :=
  let padded := pad message
  output (absorb (padded.length / 64) (words padded) initialHash)

theorem sha256_length (message : List UInt8) : (sha256 message).length = 32 := by
  simp [sha256, output, beBytes]

def low (n : Nat) : Nat := Nat.mod n 4294967296

def turn (right left x : Nat) : Nat := Nat.lor (Nat.shiftRight x right) (low (Nat.shiftLeft x left))

def mixSmall0 (x : Nat) : Nat :=
  Nat.xor (Nat.xor (turn 7 25 x) (turn 18 14 x)) (Nat.shiftRight x 3)

def mixSmall1 (x : Nat) : Nat :=
  Nat.xor (Nat.xor (turn 17 15 x) (turn 19 13 x)) (Nat.shiftRight x 10)

def mixBig0 (x : Nat) : Nat := Nat.xor (Nat.xor (turn 2 30 x) (turn 13 19 x)) (turn 22 10 x)

def mixBig1 (x : Nat) : Nat := Nat.xor (Nat.xor (turn 6 26 x) (turn 11 21 x)) (turn 25 7 x)

def choose (e f g : Nat) : Nat := Nat.xor (Nat.land e f) (Nat.land (Nat.sub 4294967295 e) g)

def majority (a b c : Nat) : Nat := Nat.xor (Nat.xor (Nat.land a b) (Nat.land a c)) (Nat.land b c)

/-- The schedule and the rounds in one pass over the constants, by the recursor itself: each step is
one reduction, and no list of words is built. -/
noncomputable def quickRounds (ks : List Nat) : Nat → Nat → Nat → Nat → Nat → Nat → Nat → Nat →
    Nat → Nat → Nat → Nat → Nat → Nat → Nat → Nat → Nat → Nat → Nat → Nat → Nat → Nat → Nat → Nat →
    Working :=
  ks.rec (fun a b c d e f g h _ _ _ _ _ _ _ _ _ _ _ _ _ _ _ _ => ⟨a, b, c, d, e, f, g, h⟩)
    fun k _ next a b c d e f g h x0 x1 x2 x3 x4 x5 x6 x7 x8 x9 x10 x11 x12 x13 x14 x15 =>
      strictly (low (Nat.add (Nat.add (Nat.add (mixSmall1 x14) x9) (mixSmall0 x1)) x0)) fun w =>
        strictly (Nat.add (Nat.add (Nat.add (Nat.add h (mixBig1 e)) (choose e f g)) k) x0) fun t1 =>
          strictly (low (Nat.add t1 (Nat.add (mixBig0 a) (majority a b c)))) fun first =>
            strictly (low (Nat.add d t1)) fun fifth =>
              next first a b c fifth e f g x1 x2 x3 x4 x5 x6 x7 x8 x9 x10 x11 x12 x13 x14 x15 w

theorem quickRounds_eq (ks : List Nat)
    (a b c d e f g h x0 x1 x2 x3 x4 x5 x6 x7 x8 x9 x10 x11 x12 x13 x14 x15 : Nat) :
    quickRounds ks a b c d e f g h x0 x1 x2 x3 x4 x5 x6 x7 x8 x9 x10 x11 x12 x13 x14 x15 =
      rounds ⟨a, b, c, d, e, f, g, h⟩ ks
        (schedule ks.length [x0, x1, x2, x3, x4, x5, x6, x7, x8, x9, x10, x11, x12, x13, x14, x15]) := by
  induction ks generalizing a b c d e f g h x0 x1 x2 x3 x4 x5 x6 x7 x8 x9 x10 x11 x12 x13 x14 x15 with
  | nil => rfl
  | cons k ks ih =>
      rw [List.length_cons, schedule, rounds]
      refine Eq.trans ?_ (ih ..)
      simp only [quickRounds, strictly_eq]
      rfl

noncomputable def quickCompress (v : Working) : List Nat → Working
  | [x0, x1, x2, x3, x4, x5, x6, x7, x8, x9, x10, x11, x12, x13, x14, x15] =>
      let r := quickRounds roundConstants v.a v.b v.c v.d v.e v.f v.g v.h
        x0 x1 x2 x3 x4 x5 x6 x7 x8 x9 x10 x11 x12 x13 x14 x15
      ⟨low (Nat.add v.a r.a), low (Nat.add v.b r.b), low (Nat.add v.c r.c), low (Nat.add v.d r.d),
        low (Nat.add v.e r.e), low (Nat.add v.f r.f), low (Nat.add v.g r.g), low (Nat.add v.h r.h)⟩
  | block => compress v block

theorem quickCompress_eq (v : Working) (block : List Nat) :
    quickCompress v block = compress v block := by
  unfold quickCompress
  split
  · rw [quickRounds_eq]
    rfl
  · rfl

def Working.strictly {α : Type} (v : Working) (next : Working → α) : α :=
  ByteCodec.strictly v.a fun a => ByteCodec.strictly v.b fun b => ByteCodec.strictly v.c fun c =>
    ByteCodec.strictly v.d fun d => ByteCodec.strictly v.e fun e => ByteCodec.strictly v.f fun f =>
      ByteCodec.strictly v.g fun g => ByteCodec.strictly v.h fun h => next ⟨a, b, c, d, e, f, g, h⟩

noncomputable def quickAbsorb : Nat → List Nat → Working → Working
  | 0, _, v => v
  | blocks + 1, ws, v =>
      (quickCompress v (ws.take 16)).strictly fun v => quickAbsorb blocks (ws.drop 16) v

theorem quickAbsorb_eq (blocks : Nat) (ws : List Nat) (v : Working) :
    quickAbsorb blocks ws v = absorb blocks ws v := by
  induction blocks generalizing ws v with
  | zero => rfl
  | succ blocks ih =>
      simp only [quickAbsorb, Working.strictly, strictly_eq, ih, quickCompress_eq]
      rfl

def quickWords {α : Type} : List UInt8 → (List Nat → α) → α
  | a :: b :: c :: d :: rest, next =>
      strictly (Nat.add (Nat.mul (Nat.add (Nat.mul (Nat.add (Nat.mul a.toNat 256) b.toNat) 256)
        c.toNat) 256) d.toNat) fun w => quickWords rest fun ws => next (w :: ws)
  | _, next => next []

theorem quickWords_eq {α : Type} (bytes : List UInt8) (next : List Nat → α) :
    quickWords bytes next = next (words bytes) := by
  induction bytes using words.induct generalizing next with
  | case1 a b c d rest ih =>
      rw [quickWords, strictly_eq, ih, words]
      rfl
  | case2 bytes short => rw [quickWords, words] <;> exact short

noncomputable def quickSha256 (message : List UInt8) : List UInt8 :=
  let padded := pad message
  quickWords padded fun ws => output (quickAbsorb (padded.length / 64) ws initialHash)

theorem sha256_eq_quick (message : List UInt8) : sha256 message = quickSha256 message := by
  rw [quickSha256, quickWords_eq, quickAbsorb_eq]
  rfl

example : hexLower (sha256 (utf8Bytes "abc")) =
    "ba7816bf8f01cfea414140de5dae2223b00361a396177a9cb410ff61f20015ad" := by
  rw [sha256_eq_quick]
  decide +kernel

end O7Formal.Sha2
