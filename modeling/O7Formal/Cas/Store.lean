import O7Formal.Contracts.Inbound

/-! The in-memory owned store. Payloads are kept under the digest of their content and
envelopes under their framed digest, in one keyspace. -/

namespace O7Formal.Cas

open Contracts ByteCodec Run

/-- `Vec<u8>`: never longer than `isize::MAX`. -/
structure Bytes where
  data : List UInt8
  fits : data.length < 2 ^ 63
  deriving DecidableEq

theorem Bytes.data_injective : Function.Injective Bytes.data := by
  intro a b same
  cases a
  cases b
  simp_all

def Bytes.len (b : Bytes) : Nat := b.data.length

def digestOf (sha256 : Sha256) (b : Bytes) : WireDigest := .ofBytes sha256 b.data

/-- `u64::saturating_add` -/
def saturatingAdd64 (a b : Nat) : Nat := min (a + b) (2 ^ 64 - 1)

def refSize (envelopeBytes payloadBytes : Nat) : Nat := saturatingAdd64 envelopeBytes payloadBytes

theorem refSize_exact (a b : Bytes) : refSize a.len b.len = a.len + b.len := by
  have := a.fits
  have := b.fits
  unfold refSize saturatingAdd64 Bytes.len
  omega

inductive PutError where
  | payloadNotBound
  | encoding (source : EnvelopeError)
  deriving DecidableEq, Repr

structure MemoryStore where
  objects : WireDigest → Option Bytes

namespace MemoryStore

def new : MemoryStore := ⟨fun _ => none⟩

def get (s : MemoryStore) (digest : WireDigest) : Option Bytes := s.objects digest

/-- `HashMap::insert` -/
def insert (s : MemoryStore) (key : WireDigest) (b : Bytes) : MemoryStore :=
  ⟨Function.update s.objects key (some b)⟩

/-- `entry(key).or_insert(b)` -/
def orInsert (s : MemoryStore) (key : WireDigest) (b : Bytes) : MemoryStore :=
  match s.objects key with
  | some _ => s
  | none => s.insert key b

variable (sha256 : Sha256)

def put (s : MemoryStore) (b : Bytes) : WireDigest × MemoryStore :=
  (digestOf sha256 b, s.insert (digestOf sha256 b) b)

def wireBytes (e : EnvelopeV1) : Except EnvelopeError Bytes :=
  match encoded : e.toWireBytes with
  | .ok bytes => .ok ⟨bytes, lt_of_le_of_lt (EnvelopeRecord.encode_ok_iff.mp encoded).2 (by decide)⟩
  | .error failure => .error failure

def putEnvelope (s : MemoryStore) (e : EnvelopeV1) (payload : Bytes) :
    Except PutError ((WireDigest × Nat) × MemoryStore) :=
  if e.bindsPayload sha256 payload.data then
    match wireBytes e with
    | .error failure => .error (.encoding failure)
    | .ok envelopeBytes =>
        let framed := e.framedDigest sha256
        let stored := (s.orInsert e.fields.payloadDigest payload).orInsert framed envelopeBytes
        let storedEnvelopeLen := ((stored.get framed).map Bytes.len).getD 0
        .ok ((framed, refSize storedEnvelopeLen payload.len), stored)
  else .error .payloadNotBound

inductive Write where
  | put (b : Bytes)
  | putEnvelope (e : EnvelopeV1) (payload : Bytes)

inductive Reply where
  | key (digest : WireDigest)
  | placed (digest : WireDigest) (size : Nat)
  | refused (error : PutError)
  deriving DecidableEq

def step (s : MemoryStore) : Write → Reply × MemoryStore
  | .put b => ((.key (s.put sha256 b).1), (s.put sha256 b).2)
  | .putEnvelope e payload =>
      match s.putEnvelope sha256 e payload with
      | .ok (placed, stored) => (.placed placed.1 placed.2, stored)
      | .error failure => (.refused failure, s)

def run (writes : List Write) : MemoryStore :=
  writes.foldl (fun s w => (s.step sha256 w).2) new

def Write.content : Write → Bytes
  | .put b => b
  | .putEnvelope _ payload => payload

def Write.envelope : Write → Option EnvelopeV1
  | .put _ => none
  | .putEnvelope e _ => some e

def Write.Bound : Write → Prop
  | .put _ => True
  | .putEnvelope e payload => e.bindsPayload sha256 payload.data = true

def Write.hashed (w : Write) : List (List UInt8) :=
  w.content.data :: w.envelope.toList.map fun e => e.fields.framedPreimage

def CollisionFree (writes : List Write) : Prop :=
  ∀ a ∈ writes.flatMap Write.hashed, ∀ b ∈ writes.flatMap Write.hashed,
    Digest256.ofBytes sha256 a = .ofBytes sha256 b → a = b

/-- No byte string that is stored under its own digest is the preimage of an envelope that is
stored as well. -/
def Apart (writes : List Write) : Prop :=
  ∀ w ∈ writes, w.Bound sha256 → ∀ v ∈ writes, v.Bound sha256 → ∀ e ∈ v.envelope,
    w.content.data ≠ e.fields.framedPreimage

theorem Write.content_hashed (w : Write) : w.content.data ∈ w.hashed := by
  simp [Write.hashed]

theorem Write.preimage_hashed (w : Write) {e : EnvelopeV1} (carries : e ∈ w.envelope) :
    e.fields.framedPreimage ∈ w.hashed := by
  rw [Write.hashed, Option.mem_def.mp carries]
  simp

theorem run_append (before after : List Write) :
    run sha256 (before ++ after) =
      after.foldl (fun s w => (s.step sha256 w).2) (run sha256 before) := by
  rw [run, List.foldl_append]
  rfl

theorem run_snoc (before : List Write) (w : Write) :
    run sha256 (before ++ [w]) = ((run sha256 before).step sha256 w).2 := by
  rw [run_append]
  rfl

variable {sha256}

theorem insert_objects (s : MemoryStore) (key k : WireDigest) (b : Bytes) :
    (s.insert key b).objects k = if k = key then some b else s.objects k :=
  Function.update_apply s.objects key (some b) k

theorem orInsert_objects (s : MemoryStore) (key k : WireDigest) (b : Bytes) :
    (s.orInsert key b).objects k = if k = key then some ((s.objects k).getD b) else s.objects k := by
  unfold orInsert
  by_cases same : k = key
  · subst same
    cases held : s.objects k with
    | none => simp [insert_objects]
    | some c => simp [held]
  · cases held : s.objects key with
    | none => simp [insert_objects, same]
    | some c => simp [same]

theorem wireBytes_ok_iff {e : EnvelopeV1} {b : Bytes} :
    wireBytes e = .ok b ↔ e.toWireBytes = .ok b.data := by
  unfold wireBytes
  split
  · rename_i bytes encoded
    constructor
    · intro made
      cases made
      exact encoded
    · intro other
      have same := Except.ok.inj (encoded.symm.trans other)
      subst same
      rfl
  · rename_i failure encoded
    constructor
    · intro made
      cases made
    · intro other
      cases encoded.symm.trans other

theorem putEnvelope_ok_iff {s stored : MemoryStore} {e : EnvelopeV1} {payload : Bytes}
    {digest : WireDigest} {size : Nat} :
    s.putEnvelope sha256 e payload = .ok ((digest, size), stored) ↔
      digestOf sha256 payload = e.fields.payloadDigest ∧ e.framedDigest sha256 = digest ∧
      ∃ wire, e.toWireBytes = .ok wire.data ∧
        (s.orInsert e.fields.payloadDigest payload).orInsert digest wire = stored ∧
        refSize (((stored.get digest).map Bytes.len).getD 0) payload.len = size := by
  unfold putEnvelope
  simp only [EnvelopeV1.bindsPayload, decide_eq_true_eq, ← wireBytes_ok_iff]
  split_ifs with bound
  · cases encoded : wireBytes e with
    | error failure => simp
    | ok wire =>
        simp only [Except.ok.injEq, Prod.mk.injEq]
        constructor
        · intro both
          rcases both with ⟨⟨same, sized⟩, made⟩
          subst same
          exact ⟨bound, rfl, wire, rfl, made, by rw [← made]; exact sized⟩
        · intro facts
          rcases facts with ⟨_, same, other, rfl, made, sized⟩
          subst same
          exact ⟨⟨rfl, by rw [made]; exact sized⟩, made⟩
  · simp only [false_iff]
    intro facts
    exact bound facts.1

/-- What a call can put under a key of its own: its content, or the text of its envelope. -/
def Write.Puts (sha256 : Sha256) (w : Write) (k : WireDigest) (b : Bytes) : Prop :=
  w.Bound sha256 ∧ ((w.content = b ∧ digestOf sha256 b = k) ∨
    ∃ e ∈ w.envelope, e.framedDigest sha256 = k ∧ e.toWireBytes = .ok b.data)

theorem orInsert_sourced {s : MemoryStore} {e : EnvelopeV1} {payload b : Bytes} {k : WireDigest}
    (binds : (Write.putEnvelope e payload).Bound sha256)
    (bound : digestOf sha256 payload = e.fields.payloadDigest)
    (held : (s.orInsert e.fields.payloadDigest payload).objects k = some b) :
    s.objects k = some b ∨ (Write.putEnvelope e payload).Puts sha256 k b := by
  rw [orInsert_objects] at held
  split_ifs at held with payloadKey
  · cases already : s.objects k with
    | none =>
        rw [already] at held
        cases held
        exact .inr ⟨binds, .inl ⟨rfl, bound.trans payloadKey.symm⟩⟩
    | some c =>
        rw [already] at held
        exact .inl held
  · exact .inl held

theorem step_sourced {s : MemoryStore} {w : Write} {k : WireDigest} {b : Bytes}
    (held : (s.step sha256 w).2.objects k = some b) :
    s.objects k = some b ∨ w.Puts sha256 k b := by
  cases w with
  | put c =>
      rw [step, put, insert_objects] at held
      split_ifs at held with same
      · cases held
        exact .inr ⟨trivial, .inl ⟨rfl, same.symm⟩⟩
      · exact .inl held
  | putEnvelope e payload =>
      rw [step] at held
      cases placed : s.putEnvelope sha256 e payload with
      | error failure =>
          rw [placed] at held
          exact .inl held
      | ok result =>
          rcases result with ⟨⟨digest, size⟩, stored⟩
          rw [placed] at held
          rcases putEnvelope_ok_iff.mp placed with ⟨bound, framed, wire, encoded, made, _⟩
          have binds : (Write.putEnvelope e payload).Bound sha256 := decide_eq_true bound
          dsimp only at held
          rw [← made, orInsert_objects] at held
          split_ifs at held with envelopeKey
          · cases already : (s.orInsert e.fields.payloadDigest payload).objects k with
            | none =>
                rw [already] at held
                cases held
                exact .inr ⟨binds, .inr ⟨e, rfl, framed.trans envelopeKey.symm, encoded⟩⟩
            | some c =>
                rw [already] at held
                cases held
                exact orInsert_sourced binds bound already
          · exact orInsert_sourced binds bound held

/-- A key in use keeps its value; only `put` writes over it, under the digest of its bytes. -/
theorem step_keeps {s : MemoryStore} {w : Write} {k : WireDigest} {b : Bytes}
    (held : s.objects k = some b) :
    (s.step sha256 w).2.objects k = some b ∨
      (w = .put w.content ∧ digestOf sha256 w.content = k ∧
        (s.step sha256 w).2.objects k = some w.content) := by
  cases w with
  | put c =>
      rw [step, put, insert_objects]
      split_ifs with same
      · exact .inr ⟨rfl, same.symm, rfl⟩
      · exact .inl held
  | putEnvelope e payload =>
      left
      rw [step]
      cases placed : s.putEnvelope sha256 e payload with
      | error failure => exact held
      | ok result =>
          rcases result with ⟨⟨digest, size⟩, stored⟩
          rcases putEnvelope_ok_iff.mp placed with ⟨_, _, wire, _, made, _⟩
          have kept : (s.orInsert e.fields.payloadDigest payload).objects k = some b := by
            rw [orInsert_objects]
            split_ifs <;> simp [held]
          dsimp only
          rw [← made, orInsert_objects, kept]
          split_ifs <;> rfl

theorem step_placed {s : MemoryStore} {e : EnvelopeV1} {payload : Bytes} {d : WireDigest}
    {size : Nat} (placed : (s.step sha256 (.putEnvelope e payload)).1 = .placed d size) :
    digestOf sha256 payload = e.fields.payloadDigest ∧ e.framedDigest sha256 = d ∧
    (∃ b, (s.step sha256 (.putEnvelope e payload)).2.objects e.fields.payloadDigest = some b) ∧
    ∃ wire, (s.step sha256 (.putEnvelope e payload)).2.objects d = some wire ∧
      refSize wire.len payload.len = size := by
  rw [step] at placed ⊢
  cases stepped : s.putEnvelope sha256 e payload with
  | error failure =>
      rw [stepped] at placed
      cases placed
  | ok result =>
      rcases result with ⟨⟨digest, total⟩, stored⟩
      rw [stepped] at placed
      cases placed
      rcases putEnvelope_ok_iff.mp stepped with ⟨bound, framed, wire, _, made, sized⟩
      have atPayload : ∃ b, stored.objects e.fields.payloadDigest = some b := by
        rw [← made, orInsert_objects, orInsert_objects, if_pos rfl]
        split_ifs
        · exact ⟨_, rfl⟩
        · exact ⟨_, rfl⟩
      have atDigest : ∃ b, stored.objects digest = some b := by
        rw [← made, orInsert_objects, if_pos rfl]
        exact ⟨_, rfl⟩
      rcases atDigest with ⟨text, held⟩
      rw [get, held] at sized
      exact ⟨bound, framed, atPayload, text, held, sized⟩

theorem run_sourced {writes : List Write} {k : WireDigest} {b : Bytes}
    (held : (run sha256 writes).objects k = some b) : ∃ w ∈ writes, w.Puts sha256 k b := by
  induction writes using List.reverseRecOn with
  | nil => cases held
  | append_singleton before w ih =>
      rw [run_snoc] at held
      cases step_sourced held with
      | inl earlier =>
          rcases ih earlier with ⟨v, member, puts⟩
          exact ⟨v, List.mem_append_left _ member, puts⟩
      | inr puts => exact ⟨w, by simp, puts⟩

/-- A value stays under its key as long as no later `put` of other bytes has that digest. -/
theorem run_keeps {before after : List Write} {k : WireDigest} {b : Bytes}
    (held : (run sha256 before).objects k = some b)
    (safe : ∀ c, .put c ∈ after → digestOf sha256 c = k → c = b) :
    (run sha256 (before ++ after)).objects k = some b := by
  induction after using List.reverseRecOn with
  | nil => simpa using held
  | append_singleton middle w ih =>
      have kept := ih fun c member => safe c (List.mem_append_left _ member)
      rw [← List.append_assoc, run_snoc]
      cases step_keeps kept with
      | inl same => exact same
      | inr replaced =>
          rcases replaced with ⟨shape, hashes, now⟩
          rw [now, safe w.content (by rw [← shape]; simp) hashes]

section Permanence

variable {writes : List Write} (collisionFree : CollisionFree sha256 writes)

include collisionFree

theorem content_of_digest {w v : Write} (member : w ∈ writes) (other : v ∈ writes)
    (same : digestOf sha256 v.content = digestOf sha256 w.content) : v.content = w.content := by
  apply Bytes.data_injective
  exact collisionFree _ (List.mem_flatMap.mpr ⟨v, other, v.content_hashed⟩) _
    (List.mem_flatMap.mpr ⟨w, member, w.content_hashed⟩) same

theorem not_preimage (apart : Apart sha256 writes) {w v : Write} (member : w ∈ writes)
    (other : v ∈ writes) (bound : w.Bound sha256) (accepted : v.Bound sha256) {e : EnvelopeV1}
    (carries : e ∈ v.envelope) : digestOf sha256 w.content ≠ e.framedDigest sha256 := by
  intro same
  refine apart w member bound v other accepted e carries ?_
  exact collisionFree _ (List.mem_flatMap.mpr ⟨w, member, w.content_hashed⟩) _
    (List.mem_flatMap.mpr ⟨v, other, v.preimage_hashed carries⟩) same

variable (apart : Apart sha256 writes)

include apart

theorem content_only {w v : Write} {b : Bytes} (member : w ∈ writes) (other : v ∈ writes)
    (bound : w.Bound sha256) (puts : v.Puts sha256 (digestOf sha256 w.content) b) :
    b = w.content := by
  rcases puts with ⟨accepted, content | text⟩
  · rcases content with ⟨rfl, same⟩
    exact content_of_digest collisionFree member other same
  · rcases text with ⟨e, carries, framed, _⟩
    exact absurd framed.symm (not_preimage collisionFree apart member other bound accepted carries)

theorem envelope_only {w v : Write} {e : EnvelopeV1} {b : Bytes} (member : w ∈ writes)
    (other : v ∈ writes) (bound : w.Bound sha256) (carries : e ∈ w.envelope)
    (puts : v.Puts sha256 (e.framedDigest sha256) b) :
    ∃ first : EnvelopeV1, first.framedDigest sha256 = e.framedDigest sha256 ∧
      first.toWireBytes = .ok b.data := by
  rcases puts with ⟨accepted, content | text⟩
  · rcases content with ⟨rfl, same⟩
    exact absurd same (not_preimage collisionFree apart other member accepted bound carries)
  · rcases text with ⟨first, _, framed, encoded⟩
    exact ⟨first, framed, encoded⟩

omit apart in
theorem content_stays {before after : List Write} {w : Write}
    (same : before ++ w :: after = writes)
    (held : (run sha256 (before ++ [w])).objects (digestOf sha256 w.content) = some w.content) :
    (run sha256 writes).objects (digestOf sha256 w.content) = some w.content := by
  rw [← same, List.append_cons]
  refine run_keeps held ?_
  intro c later hashes
  have member : w ∈ writes := by simp [← same]
  have other : .put c ∈ writes := by simp [← same, later]
  exact content_of_digest collisionFree member other hashes

theorem envelope_stays {before after : List Write} {e : EnvelopeV1} {payload wire : Bytes}
    (same : before ++ .putEnvelope e payload :: after = writes)
    (bound : (Write.putEnvelope e payload).Bound sha256)
    (held : (run sha256 (before ++ [.putEnvelope e payload])).objects (e.framedDigest sha256) =
      some wire) :
    (run sha256 writes).objects (e.framedDigest sha256) = some wire := by
  rw [← same, List.append_cons]
  refine run_keeps held ?_
  intro c later hashes
  have member : .putEnvelope e payload ∈ writes := by simp [← same]
  have other : .put c ∈ writes := by simp [← same, later]
  exact absurd hashes (not_preimage collisionFree apart other member trivial bound rfl)

end Permanence

section Kept

variable {before after writes : List Write} {e : EnvelopeV1} {payload : Bytes} {d : WireDigest}
  {size : Nat} (same : before ++ .putEnvelope e payload :: after = writes)
  (collisionFree : CollisionFree sha256 writes) (apart : Apart sha256 writes)
  (placed : ((run sha256 before).step sha256 (.putEnvelope e payload)).1 = .placed d size)

include same collisionFree apart placed

theorem payload_stays : (run sha256 writes).objects e.fields.payloadDigest = some payload := by
  rcases step_placed placed with ⟨bound, _, ⟨b, atPayload⟩, _⟩
  have binds : (Write.putEnvelope e payload).Bound sha256 := decide_eq_true bound
  have member : .putEnvelope e payload ∈ writes := by simp [← same]
  rw [← run_snoc] at atPayload
  rcases run_sourced atPayload with ⟨v, early, puts⟩
  have among : v ∈ writes := by
    rw [← same, List.append_cons]
    exact List.mem_append_left _ early
  rw [← bound] at puts atPayload ⊢
  have only : b = payload :=
    content_only (w := .putEnvelope e payload) collisionFree apart member among binds puts
  subst only
  exact content_stays (w := .putEnvelope e b) collisionFree same atPayload

theorem text_stays : ∃ wire, (run sha256 writes).objects d = some wire ∧
    (run sha256 (before ++ [.putEnvelope e payload])).objects d = some wire ∧
    wire.len + payload.len = size := by
  rcases step_placed placed with ⟨bound, framed, _, wire, atDigest, sized⟩
  have binds : (Write.putEnvelope e payload).Bound sha256 := decide_eq_true bound
  rw [← run_snoc] at atDigest
  subst framed
  refine ⟨wire, envelope_stays collisionFree apart same binds atDigest, atDigest, ?_⟩
  rw [← sized, refSize_exact]

end Kept

/-- What a call reported stays true: content is found under its digest, and an envelope as
text that reads back under its framed digest, with the sizes reported. -/
theorem run_permanent (reader : Reader) (before after : List Write) (w : Write)
    (collisionFree : CollisionFree sha256 (before ++ w :: after))
    (apart : Apart sha256 (before ++ w :: after)) :
    (∀ b k, w = .put b → ((run sha256 before).step sha256 w).1 = .key k →
      (run sha256 (before ++ w :: after)).get k = some b) ∧
    ∀ e payload d size, w = .putEnvelope e payload →
      ((run sha256 before).step sha256 w).1 = .placed d size →
      (run sha256 (before ++ w :: after)).get e.fields.payloadDigest = some payload ∧
      ∃ wire stored, (run sha256 (before ++ w :: after)).get d = some wire ∧
        parseArtifact reader wire.data = .ok stored ∧ stored.framedDigest sha256 = d ∧
        wire.len + payload.len = size := by
  constructor
  · intro b k isPut reply
    subst isPut
    cases reply
    refine content_stays (w := .put b) collisionFree rfl ?_
    rw [run_snoc, step, put, insert_objects]
    exact if_pos rfl
  · intro e payload d size isEnvelope reply
    subst isEnvelope
    refine ⟨payload_stays rfl collisionFree apart reply, ?_⟩
    rcases text_stays rfl collisionFree apart reply with ⟨wire, held, atDigest, sized⟩
    rcases step_placed reply with ⟨bound, framed, _⟩
    have member : .putEnvelope e payload ∈ before ++ .putEnvelope e payload :: after := by simp
    subst framed
    rcases run_sourced atDigest with ⟨v, early, puts⟩
    have among : v ∈ before ++ .putEnvelope e payload :: after := by
      rw [List.append_cons]
      exact List.mem_append_left _ early
    rcases envelope_only collisionFree apart member among (decide_eq_true bound) rfl puts with
      ⟨first, framed, encoded⟩
    exact ⟨wire, first, held, parseArtifact_encoded reader encoded, framed, sized⟩

end MemoryStore

namespace Sample

def reportFields : EnvelopeFieldsV1 :=
  { Contracts.Sample.coderReport Contracts.Sample.receipt with
    payloadDigest := .ofBytes standardSha256 [] }

theorem reportFields_valid : reportFields.validate = .ok () := by decide

theorem coderReport_length :
    (Contracts.Sample.coderReport Contracts.Sample.receipt).encodedTree.bytes.length = 913 := by
  decide +kernel

theorem reportFields_length : reportFields.encodedTree.bytes.length = 913 :=
  (encodedTree_payloadDigest _ _).trans coderReport_length

theorem reportFields_encodes : reportFields.encode.isOk = true :=
  EnvelopeRecord.encodes_of_length (by rw [reportFields_length]; decide)

def report : EnvelopeV1 :=
  ⟨reportFields, reportFields_valid, EnvelopeRecord.encodes_of_isOk reportFields_encodes⟩

theorem empty_fits : ([] : List UInt8).length < 2 ^ 63 := by decide

def empty : Bytes := ⟨[], empty_fits⟩

theorem coderReport_preimage :
    (Contracts.Sample.coderReport Contracts.Sample.receipt).framedPreimage.length = 565 := by
  simp only [EnvelopeRecord.framedPreimage, EnvelopeRecord.frameOptionalStr,
    EnvelopeRecord.frameRef, EnvelopeRecord.frameStr, utf8Bytes_eq_stored]
  decide +kernel

theorem preimage_length : reportFields.framedPreimage.length = 565 :=
  (framedPreimage_payloadDigest _ _).trans coderReport_preimage

theorem preimage_fits : reportFields.framedPreimage.length < 2 ^ 63 := by
  rw [preimage_length]
  decide

def preimage : Bytes := ⟨reportFields.framedPreimage, preimage_fits⟩

def placing : MemoryStore.Write := .putEnvelope report empty

theorem digests_differ :
    Digest256.ofBytes standardSha256 [] ≠ .ofBytes standardSha256 reportFields.framedPreimage := by
  have digest : utf8Bytes reportFields.payloadDigest.asStr =
      ((Sha2.quickSha256 []).flatMap hexByte).flatMap String.utf8EncodeChar :=
    Digest256.asStr_standard []
  apply Digest256.ofBytes_standard_ne
  simp only [EnvelopeRecord.framedPreimage, EnvelopeRecord.frameOptionalStr,
    EnvelopeRecord.frameRef, EnvelopeRecord.frameStr, digest]
  simp only [utf8Bytes_eq_stored]
  decide +kernel

theorem collisionFree {writes : List MemoryStore.Write}
    (hashed : ∀ a ∈ writes.flatMap MemoryStore.Write.hashed,
      a = [] ∨ a = reportFields.framedPreimage) :
    MemoryStore.CollisionFree standardSha256 writes := by
  intro a memberA b memberB same
  cases hashed a memberA with
  | inl emptyA =>
      cases hashed b memberB with
      | inl emptyB => rw [emptyA, emptyB]
      | inr preimageB =>
          rw [emptyA, preimageB] at same
          exact absurd same digests_differ
  | inr preimageA =>
      cases hashed b memberB with
      | inl emptyB =>
          rw [preimageA, emptyB] at same
          exact absurd same.symm digests_differ
      | inr preimageB => rw [preimageA, preimageB]

theorem placed : (MemoryStore.new.step standardSha256 placing).1 =
    .placed (report.framedDigest standardSha256) 913 := by
  have fits : reportFields.encodedTree.bytes.length < 2 ^ 63 := by
    rw [reportFields_length]
    decide
  obtain ⟨wire, text⟩ : ∃ wire : Bytes, wire.data = reportFields.encodedTree.bytes :=
    ⟨⟨_, fits⟩, rfl⟩
  have encoded : report.toWireBytes = .ok wire.data := by
    rw [text]
    exact EnvelopeRecord.encode_of_bytes (by rw [report, reportFields_length]; decide)
  have size : wire.len = 913 := (congrArg List.length text).trans reportFields_length
  obtain ⟨stored, made⟩ : ∃ stored, (MemoryStore.new.orInsert report.fields.payloadDigest
      empty).orInsert (report.framedDigest standardSha256) wire = stored := ⟨_, rfl⟩
  have apart : report.framedDigest standardSha256 ≠ report.fields.payloadDigest :=
    digests_differ.symm
  have held : stored.get (report.framedDigest standardSha256) = some wire := by
    rw [← made, MemoryStore.get, MemoryStore.orInsert_objects, if_pos rfl,
      MemoryStore.orInsert_objects, if_neg apart]
    rfl
  have put : MemoryStore.new.putEnvelope standardSha256 report empty =
      .ok ((report.framedDigest standardSha256, 913), stored) := by
    refine MemoryStore.putEnvelope_ok_iff.mpr ⟨rfl, rfl, wire, encoded, made, ?_⟩
    rw [held, Option.map_some, Option.getD_some, size]
    rfl
  rw [placing, MemoryStore.step, put]

end Sample

-- Behind the placing its payload is put again, and the same envelope is placed again.
theorem MemoryStore.run_permanent_report :
    (run standardSha256 [Sample.placing, .put Sample.empty, Sample.placing]).get
        Sample.report.fields.payloadDigest = some Sample.empty ∧
    ∃ wire stored, (run standardSha256 [Sample.placing, .put Sample.empty, Sample.placing]).get
        (Sample.report.framedDigest standardSha256) = some wire ∧
      parseArtifact compactReader wire.data = .ok stored ∧
      stored.framedDigest standardSha256 = Sample.report.framedDigest standardSha256 ∧
      wire.len + Sample.empty.len = 913 := by
  have collisionFree :
      CollisionFree standardSha256 ([] ++ Sample.placing :: [.put Sample.empty, Sample.placing]) := by
    apply Sample.collisionFree
    intro a member
    simp only [Sample.placing, Write.hashed, Write.content, Write.envelope, Sample.empty,
      Sample.report, List.nil_append, List.flatMap_cons, List.flatMap_nil, Option.toList_some,
      Option.toList_none, List.map_cons, List.map_nil, List.cons_append, List.mem_cons,
      List.not_mem_nil, or_false] at member
    tauto
  have apart :
      Apart standardSha256 ([] ++ Sample.placing :: [.put Sample.empty, Sample.placing]) := by
    have nothing : ∀ w ∈ [Sample.placing, .put Sample.empty, Sample.placing],
        w.content.data = [] := by
      simp [Sample.placing, Write.content, Sample.empty]
    have only : ∀ v ∈ [Sample.placing, .put Sample.empty, Sample.placing], ∀ e ∈ v.envelope,
        e = Sample.report := by
      simp [Sample.placing, Write.envelope]
    intro w member _ v other _ e carries same
    rw [nothing w member, only v other e carries] at same
    have lengths : 0 = 565 := (congrArg List.length same).trans Sample.preimage_length
    cases lengths
  exact (run_permanent compactReader [] [.put Sample.empty, Sample.placing] Sample.placing
    collisionFree apart).2 Sample.report Sample.empty _ _ rfl Sample.placed

-- The preimage of a stored envelope is itself a byte string, and `put` writes it over the
-- envelope.
theorem MemoryStore.run_not_permanent :
    ¬ ∀ (reader : Reader) (before after : List Write) (w : Write),
      CollisionFree standardSha256 (before ++ w :: after) →
      (∀ b k, w = .put b → ((run standardSha256 before).step standardSha256 w).1 = .key k →
        (run standardSha256 (before ++ w :: after)).get k = some b) ∧
      ∀ e payload d size, w = .putEnvelope e payload →
        ((run standardSha256 before).step standardSha256 w).1 = .placed d size →
        (run standardSha256 (before ++ w :: after)).get e.fields.payloadDigest = some payload ∧
        ∃ wire stored, (run standardSha256 (before ++ w :: after)).get d = some wire ∧
          parseArtifact reader wire.data = .ok stored ∧ stored.framedDigest standardSha256 = d ∧
          wire.len + payload.len = size := by
  intro permanent
  have collisionFree : CollisionFree standardSha256 [Sample.placing, .put Sample.preimage] := by
    apply Sample.collisionFree
    intro a member
    simpa [Sample.placing, Write.hashed, Write.content, Write.envelope, Sample.empty,
      Sample.preimage, Sample.report] using member
  have kept := (permanent compactReader [] [.put Sample.preimage] Sample.placing collisionFree).2
    Sample.report Sample.empty _ _ rfl Sample.placed
  rcases kept with ⟨_, wire, stored, held, _, _, sized⟩
  have replaced : (run standardSha256 [Sample.placing, .put Sample.preimage]).get
      (Sample.report.framedDigest standardSha256) = some Sample.preimage := by
    have last := run_snoc standardSha256 [Sample.placing] (.put Sample.preimage)
    have key : digestOf standardSha256 Sample.preimage =
        Sample.report.framedDigest standardSha256 := rfl
    rw [get, ← key]
    rw [step, put] at last
    rw [List.singleton_append] at last
    rw [last, insert_objects, if_pos rfl]
  cases held.symm.trans replaced
  have preimage : Sample.preimage.len = 565 := Sample.preimage_length
  rw [preimage] at sized
  cases sized

end O7Formal.Cas
