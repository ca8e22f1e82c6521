import O7Formal.Worker.Supervisor

/-! The readers of the output streams: what a reader has read and sent at any point of its run. -/

namespace O7Formal.Worker

open Program

abbrev ReaderTrace := Trace ReaderCall ReaderCall.Answer

def readsOf (trace : ReaderTrace) : List (List UInt8) :=
  trace.filterMap fun
    | ⟨.read _, .ok (b :: bytes)⟩ => some (b :: bytes)
    | _ => none

def sentOf (trace : ReaderTrace) : List ReaderMessage :=
  trace.filterMap fun
    | ⟨.send message, true⟩ => some message
    | _ => none

def SawEnd (trace : ReaderTrace) : Prop := ∃ capacity, ⟨.read capacity, .ok []⟩ ∈ trace

def chunksSent (messages : List ReaderMessage) : List OutputChunk :=
  messages.filterMap fun
    | .chunk c => some c
    | .readError _ => none

def numbered (stream : OutputStream) (reads : List (List UInt8)) : List OutputChunk :=
  reads.mapIdx fun i bytes => ⟨stream, UInt64.ofNat i, bytes⟩

theorem chunksSent_append (xs ys : List ReaderMessage) :
    chunksSent (xs ++ ys) = chunksSent xs ++ chunksSent ys := List.filterMap_append

theorem readsOf_append (first second : ReaderTrace) :
    readsOf (first ++ second) = readsOf first ++ readsOf second := List.filterMap_append

theorem sentOf_append (first second : ReaderTrace) :
    sentOf (first ++ second) = sentOf first ++ sentOf second := List.filterMap_append

theorem numbered_concat (stream : OutputStream) (reads : List (List UInt8)) (bytes : List UInt8) :
    numbered stream (reads ++ [bytes]) =
      numbered stream reads ++ [⟨stream, UInt64.ofNat reads.length, bytes⟩] := by
  rw [numbered, List.mapIdx_concat]
  rfl

def MaySend (stream : OutputStream) (trace : ReaderTrace) : ReaderCall → Prop
  | .send (.chunk c) => numbered stream (readsOf trace) = chunksSent (sentOf trace) ++ [c]
  | _ => True

def Taken : (c : ReaderCall) → c.Answer → Prop
  | .send _, sent => sent = true
  | _, _ => True

def reading (stream : OutputStream) : Protocol ReaderCall ReaderCall.Answer ReaderTrace where
  permits := MaySend stream
  answers := Taken
  learns trace c r := trace ++ [⟨c, r⟩]

/-- A reader that has returned has read the stream to its end, or has sent its read error. -/
def Complete (stream : OutputStream) (trace : ReaderTrace) : Prop :=
  SawEnd trace ∧ chunksSent (sentOf trace) = numbered stream (readsOf trace) ∨
    ∃ err, .readError err ∈ sentOf trace

variable {stream : OutputStream} {trace : ReaderTrace}

theorem obeys_readStream (maxChunk turns : Nat) (sequence : UInt64)
    (sync : chunksSent (sentOf trace) = numbered stream (readsOf trace))
    (counted : sequence = UInt64.ofNat (readsOf trace).length) :
    (readStream stream maxChunk turns sequence).Obeys (reading stream) trace
      fun _ trace' => Complete stream trace' := by
  induction turns generalizing trace sequence with
  | zero => exact ⟨trivial, nofun⟩
  | succ turns ih =>
      refine ⟨trivial, ?_⟩
      intro read _
      match read with
      | .ok [] =>
          refine .inl ⟨⟨max maxChunk 1, List.mem_append_right _ List.mem_cons_self⟩, ?_⟩
          change chunksSent (sentOf (trace ++ _)) = numbered stream (readsOf (trace ++ _))
          rw [sentOf_append, readsOf_append]
          simpa [sentOf, readsOf] using sync
      | .error err =>
          refine ⟨trivial, ?_⟩
          intro sent taken
          cases taken
          refine .inr ⟨err, ?_⟩
          change _ ∈ sentOf (_ ++ _)
          rw [sentOf_append]
          exact List.mem_append_right _ (by simp [sentOf])
      | .ok (b :: bytes) =>
          have sent : sentOf (trace ++ [⟨.read (max maxChunk 1), .ok (b :: bytes)⟩]) =
              sentOf trace := by
            rw [sentOf_append]
            exact List.append_nil _
          have next : numbered stream
              (readsOf (trace ++ [⟨.read (max maxChunk 1), .ok (b :: bytes)⟩])) =
              chunksSent (sentOf trace) ++ [⟨stream, sequence, b :: bytes⟩] := by
            rw [readsOf_append, sync, counted]
            exact numbered_concat _ _ _
          refine ⟨?_, ?_⟩
          · change numbered stream (readsOf (trace ++ _)) = chunksSent (sentOf (trace ++ _)) ++ _
            rw [next, sent]
          · intro accepted taken
            cases taken
            apply ih
            · change chunksSent (sentOf ((trace ++ _) ++ _)) =
                numbered stream (readsOf ((trace ++ _) ++ _))
              rw [sentOf_append, sent, chunksSent_append, readsOf_append (trace ++ _)]
              exact next.symm.trans (congrArg (numbered stream) (List.append_nil _).symm)
            · change _ = UInt64.ofNat (readsOf ((trace ++ _) ++ _)).length
              rw [readsOf_append, readsOf_append, counted]
              simp [readsOf]

variable {maxChunk turns : Nat} {rest : Reader}

theorem learned_reading (past later : ReaderTrace) :
    learned (reading stream) past later = past ++ later := by
  induction later generalizing past with
  | nil => exact (List.append_nil past).symm
  | cons entry later ih =>
      change learned (reading stream) (past ++ [entry]) later = past ++ entry :: later
      rw [ih, List.append_assoc]
      rfl

theorem obeys_reader (maxChunk turns : Nat) (stream : OutputStream) :
    (readStream stream maxChunk turns 0).Obeys (reading stream) []
      fun _ trace => Complete stream trace :=
  @obeys_readStream stream [] maxChunk turns 0 rfl rfl

theorem sent_begins_snoc {c : ReaderCall} {r : c.Answer} (permitted : MaySend stream trace c)
    (held : chunksSent (sentOf trace) <+: numbered stream (readsOf trace)) :
    chunksSent (sentOf (trace ++ [⟨c, r⟩])) <+: numbered stream (readsOf (trace ++ [⟨c, r⟩])) := by
  rw [sentOf_append, readsOf_append, chunksSent_append]
  match c, r, permitted with
  | .read _, .ok [], _ => simpa [sentOf, readsOf, chunksSent] using held
  | .read _, .error _, _ => simpa [sentOf, readsOf, chunksSent] using held
  | .read _, .ok (b :: bytes), _ =>
      have more : numbered stream (readsOf trace) <+:
          numbered stream (readsOf trace ++ [b :: bytes]) := by
        rw [numbered_concat]
        exact List.prefix_append _ _
      simpa [sentOf, readsOf, chunksSent] using held.trans more
  | .send _, false, _ => simpa [sentOf, readsOf, chunksSent] using held
  | .send (.readError _), true, _ => simpa [sentOf, readsOf, chunksSent] using held
  | .send (.chunk c), true, permitted =>
      change chunksSent (sentOf trace) ++ [c] <+: numbered stream (readsOf trace ++ [])
      rw [List.append_nil, permitted]

theorem sent_begins (run : After (readStream stream maxChunk turns 0) trace rest)
    (taken : ∀ entry ∈ trace, Taken entry.1 entry.2) :
    chunksSent (sentOf trace) <+: numbered stream (readsOf trace) := by
  have both := run.keeps (p := reading stream) (m := [])
    (motive := fun past known => known = past ∧
      chunksSent (sentOf past) <+: numbered stream (readsOf past))
    ?_ ⟨rfl, List.prefix_refl _⟩ (obeys_reader maxChunk turns stream) taken
  · exact both.1.2
  · intro past known c r held permitted _
    rw [held.1] at permitted ⊢
    exact ⟨rfl, sent_begins_snoc permitted held.2⟩

theorem complete_of_returned (run : After (readStream stream maxChunk turns 0) trace (pure ()))
    (taken : ∀ entry ∈ trace, Taken entry.1 entry.2) : Complete stream trace := by
  have complete := run.result (obeys_reader maxChunk turns stream) taken
  rwa [learned_reading] at complete

end O7Formal.Worker
