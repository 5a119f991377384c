import ClassFormat.Proofs.ClassFileCodec
import ClassFormat.Stream

/-!
# Reading does not depend on the delivery

A caller reads a stream to its end call after call, into buffers whose sizes are its own affair, and
the stream may hand out less than there is room for.  `Stream.Call` has every answer that a call can
get, and `Stream.Reads` every way to read to the end: until a call hands out nothing, with
interrupted calls repeated and any other failure final.

What the remaining calls come to is fixed by the bytes and the failure still to come
(`Stream.prospect`).  No call changes it, so all ways to read to the end agree, and `Stream.readAll`
is one of them.
-/

namespace ClassFormat

namespace Stream

variable {stream after : Stream} {run : Bytes} {failure : ReadFailure}
  {outcome : Except ReadFailure Bytes}

/-! ## Calls -/

/-- A call that offers room for at least one byte, its answer and the stream behind it.  A planned
failure is the answer as soon as its offset is reached.  Otherwise the answer is a run of bytes that
ends in front of that offset; it is empty at the end of the data and nowhere else. -/
inductive Call (stream : Stream) : Except ReadFailure Bytes → Stream → Prop where
  | failed {fault : Fault} (planned : stream.fault? = some fault)
      (reached : fault.offset ≤ stream.offset) :
      Call stream (.error fault.toReadFailure) { stream with fault? := none }
  | handedOut {run rest : Bytes} (split : stream.rest = run ++ rest)
      (progress : run = [] → rest = []) (short : run.length ≤ stream.chunk)
      (ahead : ∀ fault ∈ stream.fault?,
        stream.offset < fault.offset ∧ stream.offset + run.length ≤ fault.offset) :
      Call stream (.ok run) { stream with offset := stream.offset + run.length, rest }

/-- The number of calls that a stream can answer before it is at its end: one for each byte and one
for the failure. -/
def callsLeft (stream : Stream) : Nat :=
  stream.rest.length + stream.fault?.toList.length

/-- Handing out bytes, as long as there is room for one, is a call. -/
theorem call_handOut {limit : Nat} (room : 0 < limit) (short : limit ≤ stream.chunk)
    (ahead : ∀ fault ∈ stream.fault?, stream.offset + limit ≤ fault.offset) :
    stream.Call (.ok (stream.handOut limit).1) (stream.handOut limit).2 := by
  have length_le : (stream.handOut limit).1.length ≤ limit := List.length_take_le ..
  refine .handedOut (List.take_append_drop limit stream.rest).symm ?_ (length_le.trans short) ?_
  · intro empty
    rcases List.take_eq_nil_iff.mp empty with none_asked | none_left
    · exact absurd none_asked room.ne'
    · rw [none_left, List.drop_nil]
  · intro fault planned
    have stops := ahead fault planned
    constructor <;> omega

/-- A stream that may hand out bytes answers every call. -/
theorem call_read (positive : 0 < stream.chunk) : stream.Call stream.read.1 stream.read.2 := by
  unfold read
  cases planned : stream.fault? with
  | none => exact call_handOut positive le_rfl (by simp [planned])
  | some fault =>
      by_cases reached : fault.offset ≤ stream.offset
      · simp only [if_pos reached]
        exact .failed planned reached
      · simp only [if_neg reached]
        have ahead : 0 < fault.offset - stream.offset :=
          Nat.sub_pos_of_lt (Nat.lt_of_not_le reached)
        refine call_handOut (Nat.lt_min.mpr ⟨positive, ahead⟩) (Nat.min_le_left ..) ?_
        intro other otherPlanned
        obtain rfl : fault = other := Option.some.inj (planned.symm.trans otherPlanned)
        omega

theorem Call.chunk_eq {answer : Except ReadFailure Bytes} (call : stream.Call answer after) :
    after.chunk = stream.chunk := by
  cases call <;> rfl

/-- Every call that does not find the end brings it nearer. -/
theorem Call.callsLeft_lt {answer : Except ReadFailure Bytes} (call : stream.Call answer after)
    (goesOn : answer ≠ .ok []) : after.callsLeft < stream.callsLeft := by
  cases call with
  | failed planned reached => simp [callsLeft, planned]
  | @handedOut run rest split _ _ _ =>
      have nonempty : 0 < run.length := List.length_pos_iff.mpr fun empty => goesOn (by rw [empty])
      simp only [callsLeft, split, List.length_append]
      omega

/-! ## Reading to the end -/

/-- Reading to the end, call after call: the first call that hands out nothing ends it, a call that
was interrupted is repeated, and any other failure is returned. -/
inductive Reads : Stream → Except ReadFailure Bytes → Prop where
  | ended {stream after : Stream} (call : stream.Call (.ok []) after) : Reads stream (.ok [])
  | continued {stream after : Stream} {run : Bytes} {outcome : Except ReadFailure Bytes}
      (call : stream.Call (.ok run) after) (nonempty : run ≠ []) (later : Reads after outcome) :
      Reads stream (outcome.map (run ++ ·))
  | retried {stream after : Stream} {failure : ReadFailure} {outcome : Except ReadFailure Bytes}
      (call : stream.Call (.error failure) after) (interrupted : failure.kind = .interrupted)
      (later : Reads after outcome) : Reads stream outcome
  | failed {stream after : Stream} {failure : ReadFailure}
      (call : stream.Call (.error failure) after) (final : failure.kind ≠ .interrupted) :
      Reads stream (.error failure)

/-- Whether a failure that is not repeated stands between a stream and its end.  The call that finds
the end is made at the offset behind the last byte. -/
def Blocks (stream : Stream) (fault : Fault) : Prop :=
  fault.kind ≠ .interrupted ∧ fault.offset ≤ stream.offset + stream.rest.length

instance (stream : Stream) (fault : Fault) : Decidable (stream.Blocks fault) :=
  inferInstanceAs (Decidable (_ ∧ _))

/-- What reading a stream to its end comes to. -/
def prospect (stream : Stream) : Except ReadFailure Bytes :=
  match stream.fault? with
  | none => .ok stream.rest
  | some fault => if stream.Blocks fault then .error fault.toReadFailure else .ok stream.rest

theorem prospect_of_blocks {fault : Fault} (planned : stream.fault? = some fault)
    (blocks : stream.Blocks fault) : stream.prospect = .error fault.toReadFailure := by
  rw [prospect, planned]
  exact if_pos blocks

theorem prospect_of_clear (clear : ∀ fault ∈ stream.fault?, ¬ stream.Blocks fault) :
    stream.prospect = .ok stream.rest := by
  unfold prospect
  cases planned : stream.fault? with
  | none => rfl
  | some fault => exact if_neg (clear fault planned)

/-! ### One call -/

/-- A call that hands out bytes takes them from the front of the rest and leaves the failure. -/
theorem Call.advance (call : stream.Call (.ok run) after) :
    after.fault? = stream.fault? ∧ stream.rest = run ++ after.rest ∧
      after.offset = stream.offset + run.length := by
  cases call with
  | handedOut split _ _ _ => exact ⟨rfl, split, rfl⟩

/-- Handing out bytes moves no failure in front of the end or behind it. -/
theorem Call.blocks_iff (call : stream.Call (.ok run) after) (fault : Fault) :
    after.Blocks fault ↔ stream.Blocks fault := by
  rcases call.advance with ⟨_, split, offset_eq⟩
  simp only [Blocks, split, offset_eq, List.length_append, Nat.add_assoc]

/-- The bytes that a call hands out are the first of those that are to be read. -/
theorem Call.prospect_ok (call : stream.Call (.ok run) after) :
    stream.prospect = after.prospect.map (run ++ ·) := by
  rcases call.advance with ⟨fault_eq, split, _⟩
  by_cases blocked : ∃ fault, stream.fault? = some fault ∧ stream.Blocks fault
  · rcases blocked with ⟨fault, planned, blocks⟩
    rw [prospect_of_blocks planned blocks,
      prospect_of_blocks (fault_eq.trans planned) ((call.blocks_iff fault).mpr blocks)]
    rfl
  · have clear (fault : Fault) (planned : stream.fault? = some fault) : ¬ stream.Blocks fault :=
      fun blocks => blocked ⟨fault, planned, blocks⟩
    have stillClear (fault : Fault) (planned : after.fault? = some fault) : ¬ after.Blocks fault :=
      mt (call.blocks_iff fault).mp (clear fault (fault_eq.symm.trans planned))
    rw [prospect_of_clear clear, prospect_of_clear stillClear, split]
    rfl

/-- A call that hands out nothing has found the end. -/
theorem Call.prospect_nil (call : stream.Call (.ok []) after) : stream.prospect = .ok [] := by
  cases call with
  | @handedOut _ rest split progress _ ahead =>
      have empty : stream.rest = [] := by rw [split, progress rfl, List.nil_append]
      rw [← empty]
      apply prospect_of_clear
      intro fault planned blocks
      have inFront := (ahead fault planned).1
      have reached := blocks.2
      rw [empty, List.length_nil] at reached
      omega

/-- The failure of a call decides what is to be read unless it is repeated. -/
theorem Call.prospect_error (call : stream.Call (.error failure) after) :
    stream.prospect =
      if failure.kind = .interrupted then after.prospect else .error failure := by
  cases call with
  | @failed fault planned reached =>
      by_cases interrupted : fault.kind = .interrupted
      · rw [if_pos interrupted]
        apply prospect_of_clear
        intro other otherPlanned blocks
        obtain rfl : fault = other := Option.some.inj (planned.symm.trans otherPlanned)
        exact blocks.1 interrupted
      · rw [if_neg interrupted]
        exact prospect_of_blocks planned ⟨interrupted, reached.trans (Nat.le_add_right ..)⟩

/-! ### All calls -/

/-- However a stream is read to its end, the outcome is the same. -/
theorem Reads.eq_prospect (reads : stream.Reads outcome) : outcome = stream.prospect := by
  induction reads with
  | ended call => exact call.prospect_nil.symm
  | continued call _ _ ih => rw [call.prospect_ok, ih]
  | retried call interrupted _ ih => rw [call.prospect_error, if_pos interrupted, ih]
  | failed call final => rw [call.prospect_error, if_neg final]

/-- With a call for each that the stream can answer, and one more to find the end, the loop reads to
the end and puts what it reads behind the pieces it has. -/
theorem reads_readWithin {calls : Nat} (positive : 0 < stream.chunk)
    (enough : stream.callsLeft < calls) (pieces : List Bytes) :
    ∃ outcome, stream.Reads outcome ∧
      readWithin calls stream pieces = outcome.map (pieces.reverse.flatten ++ ·) := by
  -- The calls granted always exceed those left, so the loop never stops for want of them.
  induction calls generalizing stream pieces with
  | zero => exact absurd enough (Nat.not_lt_zero _)
  | succ calls ih =>
      have call := call_read positive
      rw [readWithin]
      generalize stream.read = answered at call ⊢
      obtain ⟨answer, after⟩ := answered
      have afterPositive : 0 < after.chunk := call.chunk_eq ▸ positive
      have nearer (goesOn : answer ≠ .ok []) : after.callsLeft < calls :=
        Nat.lt_of_lt_of_le (call.callsLeft_lt goesOn) (Nat.le_of_lt_succ enough)
      cases answer with
      | error failure =>
          by_cases interrupted : failure.kind = .interrupted
          · rcases ih afterPositive (nearer nofun) pieces with ⟨outcome, reads, loop_eq⟩
            refine ⟨outcome, .retried call interrupted reads, ?_⟩
            simp only [if_pos interrupted, loop_eq]
          · refine ⟨_, .failed call interrupted, ?_⟩
            simp only [if_neg interrupted, Except.map]
      | ok run =>
          cases run with
          | nil => exact ⟨_, .ended call, by simp only [Except.map, List.append_nil]⟩
          | cons byte run =>
              have nonempty : byte :: run ≠ [] := List.cons_ne_nil byte run
              have goesOn : (.ok (byte :: run) : Except ReadFailure Bytes) ≠ .ok [] :=
                fun same => nonempty (Except.ok.inj same)
              rcases ih afterPositive (nearer goesOn) ((byte :: run) :: pieces) with
                ⟨outcome, reads, loop_eq⟩
              refine ⟨_, .continued call nonempty reads, ?_⟩
              simp only [loop_eq]
              cases outcome <;> simp [Except.map]

/-- Reading all is reading to the end, and no way to do so gives anything else. -/
theorem reads_iff (positive : 0 < stream.chunk) :
    stream.Reads outcome ↔ outcome = stream.readAll := by
  have enough : stream.callsLeft < stream.rest.length + 2 := by
    have atMostOne : stream.fault?.toList.length ≤ 1 := by cases stream.fault? <;> simp
    unfold callsLeft
    omega
  rcases reads_readWithin positive enough [] with ⟨actual, reads, loop_eq⟩
  have readAll_eq : stream.readAll = actual := by
    rw [readAll, loop_eq]
    cases actual <;> rfl
  rw [readAll_eq]
  constructor
  · intro other
    rw [other.eq_prospect, reads.eq_prospect]
  · rintro rfl
    exact reads

theorem readAll_eq_prospect (positive : 0 < stream.chunk) : stream.readAll = stream.prospect :=
  ((reads_iff positive).mpr rfl).eq_prospect

end Stream

/-! ## Opening a class file -/

theorem ReadFailure.decodeError_of_kind_ne {failure : ReadFailure}
    (other : failure.kind ≠ .unexpectedEof) : failure.decodeError = .unreadable failure := by
  unfold decodeError
  split
  · rename_i ended
    exact absurd ended other
  · rfl

namespace Document

variable {fresh : Identity} {stream : Stream}

theorem ofStream_of_clear (positive : 0 < stream.chunk)
    (clear : ∀ fault ∈ stream.fault?, ¬ stream.Blocks fault) :
    ofStream fresh stream = parse fresh .reject stream.rest := by
  rw [ofStream, Stream.readAll_eq_prospect positive, Stream.prospect_of_clear clear]

/-- A failure that stands between the stream and its end keeps the bytes from being looked at. -/
theorem ofStream_of_blocks (positive : 0 < stream.chunk) {fault : Fault}
    (planned : stream.fault? = some fault) (blocks : stream.Blocks fault) :
    ofStream fresh stream = ⟨.error fault.toReadFailure.decodeError, fresh, []⟩ := by
  rw [ofStream, Stream.readAll_eq_prospect positive, Stream.prospect_of_blocks planned blocks]

/-- However a stream is delivered, all ways to read it to its end agree.  Without a failure, with
one that is repeated and with one behind the end, opening its class file is opening its bytes.  With
any other failure, the one at the very end included, it is refused for that failure whatever the
bytes are: nothing is reported and no identity is used up. -/
theorem ofStream_independent_of_delivery (fresh : Identity) (data : Bytes) (chunk : Nat)
    (positive : 1 ≤ chunk) (fault? : Option Fault) :
    let stream := Stream.ofBytes data chunk fault?
    (∀ outcome, stream.Reads outcome ↔ outcome = stream.readAll) ∧
      ((∀ fault ∈ fault?, fault.kind = .interrupted ∨ data.length < fault.offset) →
        ofStream fresh stream = parse fresh .reject data) ∧
      ∀ fault ∈ fault?, fault.offset ≤ data.length →
        (fault.kind = .unexpectedEof →
          ofStream fresh stream = ⟨.error .unexpectedEnd, fresh, []⟩) ∧
        (fault.kind ≠ .unexpectedEof → fault.kind ≠ .interrupted →
          ofStream fresh stream = ⟨.error (.unreadable fault.toReadFailure), fresh, []⟩) := by
  intro stream
  have chunk_pos : 0 < stream.chunk := positive
  have blocks_iff (fault : Fault) :
      stream.Blocks fault ↔ fault.kind ≠ .interrupted ∧ fault.offset ≤ data.length := by
    simp [stream, Stream.Blocks, Stream.ofBytes]
  refine ⟨fun _ => Stream.reads_iff chunk_pos, fun harmless => ?_,
    fun fault planned inside => ⟨?_, ?_⟩⟩
  · apply ofStream_of_clear chunk_pos
    intro fault planned blocks
    rcases (blocks_iff fault).mp blocks with ⟨final, inside⟩
    rcases harmless fault planned with interrupted | behind
    · exact final interrupted
    · exact Nat.not_lt_of_le inside behind
  · intro ended
    have final : fault.kind ≠ .interrupted := by rw [ended]; decide
    rw [ofStream_of_blocks chunk_pos planned ((blocks_iff fault).mpr ⟨final, inside⟩),
      ReadFailure.decodeError, ended]
  · intro other final
    rw [ofStream_of_blocks chunk_pos planned ((blocks_iff fault).mpr ⟨final, inside⟩),
      ReadFailure.decodeError_of_kind_ne other]

/-- All of a class file arrives, three bytes at a time, and then the call for the end fails.  If
that call is only interrupted, the class file is opened. -/
theorem ofStream_independent_of_delivery_sample :
    let denied : Fault := ⟨⟨.permissionDenied, "denied"⟩, sampleBytes.length⟩
    let interrupted : Fault := ⟨⟨.interrupted, "interrupted"⟩, sampleBytes.length⟩
    (parse ⟨0⟩ .reject sampleBytes).result = .ok ⟨⟨0⟩, sampleFile⟩ ∧
      ofStream ⟨0⟩ (.ofBytes sampleBytes 3 (some denied)) =
        ⟨.error (.unreadable denied.toReadFailure), ⟨0⟩, []⟩ ∧
      ofStream ⟨0⟩ (.ofBytes sampleBytes 3 (some interrupted)) = parse ⟨0⟩ .reject sampleBytes := by
  intro denied interrupted
  have chunk_pos : 1 ≤ 3 := by decide
  have whenDenied := ofStream_independent_of_delivery ⟨0⟩ sampleBytes 3 chunk_pos (some denied)
  have whenInterrupted :=
    ofStream_independent_of_delivery ⟨0⟩ sampleBytes 3 chunk_pos (some interrupted)
  refine ⟨rfl, (whenDenied.2.2 denied rfl le_rfl).2 nofun nofun, whenInterrupted.2.1 ?_⟩
  rintro _ ⟨⟩
  exact .inl rfl

end Document

end ClassFormat
