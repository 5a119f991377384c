import ClassFormat.Document.Basic

/-!
# Reading from a stream

A stream hands out its bytes in pieces and may fail once on the way.  Opening a class file from a
stream reads the stream to its end first, and the end is the first call that hands out no bytes; a
call that is interrupted is repeated, and any other failure ends the reading.
-/

namespace ClassFormat

/-- A failure planned for the first call at an offset or behind it. -/
structure Fault extends ReadFailure where
  offset : Nat
deriving DecidableEq, Repr

/-- The error of a class file whose stream failed. -/
def ReadFailure.decodeError (failure : ReadFailure) : DecodeError :=
  match failure.kind with
  | .unexpectedEof => .unexpectedEnd
  | _ => .unreadable failure

/-- A source of bytes. -/
structure Stream where
  /-- The number of bytes handed out. -/
  offset : Nat
  /-- The bytes still to come. -/
  rest : Bytes
  /-- The greatest number of bytes per call; a stream that may hand out none is at its end. -/
  chunk : Nat
  /-- The failure still to come. -/
  fault? : Option Fault

namespace Stream

/-- A stream at its beginning. -/
def ofBytes (data : Bytes) (chunk : Nat) (fault? : Option Fault) : Stream :=
  { offset := 0, rest := data, chunk, fault? }

/-- Hand out at most `limit` bytes. -/
def handOut (stream : Stream) (limit : Nat) : Bytes × Stream :=
  let run := stream.rest.take limit
  (run, { stream with offset := stream.offset + run.length, rest := stream.rest.drop limit })

/-- One call: bytes, or the failure that was planned.  No call hands out bytes on both sides of
the offset of a failure.  No bytes mean the end. -/
def read (stream : Stream) : Except ReadFailure Bytes × Stream :=
  match stream.fault? with
  | none =>
      let (run, stream) := stream.handOut stream.chunk
      (.ok run, stream)
  | some fault =>
      if fault.offset ≤ stream.offset then
        (.error fault.toReadFailure, { stream with fault? := none })
      else
        let (run, stream) := stream.handOut (min stream.chunk (fault.offset - stream.offset))
        (.ok run, stream)

/-- Read to the end with at most `calls` calls.  The pieces already read stand in reverse. -/
def readWithin : (calls : Nat) → Stream → List Bytes → Except ReadFailure Bytes
  | 0, _, pieces => .ok pieces.reverse.flatten
  | calls + 1, stream, pieces =>
      match stream.read with
      | (.ok [], _) => .ok pieces.reverse.flatten
      | (.ok run, stream) => readWithin calls stream (run :: pieces)
      | (.error failure, stream) =>
          if failure.kind = .interrupted then readWithin calls stream pieces else .error failure

/-- Read to the end.  There is at most one call for each byte, one that fails and one that finds
the end. -/
def readAll (stream : Stream) : Except ReadFailure Bytes :=
  readWithin (stream.rest.length + 2) stream []

end Stream

/-- Open a class file from a stream. -/
def Document.ofStream (fresh : Identity) (stream : Stream) : Opened :=
  match stream.readAll with
  | .error failure => ⟨.error failure.decodeError, fresh, []⟩
  | .ok bytes => parse fresh .reject bytes

end ClassFormat
