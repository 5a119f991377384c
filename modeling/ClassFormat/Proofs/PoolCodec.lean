import ClassFormat.Proofs.PoolLayout

/-!
# Constant pools are read as they are written

Reading a pool fills its slots with one constant after the other until the declared count is
reached.  It succeeds exactly on the constants of a pool that is laid out properly and has that
count.
-/

namespace ClassFormat

namespace ConstantPool

theorem emission_eq (pool : ConstantPool) :
    pool.emission = Emission.word16 pool.count ++ pool.constants.flatMap Entry.emission :=
  rfl

/-- One turn of the reading loop: a constant that takes more slots than are left is refused after
it has been read. -/
theorem fill_succ (left : Nat) (pool : ConstantPool) (input : Bytes) :
    fill (left + 1) pool input =
      match Entry.decoder input with
      | .error error rest => .error error rest
      | .ok entry rest =>
          if entry.width ≤ left + 1 then fill (left + 1 - entry.width) (pool.append entry) rest
          else .error (.malformed .wideOverflow) rest := by
  conv => lhs; unfold fill
  cases Entry.decoder input with
  | error error rest => rfl
  | ok entry rest =>
      by_cases wide : entry.isWide = true
      · cases left with
        | zero => simp [Entry.width, wide]
        | succ left => simp [Entry.width, wide]
      · simp [Entry.width, wide]

private theorem fill_eq_ok {left : Nat} {before : List Entry} {input rest : Bytes}
    {pool : ConstantPool} (decoded : fill left (ofConstants before) input = .ok pool rest) :
    ∃ constants bytes, pool = ofConstants (before ++ constants) ∧ totalWidth constants = left ∧
      Emission.Writes (constants.flatMap Entry.emission) bytes ∧ input = bytes ++ rest := by
  induction left using Nat.strongRecOn generalizing before input with
  | _ left ih =>
      cases left with
      | zero =>
          cases decoded
          exact ⟨[], [], by simp⟩
      | succ left =>
          rw [fill_succ] at decoded
          cases first : Entry.decoder input with
          | error error middle => simp [first] at decoded
          | ok entry middle =>
              simp only [first, append_ofConstants] at decoded
              obtain ⟨front, wroteFront, rfl⟩ := Entry.decoder_reads.eq_ok_iff.mp first
              have positive := entry.width_eq_one_or_two
              split at decoded
              · rename_i room
                obtain ⟨constants, back, rfl, width_eq, wroteBack, rfl⟩ :=
                  ih (left + 1 - entry.width) (by omega) decoded
                refine ⟨entry :: constants, front ++ back, by simp, ?_,
                  wroteFront.append wroteBack, by simp⟩
                rw [totalWidth_cons]
                omega
              · cases decoded

/-- Constants that have room are read one after the other, and filling goes on behind them. -/
theorem fill_written {constants before : List Entry} {bytes : Bytes} (left : Nat) (rest : Bytes)
    (wrote : Emission.Writes (constants.flatMap Entry.emission) bytes) :
    fill (totalWidth constants + left) (ofConstants before) (bytes ++ rest) =
      fill left (ofConstants (before ++ constants)) rest := by
  induction constants generalizing before bytes with
  | nil =>
      obtain rfl := Emission.writes_nil.mp wrote
      simp
  | cons entry constants ih =>
      obtain ⟨front, back, wroteFront, wroteBack, rfl⟩ := Emission.writes_append.mp wrote
      have first : Entry.decoder (front ++ back ++ rest) = .ok entry (back ++ rest) :=
        Entry.decoder_reads.eq_ok_iff.mpr ⟨front, wroteFront, List.append_assoc ..⟩
      have positive := entry.width_eq_one_or_two
      have turns : totalWidth (entry :: constants) + left =
          entry.width - 1 + totalWidth constants + left + 1 := by
        rw [totalWidth_cons]
        omega
      have room : entry.width ≤ entry.width - 1 + totalWidth constants + left + 1 := by omega
      have behind : entry.width - 1 + totalWidth constants + left + 1 - entry.width =
          totalWidth constants + left := by omega
      rw [turns, fill_succ, first]
      simp only [room, if_true, behind, append_ofConstants]
      rw [ih wroteBack, List.append_assoc]
      rfl

/-- A pool is read exactly from what its constants write, if it is laid out properly and has the
declared count. -/
theorem decoder_eq_ok_iff {count : UInt16} {input rest : Bytes} {pool : ConstantPool} :
    decoder count input = .ok pool rest ↔
      pool.Layout ∧ pool.count = count ∧
        ∃ bytes, Emission.Writes (pool.constants.flatMap Entry.emission) bytes ∧
          input = bytes ++ rest := by
  constructor
  · intro decoded
    unfold decoder at decoded
    split at decoded
    · exact absurd decoded Decoder.throw_ne_ok
    · rename_i nonzero
      rw [empty_eq_ofConstants] at decoded
      obtain ⟨constants, bytes, rfl, width_eq, wrote, rfl⟩ := fill_eq_ok decoded
      have positive : count.toNat ≠ 0 := fun zero => nonzero (UInt16.toNat_inj.mp zero)
      have bound := count.toNat_lt
      have size_eq : 1 + totalWidth constants = count.toNat := by omega
      have layout : (ofConstants constants).Layout := layout_ofConstants (by omega)
      refine ⟨layout, ?_, bytes, ?_, rfl⟩
      · rw [List.nil_append, ConstantPool.count, size_ofConstants, size_eq]
        exact UInt16.ofNat_toNat
      · rw [List.nil_append, constants_ofConstants]
        exact wrote
  · rintro ⟨layout, rfl, bytes, wrote, rfl⟩
    obtain ⟨constants, rfl, bound⟩ := layout_iff.mp layout
    rw [constants_ofConstants] at wrote
    have count_eq := layout.toNat_count
    rw [size_ofConstants] at count_eq
    have nonzero : (ofConstants constants).count ≠ 0 := by
      intro zero
      rw [zero] at count_eq
      change 0 = 1 + totalWidth constants at count_eq
      omega
    rw [decoder, if_neg nonzero, count_eq, Nat.add_sub_cancel_left, empty_eq_ofConstants]
    exact fill_written 0 rest wrote

end ConstantPool

end ClassFormat
