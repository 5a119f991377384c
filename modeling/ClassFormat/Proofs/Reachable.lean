import ClassFormat.Proofs.ClassFileCodec
import ClassFormat.Proofs.EditStep
import ClassFormat.Stream
import ClassFormat.Workspace.Command

/-!
# Reachable pools and documents

Constant pools start empty or are read, and change by commands and by edits of the class file that
holds them.  Every one of these steps keeps the layout of the slots, so every reachable pool can be
addressed and written (`ConstantPool.Reachable.layout`).

A reachable document may have been given any tables and indices.  If it can be written at all, its
bytes delimit themselves and are read back to the same content.
-/

namespace ClassFormat

namespace ConstantPool

/-- The pools that reading, commands and edits lead to.  Commands and edits may fail. -/
inductive Reachable : ConstantPool → Prop where
  | empty : Reachable empty
  | read {count : UInt16} {input rest : Bytes} {pool : ConstantPool}
      (decoded : decoder count input = .ok pool rest) : Reachable pool
  | command {pool : ConstantPool} (command : PoolCommand) (reachable : Reachable pool) :
      Reachable (pool.perform command).2
  | edit {document : Document} (edit : Edit) (reachable : Reachable document.file.pool) :
      Reachable (document.perform edit).document.file.pool

theorem Layout.pushTimes {entry : Entry} {times : Nat} {pool : ConstantPool}
    {last? : Option (Except PoolFull UInt16)} (layout : pool.Layout) :
    (ConstantPool.pushTimes entry times pool last?).2.Layout := by
  induction times generalizing pool last? with
  | zero => exact layout
  | succ times ih =>
      simp only [ConstantPool.pushTimes, push]
      by_cases room : pool.hasRoom entry = true
      · rw [if_pos room]
        exact ih (layout.append room)
      · rw [if_neg room]
        exact ih layout

theorem Layout.perform {pool : ConstantPool} (layout : pool.Layout) (command : PoolCommand) :
    (pool.perform command).2.Layout := by
  cases command with
  | push entry times => exact layout.pushTimes
  | replace index entry =>
      simp only [ConstantPool.perform, replace]
      cases found : pool.get? index with
      | none => exact layout
      | some current =>
          by_cases width_eq : current.isWide = entry.isWide
          · simp only [width_eq, if_true]
            exact layout.set found width_eq
          · simp only [width_eq, if_false]
            exact layout
  | compare count bytes =>
      simp only [ConstantPool.perform]
      split <;> exact layout
  | get | find | sizes | indices | list | write => exact layout

end ConstantPool

/-- An edit keeps the layout of the constant pool. -/
theorem ClassFile.EditStep.layout {before after : ClassFile} (step : before.EditStep after)
    (layout : before.pool.Layout) : after.pool.Layout := by
  cases step with
  | setUtf8 string isUtf8 =>
      rcases ConstantPool.isUtf8_iff.mp isUtf8 with ⟨old, found⟩
      exact layout.set found rfl
  | addUtf8 room => exact layout.append room
  | addClass _ room => exact layout.append room
  | @memberName table | @memberDescriptor table | @memberFlags table => cases table <;> exact layout
  | unchanged | thisClass | superClass | interfaces | classFlags => exact layout

/-- An edit of a document keeps the layout of the constant pool. -/
theorem Document.layout_perform {document : Document} (edit : Edit)
    (layout : document.file.pool.Layout) :
    (document.perform edit).document.file.pool.Layout := by
  rcases document.perform_step edit with ⟨file, step, document_eq⟩
  rw [document_eq]
  exact step.layout layout

namespace ConstantPool

/-- Every reachable pool is laid out properly. -/
theorem Reachable.layout {pool : ConstantPool} (reachable : pool.Reachable) : pool.Layout := by
  induction reachable with
  | empty => exact layout_empty
  | read decoded => exact (decoder_eq_ok_iff.mp decoded).1
  | command command _ layout => exact layout.perform command
  | edit edit _ layout => exact Document.layout_perform edit layout

/-- In a reachable pool the slots are laid out properly, counts and indices are not cut off, and an
index leads to one constant, to a reserved slot or behind the last slot.  The constants that take
two slots are the longs and the doubles. -/
theorem Reachable.addressing {pool : ConstantPool} (reachable : pool.Reachable) :
    pool.Layout ∧
      pool.count.toNat = pool.slots.size ∧
      pool.entries.map (fun (index, entry) => (index.toNat, entry)) = pool.positions ∧
      (∀ index : UInt16,
        let addressed := ∃ entry, pool.get? index = some entry ∧
          pool.entries.count (index, entry) = 1
        let reserved := pool.isReserved index = true ∧ pool.get? index = none
        let outside := pool.count ≤ index ∧ pool.slot? index = none
        (addressed ∨ reserved ∨ outside) ∧
          ¬(addressed ∧ reserved) ∧ ¬(addressed ∧ outside) ∧ ¬(reserved ∧ outside)) ∧
      (pool.entries.map Prod.fst).Pairwise (· < ·) ∧
      pool.count.toNat = 1 + (pool.entries.map fun item => item.2.width).sum ∧
      (pool.isEmpty = true ↔ pool.entryCount = 0) ∧
      ∀ entry : Entry, entry.isWide = true ↔
        (∃ value, entry = .long value) ∨ ∃ bits, entry = .double bits := by
  have layout := reachable.layout
  refine ⟨layout, layout.toNat_count, layout.entries_toNat, fun index => ⟨?_, ?_, ?_, ?_⟩,
    List.pairwise_map.mpr layout.entries_pairwise, layout.toNat_count_eq_widths,
    layout.isEmpty_iff, fun _ => Entry.isWide_iff⟩
  · rcases layout.addressed_cases index with ⟨entry, found⟩ | reserved | outside
    · exact .inl ⟨entry, found, layout.count_entries found⟩
    · exact .inr (.inl ⟨by rw [isReserved, reserved]; rfl, by rw [get?, reserved]; rfl⟩)
    · exact .inr (.inr outside)
  · rintro ⟨⟨entry, found, _⟩, _, missing⟩
    rw [found] at missing
    cases missing
  · rintro ⟨⟨entry, found, _⟩, _, outside⟩
    rw [get?, outside] at found
    cases found
  · rintro ⟨⟨reserved, _⟩, _, outside⟩
    rw [isReserved, outside] at reserved
    cases reserved

theorem addressing_after_wide_push :
    (empty.perform (.push (.long 5) 1)).2.Reachable ∧
      (empty.perform (.push (.long 5) 1)).2.slots = #[.reserved, .filled (.long 5), .reserved] ∧
      (empty.perform (.push (.long 5) 1)).2.Layout :=
  ⟨.command _ .empty, rfl, (Reachable.addressing (.command _ .empty)).1⟩

end ConstantPool

namespace Document

/-- The documents that opening, copying, edits, commands on the constant pool and assignments to the
other parts of the class file lead to. -/
inductive Reachable : Document → Prop where
  | opened {fresh : Identity} {trailing : TrailingData} {bytes : Bytes} {document : Document}
      (opened : (parse fresh trailing bytes).result = .ok document) : Reachable document
  | streamed {fresh : Identity} {stream : Stream} {document : Document}
      (opened : (ofStream fresh stream).result = .ok document) : Reachable document
  | clone {document : Document} (fresh : Identity) (reachable : Reachable document) :
      Reachable (document.clone fresh)
  | edit {document : Document} (edit : Edit) (reachable : Reachable document) :
      Reachable (document.perform edit).document
  | pool {document : Document} (command : PoolCommand) (reachable : Reachable document) :
      Reachable { document with file.pool := (document.file.pool.perform command).2 }
  | assign {document : Document} (assignment : Assignment) (reachable : Reachable document) :
      Reachable { document with file := document.file.assign assignment }

theorem layout_of_parse {fresh : Identity} {trailing : TrailingData} {bytes : Bytes}
    {document : Document} (opened : (parse fresh trailing bytes).result = .ok document) :
    document.file.pool.Layout := by
  rcases parse_eq_ok_iff.mp opened with ⟨_, rest, decoded, _⟩
  exact (ClassFile.decoder_eq_ok_iff.mp decoded).1

/-- The constant pool of every reachable document is laid out properly. -/
theorem Reachable.layout {document : Document} (reachable : document.Reachable) :
    document.file.pool.Layout := by
  induction reachable with
  | opened opened => exact layout_of_parse opened
  | @streamed _ stream _ opened =>
      unfold ofStream at opened
      cases bytes_eq : stream.readAll with
      | error fault => simp [bytes_eq] at opened
      | ok bytes =>
          rw [bytes_eq] at opened
          exact layout_of_parse opened
  | clone _ _ layout => exact layout
  | edit edit _ layout => exact layout_perform edit layout
  | pool command _ layout => exact layout.perform command
  | assign assignment _ layout =>
      cases assignment with
      | members table value => cases table <;> exact layout
      | _ => exact layout

/-- The bytes that a reachable document writes are read back to its content whatever follows them,
so they delimit themselves and belong to no other content. -/
theorem Reachable.decode_encode {document : Document} (reachable : document.Reachable)
    {encoded : Bytes} (wrote : document.file.encode = .ok encoded) :
    (∀ rest, ClassFile.decoder (encoded ++ rest) = .ok document.file rest) ∧
      (∀ fresh, (parse fresh .reject encoded).result = .ok ⟨fresh, document.file⟩) ∧
      (∀ fresh rest, rest ≠ [] →
        (parse fresh .reject (encoded ++ rest)).result = .error (.trailingBytes rest.length)) ∧
      (∀ fresh rest,
        (parse fresh .ignore (encoded ++ rest)).result = .ok ⟨fresh, document.file⟩) ∧
      ∀ other : Document, other.Reachable → other.file.encode = .ok encoded →
        other.file = document.file := by
  have decoded : ∀ rest, ClassFile.decoder (encoded ++ rest) = .ok document.file rest := by
    intro rest
    exact ClassFile.decoder_eq_ok_iff.mpr
      ⟨reachable.layout, encoded, ClassFile.encode_eq_ok_iff.mp wrote, rfl⟩
  have decodedAlone : ClassFile.decoder encoded = .ok document.file [] := by
    have alone := decoded []
    rwa [List.append_nil] at alone
  refine ⟨decoded, ?_, ?_, ?_, ?_⟩
  · intro fresh
    exact parse_eq_ok_iff.mpr ⟨rfl, [], decodedAlone, fun _ => rfl⟩
  · intro fresh rest left
    exact parse_reject_of_rest (decoded rest) left
  · intro fresh rest
    exact parse_eq_ok_iff.mpr ⟨rfl, rest, decoded rest, nofun⟩
  · intro other otherReachable otherWrote
    have otherDecoded : ClassFile.decoder encoded = .ok other.file [] :=
      ClassFile.decoder_eq_ok_iff.mpr ⟨otherReachable.layout, encoded,
        ClassFile.encode_eq_ok_iff.mp otherWrote, (List.append_nil encoded).symm⟩
    rw [decodedAlone] at otherDecoded
    exact (EStateM.Result.ok.inj otherDecoded).1.symm

/-- A document that was opened, then edited, pushed to and assigned to. -/
def changedSample : Document :=
  let opened : Document := ⟨⟨0⟩, sampleFile⟩
  let edited := (opened.perform (.setSuperClass (some ⟨⟨0⟩, 4⟩))).document
  let pushed : Document :=
    { edited with file.pool := (edited.file.pool.perform (.push (.double 1) 1)).2 }
  { pushed with file := pushed.file.assign (.attributes [⟨77, [1, 2]⟩]) }

theorem decode_encode_changedSample :
    changedSample.Reachable ∧
      ∃ encoded, changedSample.file.encode = .ok encoded ∧
        ClassFile.decoder (encoded ++ [9]) = .ok changedSample.file [9] := by
  have opened : (parse ⟨0⟩ .reject sampleBytes).result = .ok ⟨⟨0⟩, sampleFile⟩ := rfl
  have reachable : changedSample.Reachable :=
    .assign _ (.pool _ (.edit _ (.opened opened)))
  exact ⟨reachable, _, rfl, (reachable.decode_encode rfl).1 [9]⟩

end Document

end ClassFormat
