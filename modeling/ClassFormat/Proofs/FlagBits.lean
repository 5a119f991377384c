import ClassFormat.Proofs.EditOutcomes
import ClassFormat.Workspace.Command

/-!
# Access flags bit by bit

A step on access flags writes the bits of its mask and no others (`FlagStep.bit_apply`), whether or
not they have a meaning.  A keyword writes the mask of the flag that is called so.  So after any
number of requests a bit has the value of the last request that wrote it, or the one it had before
(`FlagRequest.bit_applyAll`).

The flags of a class file and of its members are edited in this way.  Such an edit changes one mask
and nothing else (`Document.flags_written_bitwise`).
-/

namespace ClassFormat

/-! ## Bits of a mask -/

namespace AccessFlags

/-- A bit of a mask. -/
def bit (bits : UInt16) (position : Nat) : Bool :=
  bits.toNat.testBit position

theorem bit_eq_getLsbD (bits : UInt16) (position : Nat) :
    bit bits position = bits.toBitVec.getLsbD position :=
  rfl

theorem bit_of_ge {position : Nat} (outside : 16 ≤ position) (bits : UInt16) :
    bit bits position = false :=
  BitVec.getLsbD_of_ge _ _ outside

/-- Masks with the same bits are equal. -/
theorem eq_of_bit_eq {bits other : UInt16}
    (same : ∀ position, bit bits position = bit other position) :
    bits = other :=
  UInt16.toNat.inj (Nat.eq_of_testBit_eq same)

theorem bit_and (bits other : UInt16) (position : Nat) :
    bit (bits &&& other) position = (bit bits position && bit other position) := by
  rw [bit_eq_getLsbD, UInt16.toBitVec_and, BitVec.getLsbD_and]
  rfl

/-- Exactly the bits of the mask are set or cleared. -/
theorem bit_set (bits mask : UInt16) (value : Bool) (position : Nat) :
    bit (set bits mask value) position =
      if bit mask position then value else bit bits position := by
  cases value with
  | true =>
      rw [set, if_pos rfl, bit_eq_getLsbD, UInt16.toBitVec_or, BitVec.getLsbD_or]
      simp only [← bit_eq_getLsbD]
      cases bit mask position <;> simp
  | false =>
      rw [set, if_neg Bool.false_ne_true, bit_and, bit_eq_getLsbD (~~~mask), UInt16.toBitVec_not,
        BitVec.getLsbD_not, ← bit_eq_getLsbD]
      by_cases inside : position < 16
      · cases bit mask position <;> simp [inside]
      · simp [bit_of_ge (Nat.le_of_not_lt inside) bits]

theorem contains_iff {bits mask : UInt16} :
    contains bits mask = true ↔
      ∀ position, bit mask position = true → bit bits position = true := by
  rw [contains, beq_iff_eq]
  constructor
  · intro kept position masked
    rw [← kept, bit_and, Bool.and_eq_true] at masked
    exact masked.1
  · intro covered
    refine eq_of_bit_eq fun position => ?_
    rw [bit_and]
    cases masked : bit mask position with
    | false => exact Bool.and_false _
    | true => rw [covered position masked, Bool.and_true]

end AccessFlags

/-! ## Flags with a keyword -/

/-- No keyword stands for two flags of a context. -/
theorem FlagContext.maskOf?_of_mem {context : FlagContext} {flag : NamedFlag}
    (mem : flag ∈ context.flags) :
    ∀ word ∈ flag.keyword, context.maskOf? word = some flag.mask := by
  revert flag
  cases context <;> decide +kernel

/-- A keyword is shown if all the bits of the flag that is called so are set. -/
theorem AccessFlags.mem_keywords_iff {context : FlagContext} {bits : UInt16} {word : String} :
    word ∈ keywords context bits ↔
      ∃ flag ∈ context.flags, flag.keyword = some word ∧ contains bits flag.mask = true := by
  rw [keywords, List.mem_filterMap]
  constructor
  · rintro ⟨flag, present, called⟩
    rcases List.mem_filter.mp present with ⟨mem, held⟩
    exact ⟨flag, mem, called, held⟩
  · rintro ⟨flag, mem, called, held⟩
    exact ⟨flag, List.mem_filter.mpr ⟨mem, held⟩, called⟩

/-- A keyword that is called for stands for the mask of its flag. -/
theorem FlagRequest.resolve_keyword {context : FlagContext} {flag : NamedFlag}
    (mem : flag ∈ context.flags) {word : String} (called : flag.keyword = some word)
    (value : Bool) : resolve context (.keyword word value) = .set flag.mask value := by
  rw [resolve, FlagContext.maskOf?_of_mem mem word called]
  rfl

/-! ## Steps -/

namespace FlagStep

/-- The value that a step gives to a bit, if it writes it. -/
def value? (position : Nat) : FlagStep → Option Bool
  | .set mask value => if AccessFlags.bit mask position then some value else none
  | .contains _ => none

theorem bit_apply (step : FlagStep) (bits : UInt16) (position : Nat) :
    AccessFlags.bit (step.apply bits) position =
      (step.value? position).getD (AccessFlags.bit bits position) := by
  cases step with
  | contains _ => rfl
  | set mask value =>
      rw [apply, AccessFlags.bit_set, value?]
      cases AccessFlags.bit mask position <;> rfl

theorem applyAll_append (bits : UInt16) (front back : List FlagStep) :
    applyAll bits (front ++ back) = applyAll (applyAll bits front) back :=
  List.foldl_append

/-- Steps that write different bits commute. -/
theorem apply_comm {first second : FlagStep}
    (disjoint : ∀ position, first.value? position = none ∨ second.value? position = none)
    (bits : UInt16) : second.apply (first.apply bits) = first.apply (second.apply bits) := by
  refine AccessFlags.eq_of_bit_eq fun position => ?_
  simp only [bit_apply]
  rcases disjoint position with spared | spared
  · rw [spared]
    rfl
  · rw [spared]
    rfl

theorem applyAll_swap {first second : FlagStep}
    (disjoint : ∀ position, first.value? position = none ∨ second.value? position = none)
    (bits : UInt16) (front back : List FlagStep) :
    applyAll bits (front ++ second :: first :: back) =
      applyAll bits (front ++ first :: second :: back) := by
  rw [applyAll_append, applyAll_append]
  exact congrArg (applyAll · back) (apply_comm disjoint (applyAll bits front)).symm

theorem reports_append (bits : UInt16) (front back : List FlagStep) :
    reports bits (front ++ back) = reports bits front ++ reports (applyAll bits front) back := by
  induction front generalizing bits with
  | nil => rfl
  | cons step front ih => exact congrArg (step.report bits :: ·) (ih (step.apply bits))

end FlagStep

/-! ## Requests -/

namespace FlagRequest

/-- The value that a request gives to a bit, if it writes it.  A keyword writes the bits of the flag
that is called so. -/
def value? (context : FlagContext) (position : Nat) : FlagRequest → Option Bool
  | .keyword word value =>
      if ∃ flag ∈ context.flags,
          flag.keyword = some word ∧ AccessFlags.bit flag.mask position = true then
        some value
      else none
  | .step inner => inner.value? position

/-- The value that the last of the requests that write a bit gives to it, if there is one. -/
def lastValue? (context : FlagContext) (position : Nat) (requests : List FlagRequest) :
    Option Bool :=
  requests.reverse.findSome? (value? context position)

variable {context : FlagContext}

theorem value?_resolve (request : FlagRequest) (position : Nat) :
    (request.resolve context).value? position = request.value? context position := by
  cases request with
  | step inner => rfl
  | keyword word value =>
      by_cases known : ∃ flag ∈ context.flags, flag.keyword = some word
      · rcases known with ⟨flag, mem, called⟩
        -- No other flag is called so: the mask of this one decides.
        have meant : (∃ other ∈ context.flags,
            other.keyword = some word ∧ AccessFlags.bit other.mask position = true) ↔
              AccessFlags.bit flag.mask position = true := by
          constructor
          · rintro ⟨other, otherMem, otherCalled, set⟩
            have same := (FlagContext.maskOf?_of_mem otherMem word otherCalled).symm.trans
              (FlagContext.maskOf?_of_mem mem word called)
            rwa [Option.some.inj same] at set
          · exact fun set => ⟨flag, mem, called, set⟩
        rw [resolve_keyword mem called, FlagStep.value?, value?]
        simp only [meant]
      · have noMask : context.maskOf? word = none := by
          rw [FlagContext.maskOf?, Option.map_eq_none_iff, List.find?_eq_none]
          intro flag mem called
          exact known ⟨flag, mem, beq_iff_eq.mp called⟩
        have unmeant : ¬ ∃ flag ∈ context.flags,
            flag.keyword = some word ∧ AccessFlags.bit flag.mask position = true := by
          rintro ⟨flag, mem, called, _⟩
          exact known ⟨flag, mem, called⟩
        rw [resolve, noMask, value?, if_neg unmeant]
        exact if_neg (by simp [AccessFlags.bit])

theorem lastValue?_cons (position : Nat) (request : FlagRequest) (requests : List FlagRequest) :
    lastValue? context position (request :: requests) =
      (lastValue? context position requests).or (request.value? context position) := by
  simp [lastValue?, List.findSome?_append]

/-- After any requests, the last of those that write a bit decides about it. -/
theorem bit_applyAll (bits : UInt16) (requests : List FlagRequest) (position : Nat) :
    AccessFlags.bit (FlagStep.applyAll bits (requests.map (resolve context))) position =
      (lastValue? context position requests).getD (AccessFlags.bit bits position) := by
  induction requests generalizing bits with
  | nil => rfl
  | cons request requests ih =>
      rw [lastValue?_cons, Option.getD_or, ← value?_resolve, ← FlagStep.bit_apply]
      exact ih ((request.resolve context).apply bits)

end FlagRequest

/-! ## Edits -/

/-- The place of a mask of access flags. -/
inductive MaskPlace where
  | classFile
  | member (table : MemberTable) (position : Nat)

namespace MaskPlace

/-- The place of the mask among the words of a class file. -/
def word : MaskPlace → WordPlace
  | .classFile => .accessFlags
  | .member table position => .member table position .accessFlags

/-- What the bits of a mask mean. -/
def context : MaskPlace → FlagContext
  | .classFile => .classFile
  | .member table _ => table.context

/-- The edit of a mask of the class file with a given identity. -/
def edit (identity : Identity) (requests : List FlagRequest) : MaskPlace → Edit
  | .classFile => .classFlags (requests.map (FlagRequest.resolve .classFile))
  | .member table position =>
      .memberFlags ⟨identity, table, position⟩ (requests.map (FlagRequest.resolve table.context))

theorem edit_alteration? (place : MaskPlace) (identity : Identity) (requests : List FlagRequest) :
    (place.edit identity requests).alteration? =
      some (.word place.word
        (FlagStep.applyAll · (requests.map (FlagRequest.resolve place.context)))) := by
  cases place <;> rfl

end MaskPlace

namespace Document

/-- What is known of a class file of which one mask has been edited, where `bit` tells the bits that
the mask has now. -/
structure MaskEdited (document : Document) (place : MaskPlace) (requests : List FlagRequest)
    (bit : Nat → Bool) (after : UInt16) (reports : List FlagReport) : Prop where
  result : (document.perform (place.edit document.identity requests)).result =
    .ok (.flags place.context reports)
  /-- Nothing but the mask is changed. -/
  changed : (document.perform (place.edit document.identity requests)).document =
    ⟨document.identity, document.file.modifyWord (fun _ => after) place.word⟩
  mask : (document.file.modifyWord (fun _ => after) place.word).word? place.word = some after
  others : ∀ other, other ≠ place.word →
    (document.file.modifyWord (fun _ => after) place.word).word? other =
      document.file.word? other
  bits : ∀ position, AccessFlags.bit after position = bit position
  /-- The bits tell whether flags are present, also if that is asked while editing. -/
  contains : ∀ mask,
    (AccessFlags.contains after mask = true ↔
      ∀ position, AccessFlags.bit mask position = true → bit position = true) ∧
    (document.perform
      (place.edit document.identity (requests ++ [.step (.contains mask)]))).result =
        .ok (.flags place.context
          (reports ++ [⟨after, some (AccessFlags.contains after mask)⟩]))
  keywords : ∀ word, word ∈ AccessFlags.keywords place.context after ↔
    ∃ flag ∈ place.context.flags, flag.keyword = some word ∧
      ∀ position, AccessFlags.bit flag.mask position = true → bit position = true

variable {document : Document} {place : MaskPlace} {before : UInt16}

/-- The handle of a mask that is there passes the checks. -/
theorem firstFailure?_edit (held : document.file.word? place.word = some before)
    (requests : List FlagRequest) :
    document.firstFailure? (place.edit document.identity requests).handles = none := by
  cases place with
  | classFile => rfl
  | member table position =>
      rcases Option.map_eq_some_iff.mp held with ⟨member, found, _⟩
      rcases List.getElem?_eq_some_iff.mp found with ⟨inside, _⟩
      exact firstFailure?_singleton_eq_none_iff.mpr
        (admits_iff.mpr ⟨rfl, decide_eq_true inside⟩)

theorem answer_edit (held : document.file.word? place.word = some before)
    (requests : List FlagRequest) :
    (place.edit document.identity requests).answer document.file =
      .flags place.context
        (FlagStep.reports before (requests.map (FlagRequest.resolve place.context))) := by
  cases place with
  | classFile =>
      cases held
      rfl
  | member table position =>
      rw [MaskPlace.word] at held
      rw [MaskPlace.edit, Edit.answer, held]
      rfl

/-- A mask that is there can be edited. -/
theorem perform_edit (held : document.file.word? place.word = some before)
    (requests : List FlagRequest) :
    let steps := requests.map (FlagRequest.resolve place.context)
    (document.perform (place.edit document.identity requests)).result =
        .ok (.flags place.context (FlagStep.reports before steps)) ∧
      (document.perform (place.edit document.identity requests)).document =
        ⟨document.identity,
          document.file.modifyWord (fun _ => FlagStep.applyAll before steps) place.word⟩ := by
  intro steps
  have alters := place.edit_alteration? document.identity requests
  have passed := firstFailure?_edit held requests
  have written : document.file.modifyWord (FlagStep.applyAll · steps) place.word =
      document.file.modifyWord (fun _ => FlagStep.applyAll before steps) place.word := by
    apply ClassFile.modifyWord_congr
    intro word found
    cases held.symm.trans found
    rfl
  rw [document.perform_result alters, document.perform_document alters, passed, if_pos rfl,
    answer_edit held, ClassFile.alter, written]
  exact ⟨rfl, rfl⟩

/-- Editing a mask writes it bit by bit: a bit has the value that the last request which writes it
gives to it, and its old value if there is none.  A keyword writes the mask of the flag that is
called so.  Requests that write different bits can be swapped. -/
theorem flags_written_bitwise (document : Document) (place : MaskPlace) {before : UInt16}
    (held : document.file.word? place.word = some before) (requests : List FlagRequest) :
    (∃ after reports,
      document.MaskEdited place requests
        (fun position =>
          (FlagRequest.lastValue? place.context position requests).getD
            (AccessFlags.bit before position))
        after reports) ∧
      (∀ flag ∈ place.context.flags, ∀ word value, flag.keyword = some word →
        FlagRequest.resolve place.context (.keyword word value) = .set flag.mask value) ∧
      ∀ front first second back,
        requests = front ++ first :: second :: back →
          (∀ position, first.value? place.context position = none ∨
            second.value? place.context position = none) →
            (document.perform
              (place.edit document.identity (front ++ second :: first :: back))).document =
              (document.perform (place.edit document.identity requests)).document := by
  have bits := @FlagRequest.bit_applyAll place.context before requests
  refine ⟨⟨FlagStep.applyAll before (requests.map (FlagRequest.resolve place.context)), _,
    { result := (perform_edit held requests).1
      changed := (perform_edit held requests).2
      mask := ?_
      others := ?_
      bits
      contains := fun mask => ?_
      keywords := fun word => ?_ }⟩, ?_, ?_⟩
  · rw [ClassFile.word?_modifyWord, if_pos rfl, held]
    rfl
  · intro other different
    rw [ClassFile.word?_modifyWord, if_neg different]
  · simp only [← bits]
    refine ⟨AccessFlags.contains_iff, ?_⟩
    rw [(perform_edit held _).1, List.map_append, FlagStep.reports_append]
    rfl
  · simp only [← bits, AccessFlags.mem_keywords_iff, AccessFlags.contains_iff]
  · exact fun flag mem word value called => FlagRequest.resolve_keyword mem called value
  · rintro front first second back rfl disjoint
    simp only [← FlagRequest.value?_resolve] at disjoint
    rw [(perform_edit held _).2, (perform_edit held _).2]
    simp only [List.map_append, List.map_cons]
    rw [FlagStep.applyAll_swap disjoint]

/-- Bit 15 means nothing for a field.  The last request clears a bit that the first one sets and one
that was set before. -/
theorem flags_written_bitwise_sample :
    let document : Document := ⟨⟨0⟩, sampleFile⟩
    let place : MaskPlace := .member .fields 0
    let requests : List FlagRequest :=
      [.step (.set 0x8011 true), .keyword "volatile" true, .step (.set 0x12 false)]
    let swapped : List FlagRequest :=
      [.keyword "volatile" true, .step (.set 0x8011 true), .step (.set 0x12 false)]
    document.file.word? place.word = some 0x2 ∧
      (∃ reports,
        document.MaskEdited place requests
          (fun position =>
            (FlagRequest.lastValue? .field position requests).getD
              (AccessFlags.bit 0x2 position))
          0x8041 reports) ∧
      (document.perform (place.edit ⟨0⟩ swapped)).document =
        (document.perform (place.edit ⟨0⟩ requests)).document := by
  intro document place requests swapped
  have held : document.file.word? place.word = some 0x2 := rfl
  have written : (document.perform (place.edit ⟨0⟩ requests)).document.file.word? place.word =
      some 0x8041 := by
    decide +kernel
  rcases document.flags_written_bitwise place held requests with
    ⟨⟨after, reports, edited⟩, _, swap⟩
  rw [edited.changed, edited.mask] at written
  cases written
  have low : ∀ position < 16,
      FlagRequest.value? .field position (.step (.set 0x8011 true)) = none ∨
        FlagRequest.value? .field position (.keyword "volatile" true) = none := by
    decide +kernel
  refine ⟨held, ⟨reports, edited⟩, swap [] _ _ _ rfl fun position => ?_⟩
  rcases Nat.lt_or_ge position 16 with inside | outside
  · exact low position inside
  · exact .inl (if_neg (by simp [AccessFlags.bit_of_ge outside]))

end Document

end ClassFormat
