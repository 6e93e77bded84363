import Nv12Jpeg.Proofs.Encoder.Negotiation

/-!
# Four calls with one judgement

A query, the initialization, the surface request and a reset all look at parameters, and each has an
answer of its own to what is wrong with them. They judge alike:

* `EncodeParams.Remediable` — what parameters must be that nothing replaces;
* `EncodeParams.remedied` — parameters with each value that can be replaced by the closest one;
* `CpuEncoder.query_judges_as_init` — a query has nothing to change exactly in what the
  initialization accepts, refuses what is not remediable, as the others do with the same error, and
  otherwise remedies it; a reset accepts what the initialization would.
-/

namespace Nv12Jpeg

namespace EncodeParams

variable {params : EncodeParams} {implementation : Implementation}

/-- What parameters must be that nothing replaces. -/
structure Remediable (params : EncodeParams) (implementation : Implementation) : Prop where
  known_codec : params.codec ∈ implementation.codecs
  positive_crop : 0 < params.frameInfo.cropW.toNat ∧ 0 < params.frameInfo.cropH.toNat
  crop_at_origin : params.frameInfo.cropX = 0 ∧ params.frameInfo.cropY = 0
  positive_rate : 0 < params.frameInfo.frameRate.numerator.toNat ∧
    0 < params.frameInfo.frameRate.denominator.toNat
  system_memory : params.ioPattern = .systemMemory

/-- The parameters with each value that can be replaced by the closest one that is supported: the
nearest quality, the aligned crop for a side that is not aligned or too short, and interleaved
scans. -/
def remedied (params : EncodeParams) : EncodeParams :=
  let info := params.frameInfo
  { params with
    quality := UInt16.ofNat (min (max params.quality.toNat 1) 100)
    frameInfo := { info with
      width := if 16 ∣ info.width.toNat ∧ info.cropW ≤ info.width then info.width
        else align16 info.cropW
      height := if 16 ∣ info.height.toNat ∧ info.cropH ≤ info.height then info.height
        else align16 info.cropH }
    interleaved := true
    bufferSizeKb := params.worstCaseKb }

private theorem pos_iff_ne_zero16 (value : UInt16) : 0 < value.toNat ↔ value ≠ 0 := by
  rw [Nat.pos_iff_ne_zero, ne_eq, ne_eq, ← UInt16.toNat_inj, UInt16.toNat_zero]

private theorem pos_iff_ne_zero32 (value : UInt32) : 0 < value.toNat ↔ value ≠ 0 := by
  rw [Nat.pos_iff_ne_zero, ne_eq, ne_eq, ← UInt32.toNat_inj, UInt32.toNat_zero]

/-- There is no fixed defect exactly in remediable parameters. -/
theorem remediable_iff :
    params.Remediable implementation ↔ params.fixedDefect? implementation = none := by
  rw [fixedDefect?_eq_none, List.contains_iff_mem]
  constructor
  · rintro ⟨codec, ⟨wide, high⟩, origin, ⟨numerator, denominator⟩, memory⟩
    exact ⟨codec, ⟨(pos_iff_ne_zero16 _).1 wide, (pos_iff_ne_zero16 _).1 high⟩, origin,
      ⟨(pos_iff_ne_zero32 _).1 denominator, (pos_iff_ne_zero32 _).1 numerator⟩, memory⟩
  · rintro ⟨codec, ⟨wide, high⟩, origin, ⟨denominator, numerator⟩, memory⟩
    exact ⟨codec, ⟨(pos_iff_ne_zero16 _).2 wide, (pos_iff_ne_zero16 _).2 high⟩, origin,
      ⟨(pos_iff_ne_zero32 _).2 numerator, (pos_iff_ne_zero32 _).2 denominator⟩, memory⟩

theorem supportedSide_eq (allocated crop : UInt16) :
    supportedSide allocated crop
      = if 16 ∣ allocated.toNat ∧ crop ≤ allocated then allocated else align16 crop := by
  simp only [supportedSide, covers_iff, Nat.dvd_iff_mod_eq_zero, UInt16.le_iff_toNat_le]

theorem supportedQuality_eq (params : EncodeParams) :
    params.supportedQuality = UInt16.ofNat (min (max params.quality.toNat 1) 100) := by
  rw [← toNat_supportedQuality, UInt16.ofNat_toNat]

/-- Adjusting remedies. -/
theorem adjust_eq_remedied (params : EncodeParams) : params.adjust.2 = params.remedied := by
  show params.supported.withWorstCase = _
  simp only [supported, withWorstCase, remedied, supportedSide_eq, supportedQuality_eq]
  rfl

/-- Nothing is adjusted in parameters without an adjustable defect. -/
theorem adjust_fst_eq_exact :
    params.adjust.1 = .exact ↔ params.adjustableDefect? = none := by
  rw [← isSupported_iff, adjust]
  cases params.isSupported <;> simp

end EncodeParams

namespace CpuEncoder

variable {cpu : CpuEncoder} {asked : EncodeParams}

/-- The initialization accepts exactly parameters without a defect. -/
theorem init_eq_ok_iff (fresh : cpu.params = none) :
    (cpu.init asked).reply = .ok () ↔ asked.defect? .cpu = none := by
  cases found : asked.defect? .cpu with
  | none => simp [init_of_sound fresh found, Answer.report, Answer.ok, Answer.quiet]
  | some defect => simp [init_of_defect fresh found, Answer.refused, Answer.quiet, Attempt.fail]

/-- So does a reset to as many submissions under way. -/
theorem reset_eq_ok_iff {current : EncodeParams} (active : cpu.params = some current)
    (depth_eq : depthOf asked = depthOf current) :
    (cpu.reset asked).reply = .ok () ↔ asked.defect? .cpu = none := by
  rw [reset, active]
  cases asked.defect? .cpu with
  | none => simp [depth_eq, Answer.report, Answer.ok, Answer.quiet]
  | some defect => simp [Answer.refused, Answer.quiet, Attempt.fail]

/-- Parameters that were accepted are in force. -/
theorem params_of_init_eq_ok (fresh : cpu.params = none)
    (accepted : (cpu.init asked).reply = .ok ()) :
    (cpu.init asked).state.params = some asked.withWorstCase := by
  have sound := (init_eq_ok_iff fresh).1 accepted
  rw [init_of_sound fresh sound]
  rfl

/-- What a fixed defect leads to, whatever the call. -/
theorem refused_of_fixedDefect {defect : ParamsDefect} (fresh : cpu.params = none)
    (fixed : asked.fixedDefect? .cpu = some defect) :
    cpu.query asked = .refused defect.toError cpu ∧
      cpu.init asked = .refused defect.toError cpu ∧
      cpu.surfaceRequest asked = .refused defect.toError cpu := by
  have first : asked.defect? .cpu = some defect := by
    rw [EncodeParams.defect?, fixed, Option.some_or]
  refine ⟨?_, ?_, ?_⟩
  · rw [query, fixed]
  · exact init_of_defect fresh first
  · rw [surfaceRequest, fixed]

/-- A query of remediable parameters. -/
theorem query_of_remediable (remediable : asked.Remediable .cpu) :
    (cpu.query asked).reply
      = .ok (if asked.adjustableDefect? = none then .exact else .adjusted, asked.remedied) := by
  have judged : asked.adjust
      = (if asked.adjustableDefect? = none then .exact else .adjusted, asked.remedied) := by
    refine Prod.ext ?_ asked.adjust_eq_remedied
    split
    case isTrue sound => exact EncodeParams.adjust_fst_eq_exact.2 sound
    case isFalse defective =>
      have changed := mt EncodeParams.adjust_fst_eq_exact.1 defective
      rw [EncodeParams.adjust] at changed ⊢
      split at changed
      · exact absurd rfl changed
      · rw [if_neg ‹_›]
  exact query_eq_ok.2 ⟨EncodeParams.remediable_iff.1 remediable, judged⟩

/-- Before the initialization a query has nothing to change exactly in parameters that the
initialization accepts. It is refused exactly for parameters that are not remediable, and then the
initialization and the surface request are refused with the same error. Otherwise it gives the
parameters remedied, and with every other value as it was. A reset of an encoder in use to as many
submissions under way is accepted exactly if the initialization would be. -/
theorem query_judges_as_init (fresh : cpu.params = none) (asked : EncodeParams) :
    ((∃ agreed, (cpu.query asked).reply = .ok (.exact, agreed)) ↔
      (cpu.init asked).reply = .ok ()) ∧
    ((∃ failure, (cpu.query asked).reply = .error failure) ↔ ¬ asked.Remediable .cpu) ∧
    (∀ failure, (cpu.query asked).reply = .error failure →
      (cpu.init asked).reply = .error failure ∧
      (cpu.surfaceRequest asked).reply = .error failure) ∧
    (∀ outcome agreed, (cpu.query asked).reply = .ok (outcome, agreed) →
      agreed = asked.remedied) ∧
    ∀ (opened : CpuEncoder) (current : EncodeParams), opened.params = some current →
      max asked.asyncDepth.toNat 1 = max current.asyncDepth.toNat 1 →
      ((opened.reset asked).reply = .ok () ↔ (cpu.init asked).reply = .ok ()) := by
  have reset_as_init : ∀ (opened : CpuEncoder) (current : EncodeParams),
      opened.params = some current →
      max asked.asyncDepth.toNat 1 = max current.asyncDepth.toNat 1 →
      ((opened.reset asked).reply = .ok () ↔ (cpu.init asked).reply = .ok ()) := by
    intro opened current active depth_eq
    rw [reset_eq_ok_iff active depth_eq, init_eq_ok_iff fresh]
  cases fixed : asked.fixedDefect? .cpu with
  | some defect =>
    obtain ⟨queried, initialized, requested⟩ := refused_of_fixedDefect fresh fixed
    have hopeless : ¬ asked.Remediable .cpu := fun remediable =>
      nomatch fixed.symm.trans (EncodeParams.remediable_iff.1 remediable)
    rw [queried, initialized, requested]
    refine ⟨?_, iff_of_true ⟨_, rfl⟩ hopeless, ?_, nofun, ?_⟩
    · exact iff_of_false nofun nofun
    · rintro failure ⟨⟩
      exact ⟨rfl, rfl⟩
    · exact initialized ▸ reset_as_init
  | none =>
    have remediable := EncodeParams.remediable_iff.2 fixed
    have queried : (cpu.query asked).reply = _ := query_of_remediable remediable
    refine ⟨?_, iff_of_false ?_ (not_not_intro remediable), ?_, ?_, reset_as_init⟩
    · rw [init_eq_ok_iff fresh, EncodeParams.defect?_eq_none, queried]
      by_cases sound : asked.adjustableDefect? = none
      · simp [sound, fixed]
      · simp [sound]
    · rintro ⟨failure, told⟩
      cases queried.symm.trans told
    · intro failure told
      cases queried.symm.trans told
    · intro outcome agreed told
      cases queried.symm.trans told
      rfl

/-- Parameters with a side that is not aligned, too high a quality and separate scans, for two
submissions under way. -/
private def unaligned : EncodeParams :=
  { EncodeParams.jpeg 33 20 25 101 with
    frameInfo := { FrameInfo.nv12 33 20 25 with width := 40 }
    interleaved := false
    asyncDepth := 2 }

/-- They are refused as they are, and accepted as a query gives them back. -/
theorem query_judges_as_init_of_unaligned :
    ((CpuEncoder.new false []).query unaligned).reply
        = .ok (.adjusted, { EncodeParams.jpeg 33 20 25 100 with
            asyncDepth := 2, bufferSizeKb := 6 }) ∧
      ((CpuEncoder.new false []).init unaligned).reply ≠ .ok () ∧
      ((CpuEncoder.new false []).init unaligned.remedied).reply = .ok () ∧
      (((CpuEncoder.new false []).init unaligned.remedied).state.reset unaligned).reply
        ≠ .ok () := by
  have fresh : (CpuEncoder.new false []).params = none := rfl
  have queried : ((CpuEncoder.new false []).query unaligned).reply
      = .ok (.adjusted, { EncodeParams.jpeg 33 20 25 100 with
          asyncDepth := 2, bufferSizeKb := 6 }) :=
    query_eq_ok.2 ⟨by decide, by decide⟩
  obtain ⟨exact_iff, _, _, given, reset_iff⟩ := query_judges_as_init fresh unaligned
  have refused : ((CpuEncoder.new false []).init unaligned).reply ≠ .ok () := by
    intro accepted
    obtain ⟨agreed, judged⟩ := exact_iff.2 accepted
    cases queried.symm.trans judged
  have accepted : ((CpuEncoder.new false []).init unaligned.remedied).reply = .ok () := by
    have again : ((CpuEncoder.new false []).query unaligned.remedied).reply
        = .ok (.exact, unaligned.remedied) := by
      rw [← given _ _ queried]
      exact query_eq_ok.2 ⟨by decide, by decide⟩
    exact (query_judges_as_init fresh unaligned.remedied).1.1 ⟨_, again⟩
  have in_force := params_of_init_eq_ok fresh accepted
  exact ⟨queried, refused, accepted, fun told => refused ((reset_iff _ _ in_force rfl).1 told)⟩

end CpuEncoder

end Nv12Jpeg
