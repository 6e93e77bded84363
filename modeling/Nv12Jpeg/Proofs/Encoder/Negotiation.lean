import Nv12Jpeg.Encoder.Cpu
import Nv12Jpeg.Proofs.Encoder.ParamsCheck

/-!
# What comes of negotiated parameters

A query replaces what the software encoder does not support. What it leaves is not adjusted any
further, but it is accepted only if an aligned 16-bit side can cover the crop:

* `EncodeParams.adjust_adjust` — adjusting once is enough;
* `EncodeParams.isSupported_supported_iff` — adjusting helps exactly crops of at most 65520 columns
  and rows;
* `CpuEncoder.init_after_query` — parameters a query agreed to are accepted and kept as they are, or
  refused for their allocation.
-/

namespace Nv12Jpeg

namespace EncodeParams

variable {params : EncodeParams}

/-- Parameters are supported as they are if they have no defect that another value remedies. -/
theorem isSupported_iff : params.isSupported = true ↔ params.adjustableDefect? = none := by
  rw [adjustableDefect?_eq_none, isSupported]
  simp [and_assoc]

@[simp] theorem supported_withWorstCase (params : EncodeParams) :
    params.withWorstCase.supported = { params.supported with bufferSizeKb := params.worstCaseKb } :=
  rfl

/-- Adjusting does not touch what there is no remedy for. -/
@[simp] theorem fixedDefect?_adjust (params : EncodeParams) (implementation : Implementation) :
    params.adjust.2.fixedDefect? implementation = params.fixedDefect? implementation := rfl

@[simp] theorem isSupported_adjust (params : EncodeParams) :
    params.adjust.2.isSupported = params.supported.isSupported := rfl

@[simp] theorem withWorstCase_adjust (params : EncodeParams) :
    params.adjust.2.withWorstCase = params.adjust.2 := rfl

section Sides

variable {allocated crop : UInt16}

/-- A side that is replaced is not replaced again. -/
@[simp] theorem supportedSide_supportedSide (allocated crop : UInt16) :
    supportedSide (supportedSide allocated crop) crop = supportedSide allocated crop := by
  by_cases covered : covers allocated crop = true <;> simp [supportedSide, covered]

/-- The largest aligned side covers whatever an aligned side covers. -/
theorem le_of_covers (covered : covers allocated crop = true) : crop.toNat ≤ 65520 := by
  obtain ⟨aligned, within⟩ := covers_iff.1 covered
  have := allocated.toNat_lt
  omega

/-- A supported side covers the crop unless there is no aligned side that does. -/
theorem covers_supportedSide_iff :
    covers (supportedSide allocated crop) crop = true ↔ crop.toNat ≤ 65520 := by
  refine ⟨le_of_covers, fun within => ?_⟩
  unfold supportedSide
  split
  · assumption
  · exact covers_align16 within

end Sides

theorem hasQuality_supported (params : EncodeParams) : params.supported.hasQuality = true := by
  rw [hasQuality_iff]
  show 1 ≤ params.supportedQuality.toNat ∧ params.supportedQuality.toNat ≤ 100
  rw [toNat_supportedQuality]
  omega

/-- What is replaced once is not replaced again. -/
theorem supported_supported (params : EncodeParams) :
    params.supported.supported = params.supported := by
  have quality : params.supported.supportedQuality = params.supportedQuality :=
    if_pos params.hasQuality_supported
  unfold supported at quality ⊢
  simp only [supportedSide_supportedSide, quality]

/-- Adjusting once is enough. -/
theorem adjust_adjust (params : EncodeParams) : params.adjust.2.adjust.2 = params.adjust.2 := by
  show params.supported.withWorstCase.supported.withWorstCase = params.supported.withWorstCase
  rw [supported_withWorstCase, supported_supported]
  rfl

/-- Adjusting helps exactly crops that an aligned 16-bit side can cover. -/
theorem isSupported_supported_iff :
    params.supported.isSupported = true ↔
      params.frameInfo.cropW.toNat ≤ 65520 ∧ params.frameInfo.cropH.toNat ≤ 65520 := by
  rw [isSupported, hasQuality_supported, Bool.true_and, Bool.and_eq_true, Bool.and_eq_true]
  show (covers (supportedSide _ params.frameInfo.cropW) params.frameInfo.cropW = true ∧
    covers (supportedSide _ params.frameInfo.cropH) params.frameInfo.cropH = true) ∧
      true = true ↔ _
  rw [covers_supportedSide_iff, covers_supportedSide_iff, and_iff_left rfl]

/-- Of adjusted parameters that are not supported the allocation is at fault. -/
theorem adjustableDefect?_supported
    (beyond : ¬(params.frameInfo.cropW.toNat ≤ 65520 ∧ params.frameInfo.cropH.toNat ≤ 65520)) :
    params.supported.adjustableDefect? = some (.allocation params.supported.frameInfo) := by
  have uncovered :
      ¬(covers params.supported.frameInfo.width params.supported.frameInfo.cropW = true ∧
        covers params.supported.frameInfo.height params.supported.frameInfo.cropH = true) := by
    intro covered
    exact beyond (isSupported_supported_iff.1 (by
      rw [isSupported, hasQuality_supported, covered.1, covered.2]
      rfl))
  rw [adjustableDefect?, hasQuality_supported]
  simp only [Bool.not_true, Bool.false_eq_true, if_false]
  rw [if_pos (by simpa [Classical.or_iff_not_imp_left] using uncovered)]

end EncodeParams

namespace CpuEncoder

variable {cpu : CpuEncoder} {asked agreed : EncodeParams} {outcome : QueryOutcome}

/-- Parameters that a query agreed to. -/
theorem query_eq_ok :
    (cpu.query asked).reply = .ok (outcome, agreed) ↔
      asked.fixedDefect? .cpu = none ∧ asked.adjust = (outcome, agreed) := by
  rw [query]
  cases asked.fixedDefect? .cpu with
  | none => simp [Answer.ok, Answer.quiet]
  | some defect => simp [Answer.refused, Answer.quiet, Attempt.fail]

/-- Another query on adjusted parameters changes nothing, and says whether they are supported. -/
theorem query_adjusted (fixed : asked.fixedDefect? .cpu = none) (cpu : CpuEncoder) :
    cpu.query asked.adjust.2
      = .ok (if asked.supported.isSupported then .exact else .adjusted, asked.adjust.2) cpu := by
  have again : asked.adjust.2.adjust
      = (if asked.supported.isSupported then .exact else .adjusted, asked.adjust.2) := by
    refine Prod.ext ?_ (EncodeParams.adjust_adjust asked)
    rw [← EncodeParams.isSupported_adjust]
    rfl
  rw [query, EncodeParams.fixedDefect?_adjust, fixed]
  exact congrArg (Answer.ok · cpu) again

/-- What a query leaves is accepted by an encoder without parameters, and is from then on what it
reports and what a query leaves as it is, if the crop has at most 65520 columns and rows. A larger
crop is left with an allocation that does not cover it, and refused. -/
theorem init_after_query (fresh : cpu.params = none)
    (judged : (cpu.query asked).reply = .ok (outcome, agreed)) :
    (asked.frameInfo.cropW.toNat ≤ 65520 ∧ asked.frameInfo.cropH.toNat ≤ 65520 →
      (cpu.init agreed).reply = .ok () ∧
      (cpu.init agreed).state.currentParams.reply = .ok agreed ∧
      ∀ later : CpuEncoder, later.query agreed = .ok (.exact, agreed) later) ∧
    (¬(asked.frameInfo.cropW.toNat ≤ 65520 ∧ asked.frameInfo.cropH.toNat ≤ 65520) →
      cpu.init agreed = .refused (ParamsDefect.allocation agreed.frameInfo).toError cpu ∧
      ∀ later : CpuEncoder, later.query agreed = .ok (.adjusted, agreed) later) := by
  obtain ⟨fixed, adjusted⟩ := query_eq_ok.1 judged
  obtain rfl : asked.adjust.2 = agreed := congrArg Prod.snd adjusted
  have again := query_adjusted fixed
  constructor
  · intro within
    have supported := EncodeParams.isSupported_supported_iff.2 within
    have sound : asked.adjust.2.defect? .cpu = none := by
      refine EncodeParams.defect?_eq_none.2 ⟨?_, EncodeParams.isSupported_iff.1 ?_⟩
      · rw [EncodeParams.fixedDefect?_adjust, fixed]
      · rw [EncodeParams.isSupported_adjust, supported]
    have accepts : cpu.init asked.adjust.2 = (Answer.ok () { cpu with
        params := some asked.adjust.2
        worker := some (.start (depthOf asked.adjust.2))
        credits := .ofCapacity (depthOf asked.adjust.2) }).report
          (.encoderInitialized asked.adjust.2) := by
      rw [init_of_sound fresh sound, EncodeParams.withWorstCase_adjust]
    rw [accepts]
    refine ⟨rfl, rfl, fun later => ?_⟩
    rw [again later, if_pos supported]
  · intro beyond
    have unsupported := mt EncodeParams.isSupported_supported_iff.1 beyond
    have defect : asked.adjust.2.defect? .cpu
        = some (.allocation asked.adjust.2.frameInfo) := by
      rw [EncodeParams.defect?, EncodeParams.fixedDefect?_adjust, fixed, Option.none_or]
      exact EncodeParams.adjustableDefect?_supported beyond
    constructor
    · exact init_of_defect fresh defect
    · intro later
      rw [again later, if_neg unsupported]

/-- Parameters for pictures of 65520 columns that ask for too high a quality. -/
theorem init_after_query_largest :
    (CpuEncoder.new false []).params = none ∧
      ((CpuEncoder.new false []).query (.jpeg 65520 1 25 101)).reply
        = .ok (.adjusted, (EncodeParams.jpeg 65520 1 25 100).withWorstCase) ∧
      ((CpuEncoder.new false []).init (EncodeParams.jpeg 65520 1 25 100).withWorstCase).reply
        = .ok () := by
  have judged : ((CpuEncoder.new false []).query (.jpeg 65520 1 25 101)).reply
      = .ok (.adjusted, (EncodeParams.jpeg 65520 1 25 100).withWorstCase) := rfl
  exact ⟨rfl, judged, ((init_after_query rfl judged).1 (by decide)).1⟩

/-- A query agrees to pictures of 65521 columns, which an encoder without parameters then refuses
and another query does not leave as supported. -/
theorem init_after_query_too_wide :
    ∃ agreed, ((CpuEncoder.new false []).query (.jpeg 65521 16 25 90)).reply
        = .ok (.adjusted, agreed) ∧
      ((CpuEncoder.new false []).init agreed).reply ≠ .ok () ∧
      ((CpuEncoder.new false []).query agreed).reply ≠ .ok (.exact, agreed) := by
  refine ⟨_, rfl, ?_, ?_⟩
  · nofun
  · nofun

end CpuEncoder

end Nv12Jpeg
