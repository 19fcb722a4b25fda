import ServingPreset.KvCache
import ServingPreset.Proofs.Number.Word

/-!
# Cached elements

The number of cached elements is a sum for latent attention and a product for stated heads,
and zero for a configuration that does not say. The room of the cache can be had exactly
when that number has a word (`footprint_eq`): the layers and the width of an element come on
top by operations that are held at the limits. As the width of an element is positive, being
held twice is being held once (`mulSaturating_mulSaturating`).
-/

namespace ServingPreset

namespace AttentionShape

/-- Whether the numbers and the width of the heads are all known. -/
def HasHeads (shape : AttentionShape) : Prop :=
  0 < shape.heads ∧ 0 < shape.effectiveKvHeads ∧ 0 < shape.effectiveHeadDim

instance (shape : AttentionShape) : Decidable shape.HasHeads :=
  inferInstanceAs (Decidable (_ ∧ _ ∧ _))

theorem hasHeads_iff {shape : AttentionShape} :
    shape.HasHeads ↔ 0 < shape.heads.toInt ∧ 0 < shape.effectiveKvHeads.toInt ∧
      0 < shape.effectiveHeadDim.toInt := by
  simp only [HasHeads, Int64.lt_iff_toInt_lt, Int64.toInt_zero]

/-- The kind of attention that is recognized. -/
def kind (shape : AttentionShape) : AttentionKind :=
  match shape.latentRank with
  | some _ => .latent
  | none =>
      if shape.HasHeads then headKind shape.heads shape.effectiveKvHeads else .unknown

/-- The number of cached elements per token and layer, however large. -/
def exactElements (shape : AttentionShape) : Int :=
  match shape.latentRank with
  | some rank => rank.toInt + shape.ropeDim.toInt
  | none =>
      if shape.HasHeads then 2 * shape.effectiveKvHeads.toInt * shape.effectiveHeadDim.toInt
      else 0

/-- The fault of a number of elements that has no word. -/
def overflowFault (shape : AttentionShape) : Fault :=
  if shape.latentRank.isSome then .additionOverflow else .multiplicationOverflow

theorem elements_eq (shape : AttentionShape) :
    shape.elements =
      if FitsSigned shape.exactElements then .ok (shape.kind, Int64.ofInt shape.exactElements)
      else .error shape.overflowFault := by
  cases latent : shape.latentRank with
  | some rank =>
      simp only [elements, exactElements, kind, overflowFault, latent, addSigned_eq]
      split <;> rfl
  | none =>
      by_cases stated : shape.HasHeads
      · rcases hasHeads_iff.mp stated with ⟨_, groups, width⟩
        have product := mulSigned_two_bind shape.effectiveKvHeads shape.effectiveHeadDim
          (Int.le_of_lt groups) width
        have assembled : shape.elements =
            (mulSigned 2 shape.effectiveKvHeads >>= fun double =>
              mulSigned double shape.effectiveHeadDim).map
                fun elements => (headKind shape.heads shape.effectiveKvHeads, elements) := by
          rw [elements, latent]
          refine (if_pos stated).trans ?_
          cases mulSigned 2 shape.effectiveKvHeads with
          | error fault => rfl
          | ok double => cases mulSigned double shape.effectiveHeadDim <;> rfl
        rw [assembled, product]
        simp only [exactElements, kind, overflowFault, latent, if_pos stated]
        split <;> rfl
      · have fits : FitsSigned 0 := by decide
        have unstated : shape.elements = .ok (.unknown, 0) := by
          rw [elements, latent]
          exact if_neg stated
        simp only [unstated, exactElements, kind, latent, if_neg stated, if_pos fits]
        rfl

/-- The room of a cache whose number of elements has a word. -/
def exactFootprint (shape : AttentionShape) : CacheFootprint where
  kind := shape.kind
  elementsPerToken := Int64.ofInt shape.exactElements
  bytesPerToken := unsignedOrZero
    (mulSaturating (mulSaturating (Int64.ofInt shape.exactElements) shape.layers) bytesPerElement)

theorem footprint_eq (shape : AttentionShape) :
    shape.footprint =
      if FitsSigned shape.exactElements then .ok shape.exactFootprint
      else .error shape.overflowFault := by
  rw [footprint, elements_eq]
  split <;> rfl

/-! ### In whole numbers -/

theorem derived_iff {stated heads : Int64} :
    stated = 0 ∧ 0 < heads ↔ stated.toInt = 0 ∧ 0 < heads.toInt :=
  and_congr Int64.toInt_inj.symm Int64.lt_iff_toInt_lt

theorem toInt_effectiveHeadDim (shape : AttentionShape) :
    shape.effectiveHeadDim.toInt =
      if shape.headDim.toInt = 0 ∧ 0 < shape.heads.toInt then
        shape.hiddenSize.toInt.tdiv shape.heads.toInt
      else shape.headDim.toInt := by
  simp only [effectiveHeadDim, ← derived_iff]
  split
  · next derived => exact toInt_div_of_positive derived.2
  · rfl

theorem toInt_effectiveKvHeads (shape : AttentionShape) :
    shape.effectiveKvHeads.toInt =
      if shape.kvHeads.toInt = 0 ∧ 0 < shape.heads.toInt then
        if shape.multiQuery then 1 else shape.heads.toInt
      else shape.kvHeads.toInt := by
  simp only [effectiveKvHeads, ← derived_iff]
  split
  · cases shape.multiQuery <;> rfl
  · rfl

theorem headKind_eq (heads kvHeads : Int64) :
    headKind heads kvHeads =
      if kvHeads.toInt = heads.toInt then .multiHead
      else if kvHeads.toInt = 1 then .multiQuery
      else .groupedQuery := by
  have one : (1 : Int64).toInt = 1 := rfl
  simp only [headKind, ← one, Int64.toInt_inj, eq_comm]

theorem toNat_bytesPerToken_exactFootprint {shape : AttentionShape}
    (fits : FitsSigned shape.exactElements) :
    (shape.exactFootprint.bytesPerToken.toNat : Int) =
      max 0 (min (2 * shape.exactElements * shape.layers.toInt) (2 ^ 63 - 1)) := by
  have two : bytesPerElement.toInt = 2 := rfl
  rw [exactFootprint, mulSaturating_mulSaturating _ _ (by decide),
    toNat_unsignedOrZero_clampSigned, toInt_ofInt_of_fitsSigned fits, two, maxSigned_eq,
    Int.mul_assoc 2, Int.mul_comm 2]

theorem divSigned?_eq_effectiveHeadDim (shape : AttentionShape) :
    (if shape.headDim = 0 ∧ 0 < shape.heads then divSigned? shape.hiddenSize shape.heads
      else some shape.headDim) = some shape.effectiveHeadDim := by
  rw [effectiveHeadDim]
  split
  · next derived => exact divSigned?_of_positive derived.2
  · rfl

/--
The cache is sized exactly, up to one clamp at the end. Nothing but a number of cached
elements without a word stops the analysis, and dividing the hidden width is no exception.
-/
theorem footprint_exact (shape : AttentionShape) :
    let heads := shape.heads.toInt
    let headDim := if shape.headDim.toInt = 0 ∧ 0 < heads then shape.hiddenSize.toInt.tdiv heads
      else shape.headDim.toInt
    let kvHeads := if shape.kvHeads.toInt = 0 ∧ 0 < heads then
        if shape.multiQuery then 1 else heads
      else shape.kvHeads.toInt
    let known := decide (0 < heads ∧ 0 < kvHeads ∧ 0 < headDim)
    let elements := match shape.latentRank with
      | some rank => rank.toInt + shape.ropeDim.toInt
      | none => if known then 2 * kvHeads * headDim else 0
    let kind : AttentionKind := if shape.latentRank.isSome then .latent
      else if !known then .unknown
      else if kvHeads = heads then .multiHead
      else if kvHeads = 1 then .multiQuery
      else .groupedQuery
    (if shape.headDim = 0 ∧ 0 < shape.heads then divSigned? shape.hiddenSize shape.heads
      else some shape.headDim) = some shape.effectiveHeadDim ∧
    match shape.footprint with
    | .error fault =>
        ¬FitsSigned elements ∧
          fault = if shape.latentRank.isSome then .additionOverflow else .multiplicationOverflow
    | .ok cache =>
        FitsSigned elements ∧ cache.kind = kind ∧ cache.elementsPerToken.toInt = elements ∧
          (cache.bytesPerToken.toNat : Int) =
            max 0 (min (2 * elements * shape.layers.toInt) (2 ^ 63 - 1)) := by
  intro heads headDim kvHeads known elements kind
  have width : headDim = shape.effectiveHeadDim.toInt := (toInt_effectiveHeadDim shape).symm
  have groups : kvHeads = shape.effectiveKvHeads.toInt := (toInt_effectiveKvHeads shape).symm
  have stated : known = decide shape.HasHeads := by
    simp only [known, width, groups, hasHeads_iff, heads]
  have counted : elements = shape.exactElements := by
    simp only [elements, exactElements, stated, groups, width, decide_eq_true_eq]
  have recognized : kind = shape.kind := by
    simp only [kind, AttentionShape.kind, stated, groups, headKind_eq, heads]
    cases shape.latentRank <;> by_cases shape.HasHeads <;> simp [*]
  refine ⟨divSigned?_eq_effectiveHeadDim shape, ?_⟩
  rw [footprint_eq, counted, recognized]
  by_cases fits : FitsSigned shape.exactElements
  · rw [if_pos fits]
    exact ⟨fits, rfl, toInt_ofInt_of_fitsSigned fits, toNat_bytesPerToken_exactFootprint fits⟩
  · rw [if_neg fits]
    exact ⟨fits, rfl⟩

example :
    AttentionShape.footprint { layers := 2 ^ 62, latentRank := some (2 ^ 62), ropeDim := -1 } =
      .ok ⟨.latent, 2 ^ 62 - 1, 2 ^ 63 - 1⟩ := by
  decide +kernel

end AttentionShape

end ServingPreset
