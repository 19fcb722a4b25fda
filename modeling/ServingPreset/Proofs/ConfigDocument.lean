import ServingPreset.Proofs.Generation.Serving
import ServingPreset.Proofs.Number.DecimalText

/-!
# Integers of a configuration

An integer is read under a list of keys. The first key that holds one decides, and keys that
hold none are passed over, missing ones and others alike (`ConfigDocument.first?_eq_some_iff`).

Numbers always hold an integer, and all of them by one rule: the exact value is cut towards
zero and held at the limits of the word (`ConfigDocument.coerceInt?_number`). A number in the
binary format is cut through the floor of its magnitude, which is the floor of the exact value
(`Binary64.floor_toRat`). Texts are not held at the limits: one that spells no word holds
nothing.
-/

namespace ServingPreset

/-! ### Cut numbers -/

/-- A rational number cut to a whole one, towards zero. -/
def truncate (value : ℚ) : ℤ :=
  if 0 ≤ value then ⌊value⌋ else ⌈value⌉

theorem truncate_of_nonneg {value : ℚ} (nonnegative : 0 ≤ value) : truncate value = ⌊value⌋ :=
  if_pos nonnegative

theorem truncate_neg (value : ℚ) : truncate (-value) = -truncate value := by
  rcases lt_trichotomy value 0 with negative | rfl | positive
  · simp [truncate, not_le.mpr negative, negative.le, Int.floor_neg]
  · simp [truncate]
  · simp [truncate, not_le.mpr positive, positive.le, Int.ceil_neg]

theorem truncate_intCast (value : ℤ) : truncate value = value := by
  simp [truncate]

namespace Json

/-- The exact value of a number. -/
def Number.toRat : Number → ℚ
  | .integer value => value
  | .real negative magnitude => if negative then -magnitude.toRat else magnitude.toRat

end Json

namespace ConfigDocument

variable {config : ConfigDocument} {keys : List String} {word default : Int64}

/-! ### The first key that counts -/

section First

variable {Result : Type} {use : Json.Value → Option Result} {result : Result}

theorem first?_eq_findSome? (config : ConfigDocument) (use : Json.Value → Option Result)
    (keys : List String) :
    config.first? use keys = keys.findSome? fun key => (config.get? key).bind use := by
  rw [first?, ← List.head?_filterMap, List.filterMap_filterMap, List.head?_filterMap]

theorem first?_eq_none_iff :
    config.first? use keys = none ↔
      ∀ key ∈ keys, ∀ value, config.get? key = some value → use value = none := by
  simp only [first?_eq_findSome?, List.findSome?_eq_none_iff, Option.bind_eq_none_iff]

theorem first?_eq_some_iff :
    config.first? use keys = some result ↔
      ∃ earlier key later, keys = earlier ++ key :: later ∧
        (∃ value, config.get? key = some value ∧ use value = some result) ∧
        ∀ other ∈ earlier, ∀ value, config.get? other = some value → use value = none := by
  simp only [first?_eq_findSome?, List.findSome?_eq_some_iff, Option.bind_eq_some_iff,
    Option.bind_eq_none_iff]

end First

/-- No key holds an integer: each of them is missing or holds something else. -/
def HoldsNoInt (config : ConfigDocument) (keys : List String) : Prop :=
  ∀ key ∈ keys, ∀ value, config.get? key = some value → coerceInt? value = none

/-- A key holds the integer, and no key before it holds any. -/
def HoldsFirst (config : ConfigDocument) (keys : List String) (word : Int64) : Prop :=
  ∃ earlier key later, keys = earlier ++ key :: later ∧
    (∃ value, config.get? key = some value ∧ coerceInt? value = some word) ∧
    config.HoldsNoInt earlier

theorem int?_eq_none_iff : config.int? keys = none ↔ config.HoldsNoInt keys :=
  first?_eq_none_iff

theorem int?_eq_some_iff : config.int? keys = some word ↔ config.HoldsFirst keys word :=
  first?_eq_some_iff

theorem int_eq_iff :
    config.int keys default = word ↔
      config.HoldsFirst keys word ∨ config.HoldsNoInt keys ∧ word = default := by
  rw [int, ← int?_eq_some_iff, ← int?_eq_none_iff]
  cases config.int? keys with
  | none => simp [eq_comm]
  | some first => simp

/-! ### The integer that a value holds -/

theorem coerceInt?_number (number : Json.Number) :
    coerceInt? (.number number) = some (clampSigned (truncate number.toRat)) := by
  cases number with
  | integer value => simp only [coerceInt?, Json.Number.toRat, truncate_intCast]
  | real negative magnitude =>
      have cut : truncate magnitude.toRat = magnitude.floor := by
        rw [truncate_of_nonneg magnitude.toRat_nonneg, magnitude.floor_toRat]
      cases negative with
      | false => simp [coerceInt?, Json.Number.toRat, cut]
      | true => simp [coerceInt?, Json.Number.toRat, cut, truncate_neg]

theorem toInt_coerceInt?_number (number : Json.Number) :
    (coerceInt? (.number number)).map Int64.toInt =
      some (max (-2 ^ 63) (min (truncate number.toRat) (2 ^ 63 - 1))) := by
  rw [coerceInt?_number, Option.map_some, toInt_clampSigned, minSigned_eq, maxSigned_eq]

theorem toInt_coerceInt?_integer {value : Int} (low : -2 ^ 63 ≤ value)
    (high : value ≤ 2 ^ 63 - 1) :
    (coerceInt? (.number (.integer value))).map Int64.toInt = some value := by
  rw [toInt_coerceInt?_number, Json.Number.toRat, truncate_intCast, min_eq_left high,
    max_eq_right low]

theorem toInt_coerceInt?_string {text : String} {value : Int} :
    (coerceInt? (.string text)).map Int64.toInt = some value ↔
      DecimalText.Spells text value ∧ -2 ^ 63 ≤ value ∧ value ≤ 2 ^ 63 - 1 := by
  simp only [coerceInt?, Option.map_eq_some_iff, DecimalText.signed?_eq_some_iff]
  constructor
  · rintro ⟨word, spelled, rfl⟩
    exact ⟨spelled, word.le_toInt, Int.le_sub_one_of_lt word.toInt_lt⟩
  · rintro ⟨spelled, low, high⟩
    have exact := toInt_ofInt_of_fitsSigned (fitsSigned_iff.mpr ⟨low, Int.lt_of_le_sub_one high⟩)
    refine ⟨Int64.ofInt value, ?_, exact⟩
    rwa [exact]

theorem coerceInt?_of_other {value : Json.Value} (unnumbered : ∀ number, value ≠ .number number)
    (textless : ∀ text, value ≠ .string text) : coerceInt? value = none := by
  cases value with
  | number number => exact absurd rfl (unnumbered number)
  | string text => exact absurd rfl (textless text)
  | _ => rfl

/-! ### The token limit of a preset -/

theorem tokenLimit_of_generated {hub : Hub} {repository : Repository} {preset : Preset}
    (generated : (Generation.run hub repository).result = .ok preset) :
    ∃ weights config, Generation.fetchWeights hub repository = .ok weights ∧
      Generation.fetchConfig hub repository weights = .ok config ∧
      preset.card.tokenLimit = unsignedOrZero config.tokenLimit := by
  rcases Generation.exists_assembled_of_run generated with
    ⟨weights, config, selected, configured, assembled⟩
  rcases assembled.exists_card_eq with ⟨_, _, _, card⟩
  refine ⟨weights, config, selected, configured, ?_⟩
  rw [card]
  rfl

/--
An integer is read under the first key that holds one, and is the default if none does. Numbers
are cut towards zero and held at the limits, so those within the limits are exact if they are
whole; texts have to spell an integer within the limits; nothing else holds one. The token limit
of a generated preset is read like this, and is zero if it would be negative.
-/
theorem int_of_keys :
    (∀ (config : ConfigDocument) (keys : List String) (default word : Int64),
      (config.int? keys = some word ↔ config.HoldsFirst keys word) ∧
      (config.int? keys = none ↔ config.HoldsNoInt keys) ∧
      (config.int keys default = word ↔
        config.HoldsFirst keys word ∨ config.HoldsNoInt keys ∧ word = default)) ∧
    (∀ number : Json.Number, (coerceInt? (.number number)).map Int64.toInt =
      some (max (-2 ^ 63) (min (truncate number.toRat) (2 ^ 63 - 1)))) ∧
    (∀ value : Int, -2 ^ 63 ≤ value → value ≤ 2 ^ 63 - 1 →
      (coerceInt? (.number (.integer value))).map Int64.toInt = some value) ∧
    (∀ (text : String) (value : Int), (coerceInt? (.string text)).map Int64.toInt = some value ↔
      DecimalText.Spells text value ∧ -2 ^ 63 ≤ value ∧ value ≤ 2 ^ 63 - 1) ∧
    (∀ value : Json.Value, (∀ number, value ≠ .number number) → (∀ text, value ≠ .string text) →
      coerceInt? value = none) ∧
    ∀ (hub : Hub) (repository : Repository) (preset : Preset),
      (Generation.run hub repository).result = .ok preset →
        ∃ weights config, Generation.fetchWeights hub repository = .ok weights ∧
          Generation.fetchConfig hub repository weights = .ok config ∧
          (config.HoldsNoInt tokenLimitKeys → preset.card.tokenLimit = 2048) ∧
          ∀ word, config.HoldsFirst tokenLimitKeys word →
            (preset.card.tokenLimit.toNat : Int) = max 0 word.toInt := by
  refine ⟨?_, toInt_coerceInt?_number, ?_, ?_, ?_, ?_⟩
  · intro config keys default word
    exact ⟨int?_eq_some_iff, int?_eq_none_iff, int_eq_iff⟩
  · intro value low high
    exact toInt_coerceInt?_integer low high
  · intro text value
    exact toInt_coerceInt?_string
  · intro value unnumbered textless
    exact coerceInt?_of_other unnumbered textless
  · intro hub repository preset generated
    rcases tokenLimit_of_generated generated with ⟨weights, config, selected, configured, limit⟩
    refine ⟨weights, config, selected, configured, ?_, ?_⟩
    · intro unstated
      have unlimited : config.tokenLimit = defaultTokenLimit := int_eq_iff.mpr (.inr ⟨unstated, rfl⟩)
      rw [limit, unlimited]
      rfl
    · intro word stated
      have limited : config.tokenLimit = word := int_eq_iff.mpr (.inl stated)
      rw [limit, limited, toNat_unsignedOrZero]

open SmallHub in
/-- A text with a letter is passed over, and the half of the number behind it is cut off. -/
theorem int_of_keys_mixed :
    let config : ConfigDocument := ⟨[("a", .null), ("b", .string "12x"),
      ("c", .number (.real true ⟨0x401E000000000000⟩)), ("d", .number (.integer 5))]⟩
    config.int ["z", "a", "b", "c", "d"] 0 = -7 ∧
      (coerceInt? (.number (.integer 9223372036854775807))).map Int64.toInt =
        some 9223372036854775807 ∧
      (coerceInt? (.string "+9223372036854775808")).map Int64.toInt ≠
        some 9223372036854775808 ∧
      coerceInt? (.bool true) = none ∧
      ∃ preset, (Generation.run tokenHub ⟨"org/Qwen3-Open"⟩).result = .ok preset ∧
        preset.card.tokenLimit = 2048 := by
  intro config
  rcases int_of_keys with ⟨keyed, _, exact, spelled, others, generates⟩
  have early : config.HoldsNoInt ["z", "a", "b"] := by
    apply int?_eq_none_iff.mp
    decide +kernel
  have cut : coerceInt? (.number (.real true ⟨0x401E000000000000⟩)) = some (-7) := by
    decide +kernel
  have first : config.HoldsFirst ["z", "a", "b", "c", "d"] (-7) :=
    ⟨["z", "a", "b"], "c", ["d"], rfl, ⟨_, rfl, cut⟩, early⟩
  have succeeds : (Generation.run tokenHub ⟨"org/Qwen3-Open"⟩).result.isOk = true := by
    decide +kernel
  refine ⟨(keyed config _ 0 (-7)).2.2.mpr (.inl first), exact _ (by decide) (by decide), ?_,
    others (.bool true) nofun nofun, ?_⟩
  · intro beyond
    have within := ((spelled _ _).mp beyond).2.2
    exact absurd within (by decide)
  · rcases Generation.exists_of_isOk succeeds with ⟨preset, generated⟩
    rcases generates _ _ preset generated with
      ⟨weights, given, selected, configured, unstated, _⟩
    rw [fetchWeights_tokenHub] at selected
    cases selected
    rw [fetchConfig_tokenHub] at configured
    cases configured
    have unlimited : (ConfigDocument.mk latentMembers).int? tokenLimitKeys = none := by
      decide +kernel
    exact ⟨preset, generated, unstated (int?_eq_none_iff.mp unlimited)⟩

end ConfigDocument

end ServingPreset
