import ServingPreset.Proofs.ConfigDocument
import ServingPreset.Proofs.Generation.Footprint
import ServingPreset.Proofs.KvCache

/-!
# Latent attention

A compressed cache holds the rank and the rotated part, in every layer. Configurations that
agree on these three have the same footprint, with whatever heads they state
(`AttentionShape.footprint_of_latent`). The heads cannot stop the analysis on the way either:
the hidden width is only divided among heads of which there is at least one.

A rank that cannot be had, or is -1, is no rank: the configuration has the shape of the one
without that key (`AttentionShape.ofConfig_erase_rank`).
-/

namespace ServingPreset

/-! ### A configuration without a key -/

namespace ConfigDocument

variable {config : ConfigDocument} {key other : String} {keys : List String}

/-- The document without what it states under a key. -/
def erase (config : ConfigDocument) (key : String) : ConfigDocument :=
  ⟨config.members.filter fun member => member.1 != key⟩

theorem get?_erase_self (config : ConfigDocument) (key : String) :
    (config.erase key).get? key = none := by
  have missing : (config.erase key).members.find? (fun member => member.1 == key) = none := by
    apply List.find?_eq_none.mpr
    intro member present
    have apart := (List.mem_filter.mp present).2
    simpa using apart
  simp only [get?, Json.Value.get?, missing, Option.map_none]

theorem get?_erase_of_ne (apart : other ≠ key) :
    (config.erase key).get? other = config.get? other := by
  have same : (config.erase key).members.find? (fun member => member.1 == other) =
      config.members.find? fun member => member.1 == other := by
    rw [erase, List.find?_filter]
    apply congrArg (List.find? · config.members)
    funext member
    by_cases here : member.1 = other
    · simp [here, apart]
    · simp [here]
  simp only [get?, Json.Value.get?, same]

theorem agreeOn_erase (config : ConfigDocument) (spared : key ∉ keys) :
    AgreeOn keys (config.erase key) config := by
  intro other listed
  apply get?_erase_of_ne
  rintro rfl
  exact spared listed

theorem int?_singleton (config : ConfigDocument) (key : String) :
    config.int? [key] = (config.get? key).bind coerceInt? := by
  rw [int?, first?_eq_findSome?]
  simp

theorem int?_erase_self (config : ConfigDocument) (key : String) :
    (config.erase key).int? [key] = none := by
  rw [int?_singleton, get?_erase_self, Option.bind_none]

end ConfigDocument

namespace AttentionShape

variable {config : ConfigDocument} {shape left right : AttentionShape} {rank : Int64}

/-! ### The rank of a configuration -/

theorem latentRank_ofConfig (config : ConfigDocument) :
    (ofConfig config).latentRank = (config.int? ["kv_lora_rank"]).filter (· != -1) := rfl

/-- The key of the rank is missing, or has a value that is no integer or is -1. -/
def StatesNoRank (config : ConfigDocument) : Prop :=
  ∀ value, config.get? "kv_lora_rank" = some value →
    ConfigDocument.coerceInt? value = none ∨ ConfigDocument.coerceInt? value = some (-1)

theorem latentRank_ofConfig_eq_none (unstated : StatesNoRank config) :
    (ofConfig config).latentRank = none := by
  rw [latentRank_ofConfig, ConfigDocument.int?_singleton]
  cases stated : config.get? "kv_lora_rank" with
  | none => rfl
  | some value =>
      rcases unstated value stated with unusable | negative
      · rw [Option.bind_some, unusable]
        rfl
      · rw [Option.bind_some, negative]
        rfl

theorem latentRank_ofConfig_eq_some (ranked : config.int? ["kv_lora_rank"] = some rank)
    (stated : rank ≠ -1) : (ofConfig config).latentRank = some rank := by
  rw [latentRank_ofConfig, ranked]
  exact Option.filter_eq_some_iff.mpr ⟨rfl, by simpa using stated⟩

/-- Without the key of the rank, a configuration has the same shape but for the rank. -/
theorem ofConfig_erase_rank (config : ConfigDocument) :
    ofConfig (config.erase "kv_lora_rank") = { ofConfig config with latentRank := none } := by
  have first {Result : Type} (use : Json.Value → Option Result) (keys : List String)
      (spared : "kv_lora_rank" ∉ keys) :
      (config.erase "kv_lora_rank").first? use keys = config.first? use keys :=
    (ConfigDocument.agreeOn_erase config spared).first? use
  have unranked : (ofConfig (config.erase "kv_lora_rank")).latentRank = none := by
    rw [latentRank_ofConfig, ConfigDocument.int?_erase_self]
    rfl
  rw [← unranked]
  simp only [ofConfig, ConfigDocument.int, ConfigDocument.int?, ConfigDocument.bool?]
  rw [first _ hiddenSizeKeys (by decide), first _ layerKeys (by decide),
    first _ headKeys (by decide), first _ kvHeadKeys (by decide), first _ ["head_dim"] (by decide),
    first _ ["multi_query"] (by decide), first _ ["qk_rope_head_dim"] (by decide)]

theorem ofConfig_erase_of_unranked (unstated : StatesNoRank config) :
    ofConfig (config.erase "kv_lora_rank") = ofConfig config := by
  rw [ofConfig_erase_rank, ← latentRank_ofConfig_eq_none unstated]

/-- A number is cut to -1 from the half-open interval above -2. -/
theorem coerceInt?_of_cut {number : Json.Number} (above : -2 < number.toRat)
    (negative : number.toRat ≤ -1) :
    ConfigDocument.coerceInt? (.number number) = some (-1) := by
  have cut : truncate number.toRat = -1 := by
    have notNonneg : ¬0 ≤ number.toRat := by linarith
    rw [truncate, if_neg notNonneg, Int.ceil_eq_iff]
    constructor
    · have lower : ((-1 : ℤ) : ℚ) - 1 = -2 := by norm_num
      rwa [lower]
    · exact_mod_cast negative
  rw [ConfigDocument.coerceInt?_number, cut]
  rfl

theorem coerceInt?_of_spelled {text : String} (spelled : DecimalText.Spells text (-1)) :
    ConfigDocument.coerceInt? (.string text) = some (-1) :=
  DecimalText.signed?_eq_some_iff.mpr spelled

/-! ### The footprint of a compressed cache -/

/-- The footprint of a compressed cache of a rank, a rotated part and a number of layers. -/
def latentFootprint (rank ropeDim layers : Int64) : Except Fault CacheFootprint :=
  footprint { latentRank := some rank, ropeDim := ropeDim, layers := layers }

theorem footprint_of_latent (latent : shape.latentRank = some rank) :
    shape.footprint = latentFootprint rank shape.ropeDim shape.layers := by
  simp only [latentFootprint, footprint, elements, latent]

theorem latentFootprint_cases (rank ropeDim layers : Int64) :
    (∃ cache, latentFootprint rank ropeDim layers = .ok cache ∧ cache.kind = .latent) ∨
      latentFootprint rank ropeDim layers = .error .additionOverflow := by
  rw [latentFootprint, footprint_eq]
  split
  · exact .inl ⟨_, rfl, rfl⟩
  · exact .inr rfl

/--
Configurations with one rank, one rotated part and one number of layers have the same
footprint, whatever else they state: it is that of latent attention, or the sum of the rank
and the rotated part has no word. What says that there is no rank may as well be left out.
Nowhere does working out the width of a head keep the analysis from its end.
-/
theorem footprint_ignores_heads :
    (∀ (left right : ConfigDocument) (rank : Int64), rank ≠ -1 →
      left.int? ["kv_lora_rank"] = some rank → right.int? ["kv_lora_rank"] = some rank →
      left.int ["qk_rope_head_dim"] 0 = right.int ["qk_rope_head_dim"] 0 →
      left.int layerKeys 0 = right.int layerKeys 0 →
        (ofConfig left).footprint = (ofConfig right).footprint ∧
          ((∃ cache, (ofConfig left).footprint = .ok cache ∧ cache.kind = .latent) ∨
            (ofConfig left).footprint = .error .additionOverflow)) ∧
    (∀ config : ConfigDocument, StatesNoRank config →
      (ofConfig config).footprint = (ofConfig (config.erase "kv_lora_rank")).footprint) ∧
    (∀ number : Json.Number, -2 < number.toRat → number.toRat ≤ -1 →
      ConfigDocument.coerceInt? (.number number) = some (-1)) ∧
    (∀ text, DecimalText.Spells text (-1) →
      ConfigDocument.coerceInt? (.string text) = some (-1)) ∧
    ∀ shape : AttentionShape,
      (if shape.headDim = 0 ∧ 0 < shape.heads then divSigned? shape.hiddenSize shape.heads
        else some shape.headDim) = some shape.effectiveHeadDim := by
  refine ⟨?_, ?_, fun _ => coerceInt?_of_cut, fun _ => coerceInt?_of_spelled,
    divSigned?_eq_effectiveHeadDim⟩
  · intro left right rank stated leftRanked rightRanked sameRope sameLayers
    have leftLatent := latentRank_ofConfig_eq_some leftRanked stated
    have rightLatent := latentRank_ofConfig_eq_some rightRanked stated
    have rope : (ofConfig left).ropeDim = (ofConfig right).ropeDim := sameRope
    have layers : (ofConfig left).layers = (ofConfig right).layers := sameLayers
    rw [footprint_of_latent leftLatent, footprint_of_latent rightLatent, rope, layers]
    exact ⟨rfl, latentFootprint_cases _ _ _⟩
  · intro config unstated
    rw [ofConfig_erase_of_unranked unstated]

/-- Hundreds of heads, or fewer than none, around one rank; and a rank that is cut to -1. -/
theorem footprint_ignores_heads_mixed :
    let left : ConfigDocument := ⟨[("hidden_size", .number (.integer 7168)),
      ("num_attention_heads", .number (.integer 128)),
      ("num_hidden_layers", .number (.integer 61)), ("kv_lora_rank", .number (.integer 512)),
      ("qk_rope_head_dim", .number (.real false ⟨0x4050200000000000⟩))]⟩
    let right : ConfigDocument := ⟨[("n_heads", .number (.integer (-3))),
      ("head_dim", .string "9223372036854775807"), ("multi_query", .bool true),
      ("num_hidden_layers", .null), ("n_layers", .string "+61"), ("kv_lora_rank", .string "512"),
      ("qk_rope_head_dim", .number (.integer 64))]⟩
    let unranked : ConfigDocument := ⟨[("hidden_size", .number (.integer 1024)),
      ("num_attention_heads", .number (.integer 8)), ("num_hidden_layers", .number (.integer 4)),
      ("kv_lora_rank", .number (.real true ⟨0x3FF8000000000000⟩))]⟩
    (ofConfig left).footprint = (ofConfig right).footprint ∧
      (ofConfig unranked).footprint = (ofConfig (unranked.erase "kv_lora_rank")).footprint ∧
      ConfigDocument.coerceInt? (.string "-1") = some (-1) := by
  intro left right unranked
  rcases footprint_ignores_heads with ⟨framed, erased, cut, spelled, _⟩
  have signed : DecimalText.Spells "-1" (-1) :=
    ⟨['-'], ['1'], rfl, by simp, by simp, by simp, rfl⟩
  have half : (Json.Number.real true ⟨0x3FF8000000000000⟩).toRat = -3 / 2 := by
    decide +kernel
  refine ⟨?_, ?_, spelled "-1" signed⟩
  · exact (framed left right 512 (by decide) (by decide +kernel) (by decide +kernel)
      (by decide +kernel) (by decide +kernel)).1
  · apply erased
    intro value stated
    right
    cases stated
    exact cut _ (by rw [half]; norm_num) (by rw [half]; norm_num)

end AttentionShape

end ServingPreset
