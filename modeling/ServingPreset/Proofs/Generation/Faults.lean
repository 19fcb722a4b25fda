import ServingPreset.Proofs.Generation.Route
import ServingPreset.Proofs.KvCache
import ServingPreset.Proofs.Quantity
import ServingPreset.Proofs.Weights

/-!
# Faults of a generation

A generation stops with a fault at two places, and only once both documents are there: where
the sizes of the weight files are added up, and where the cached elements are counted. The
room of the cache and the disk are computed from the outcomes without one: the former is
held at the limits, and the size of a model in gibibytes leaves room for the reserve.
-/

namespace ServingPreset

namespace Generation

variable {hub : Hub} {repository : Repository} {weights : Weights} {config : ConfigDocument}
  {fault : Fault}

/-! ### Where an assembly stops -/

/-- A preset is put together from the size, the disk and the cache, once these are there. -/
theorem exists_assemble_eq_bind (hub : Hub) (repository : Repository) (weights : Weights)
    (config : ConfigDocument) :
    ∃ complete : UInt64 → String → CacheFootprint → Preset,
      assemble hub repository weights config =
        weights.totalBytes >>= fun total =>
          Quantity.withReserve (Quantity.ofBytes total) >>= fun disk =>
            (AttentionShape.ofConfig config).footprint >>= fun cache =>
              .ok (complete total disk cache) :=
  ⟨_, rfl⟩

theorem exists_assemble_eq (hub : Hub) (repository : Repository) (weights : Weights)
    (config : ConfigDocument) :
    ∃ preset, assemble hub repository weights config =
      if weights.bytes ≤ maxUnsigned then
        if FitsSigned (AttentionShape.ofConfig config).exactElements then .ok preset
        else .error (AttentionShape.ofConfig config).overflowFault
      else .error .additionOverflow := by
  rcases exists_assemble_eq_bind hub repository weights config with ⟨complete, same⟩
  let total := UInt64.ofNat weights.bytes
  refine ⟨complete total (Quantity.diskFor total) (AttentionShape.ofConfig config).exactFootprint,
    ?_⟩
  rw [same, Weights.totalBytes_eq]
  by_cases sized : weights.bytes ≤ maxUnsigned
  · rw [if_pos sized, if_pos sized, ok_bind, Quantity.withReserve_ofBytes, ok_bind,
      AttentionShape.footprint_eq]
    by_cases counted : FitsSigned (AttentionShape.ofConfig config).exactElements
    · rw [if_pos counted, if_pos counted, ok_bind]
    · rw [if_neg counted, if_neg counted, error_bind]
  · rw [if_neg sized, if_neg sized, error_bind]

theorem assemble_eq_error_iff :
    assemble hub repository weights config = .error fault ↔
      maxUnsigned < weights.bytes ∧ fault = .additionOverflow ∨
        weights.bytes ≤ maxUnsigned ∧
          ¬FitsSigned (AttentionShape.ofConfig config).exactElements ∧
          fault = (AttentionShape.ofConfig config).overflowFault := by
  rcases exists_assemble_eq hub repository weights config with ⟨preset, same⟩
  rw [same, ← Nat.not_le]
  by_cases sized : weights.bytes ≤ maxUnsigned
  · by_cases counted : FitsSigned (AttentionShape.ofConfig config).exactElements <;>
      simp [sized, counted, eq_comm]
  · simp [sized, eq_comm]

/--
A generation stops with a fault exactly when both documents were had and either the sizes
add up to more than a word, or, where they do not, the number of cached elements has no
signed word. Adding the reserve to the size of a model never stops one.
-/
theorem run_faults (hub : Hub) (repository : Repository) :
    (∀ fault, (run hub repository).result = .error (.fault fault) ↔
      ∃ weights config, fetchWeights hub repository = .ok weights ∧
        fetchConfig hub repository weights = .ok config ∧
        (maxUnsigned < weights.bytes ∧ fault = .additionOverflow ∨
          weights.bytes ≤ maxUnsigned ∧
            ¬FitsSigned (AttentionShape.ofConfig config).exactElements ∧
            fault = (AttentionShape.ofConfig config).overflowFault)) ∧
      ∀ total, ∃ disk, Quantity.withReserve (Quantity.ofBytes total) = .ok disk := by
  refine ⟨fun fault => ?_, fun total => ⟨_, Quantity.withReserve_ofBytes total⟩⟩
  simp only [run_eq_fault_iff, assemble_eq_error_iff]

end Generation

/-! ### A hub that overflows -/

namespace SmallHub

def singleListing : Json.Bytes :=
  document "[[\"a.bin\",1]]"

def singleWeights : Weights :=
  ⟨.standard, [⟨"a.bin", 1, ""⟩]⟩

theorem fetchWeights_of_singleListing {hub : Hub} {repository : Repository}
    (answered : hub.respond (hub.treeUrl repository.id) = .ok ⟨200, singleListing⟩) :
    Generation.fetchWeights hub repository = .ok singleWeights :=
  Generation.fetchWeights_eq_ok_iff.mpr
    ⟨singleListing, [⟨"a.bin", 1, ""⟩], answered, by decide +kernel, by decide +kernel⟩

def doubleListing : Json.Bytes :=
  document "[[\"a.bin\",9223372036854775808],[\"b.bin\",9223372036854775808]]"

/-- The greatest rank and a rotated part on top of it. -/
def rankConfig : Json.Bytes :=
  document "\x7b\"kv_lora_rank\":9223372036854775807,\"qk_rope_head_dim\":1\x7d"

def rankMembers : List (String × Json.Value) :=
  [("kv_lora_rank", .number (.integer 9223372036854775807)),
    ("qk_rope_head_dim", .number (.integer 1))]

/-- So many heads that keys and values together have no count. -/
def headConfig : Json.Bytes :=
  document "\x7b\"n_head\":4611686018427387904,\"head_dim\":1\x7d"

def headMembers : List (String × Json.Value) :=
  [("n_head", .number (.integer 4611686018427387904)), ("head_dim", .number (.integer 1))]

/-- Three repositories, each with a number too many. -/
def overflowingReply : String → Response
  | "https://hub/api/models/org/sum/tree/main?recursive=true" => ⟨200, doubleListing⟩
  | "https://hub/org/sum/resolve/main/config.json" => ⟨200, document "\x7b\x7d"⟩
  | "https://hub/api/models/org/rank/tree/main?recursive=true" => ⟨200, singleListing⟩
  | "https://hub/org/rank/resolve/main/config.json" => ⟨200, rankConfig⟩
  | "https://hub/api/models/org/heads/tree/main?recursive=true" => ⟨200, singleListing⟩
  | "https://hub/org/heads/resolve/main/config.json" => ⟨200, headConfig⟩
  | _ => ⟨404, []⟩

def overflowingHub : Hub :=
  ⟨"https://hub", false, fun url => .ok (overflowingReply url)⟩

end SmallHub

namespace Generation

open SmallHub in
/-- The sizes, the latent elements and the elements of the heads each overflow somewhere. -/
theorem overflowing_runs :
    (run overflowingHub ⟨"org/sum"⟩).result = .error (.fault .additionOverflow) ∧
      (run overflowingHub ⟨"org/rank"⟩).result = .error (.fault .additionOverflow) ∧
      (run overflowingHub ⟨"org/heads"⟩).result = .error (.fault .multiplicationOverflow) := by
  refine ⟨?_, ?_, ?_⟩
  · with_unfolding_all rfl
  · apply run_eq_fault_iff.mpr
    refine ⟨_, ⟨rankMembers⟩, fetchWeights_of_singleListing (by decide +kernel), ?_, ?_⟩
    · exact fetchConfig_eq_ok_iff.mpr ⟨rankConfig, rfl, by with_unfolding_all rfl⟩
    · exact assemble_eq_error_iff.mpr (.inr ⟨by decide, by decide, rfl⟩)
  · apply run_eq_fault_iff.mpr
    refine ⟨_, ⟨headMembers⟩, fetchWeights_of_singleListing (by decide +kernel), ?_, ?_⟩
    · exact fetchConfig_eq_ok_iff.mpr ⟨headConfig, rfl, by with_unfolding_all rfl⟩
    · exact assemble_eq_error_iff.mpr (.inr ⟨by decide, by decide, rfl⟩)

end Generation

end ServingPreset
