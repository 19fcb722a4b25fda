import Mathlib.Algebra.GroupWithZero.Nat
import ServingPreset.Proofs.Number.Word
import ServingPreset.Weights

/-!
# Selected weight files

A listing selects the first kind of weight files that it has (`ofListing_eq`). The size of
a selection is a sum of numbers (`totalBytes_eq`): adding the sizes one after the other
stops with a fault exactly when their sum leaves the range of a word.

Of a row, both read the name and the size, and nothing of a row that is no weight file;
`weightFacts` is what is left of a listing then.
-/

namespace ServingPreset

namespace FileRow

theorem isConsolidated_iff {row : FileRow} :
    row.isConsolidated = true ↔
      "consolidated".toList <+: row.name ∧ ".safetensors".toList <:+ row.name := by
  simp only [isConsolidated, isSafetensors, hasEnding, Bool.and_eq_true,
    List.isPrefixOf_iff_prefix, List.isSuffixOf_iff_suffix]

theorem isSafetensors_of_isConsolidated {row : FileRow} (consolidated : row.isConsolidated = true) :
    row.isSafetensors = true := by
  rw [isConsolidated, Bool.and_eq_true] at consolidated
  exact consolidated.2

def isWeight (row : FileRow) : Bool :=
  row.isSafetensors || row.isBinary

theorem isWeight_iff {row : FileRow} :
    row.isWeight = true ↔ row.isSafetensors = true ∨ row.isBinary = true :=
  Bool.or_eq_true _ _ ▸ Iff.rfl

/-- The name and the size of a file, whatever its directory and kind. -/
def facts (row : FileRow) : List Char × UInt64 :=
  (row.name, row.size)

/-- The names and sizes of the weight files of a listing. -/
def weightFacts (listing : List FileRow) : List (List Char × UInt64) :=
  (listing.filter isWeight).map facts

/-- A choice of weight files by their names can be made after everything else is forgotten. -/
theorem map_facts_filter {accepts : List Char → Bool}
    (weight : ∀ row : FileRow, accepts row.name = true → row.isWeight = true)
    (listing : List FileRow) :
    (listing.filter fun row => accepts row.name).map facts =
      (weightFacts listing).filter fun fact => accepts fact.1 := by
  rw [weightFacts, List.filter_map, List.filter_filter]
  refine congrArg _ (List.filter_congr fun row _ => ?_)
  cases chosen : accepts row.name with
  | false => simp [facts, chosen]
  | true => simp [facts, chosen, weight row chosen]

end FileRow

namespace Weights

open FileRow (isConsolidated isSafetensors isBinary isWeight facts weightFacts)

variable {listing : List FileRow} {weights : Weights}

/-- The number of bytes in the selected files, however large. -/
def bytes (weights : Weights) : Nat :=
  (weights.files.map fun row => row.size.toNat).sum

structure Interchangeable (left right : Weights) : Prop where
  layout : left.layout = right.layout
  sizes : (left.files.map FileRow.size).Perm (right.files.map FileRow.size)

theorem Interchangeable.refl (weights : Weights) : Interchangeable weights weights :=
  ⟨rfl, .refl _⟩

/-! ### The selection -/

theorem ofListing_eq (listing : List FileRow) :
    ofListing listing =
      if listing.filter isConsolidated ≠ [] then
        .ok ⟨.consolidated, listing.filter isConsolidated⟩
      else if listing.filter isSafetensors ≠ [] then .ok ⟨.standard, listing.filter isSafetensors⟩
      else if listing.filter isBinary ≠ [] then .ok ⟨.standard, listing.filter isBinary⟩
      else .error .noWeightFiles := by
  have safetensors : (listing.filter isWeight).filter isSafetensors =
      listing.filter isSafetensors := by
    rw [List.filter_filter]
    refine List.filter_congr fun row _ => ?_
    cases kind : row.isSafetensors <;> simp [isWeight, kind]
  -- What is left of the weight files are the binaries, once there are no safetensors.
  have binaries : listing.filter isSafetensors = [] →
      (listing.filter isWeight).filter (not ∘ isSafetensors) = listing.filter isBinary := by
    intro missing
    rw [List.filter_filter]
    refine List.filter_congr fun row member => ?_
    have kind := List.filter_eq_nil_iff.mp missing row member
    simp [isWeight, kind]
  have parts : (listing.filter fun row => row.isSafetensors || row.isBinary).partition
        isSafetensors =
      (listing.filter isSafetensors, (listing.filter isWeight).filter (not ∘ isSafetensors)) := by
    rw [List.partition_eq_filter_filter]
    exact congrArg (·, _) safetensors
  simp only [ofListing, parts, Bool.not_eq_true', List.isEmpty_eq_false_iff]
  by_cases missing : listing.filter isSafetensors = []
  · rw [binaries missing]
  · simp [missing]

theorem ofListing_eq_error_iff {problem : Problem} :
    ofListing listing = .error problem ↔
      problem = .noWeightFiles ∧ listing.filter isSafetensors = [] ∧
        listing.filter isBinary = [] := by
  have ranked : listing.filter isSafetensors = [] → listing.filter isConsolidated = [] := by
    intro missing
    rw [List.filter_eq_nil_iff] at missing ⊢
    intro row member consolidated
    exact missing row member (FileRow.isSafetensors_of_isConsolidated consolidated)
  rw [ofListing_eq]
  constructor
  · intro failed
    split at failed
    · contradiction
    · split at failed
      · contradiction
      · split at failed
        · contradiction
        · next safetensors binaries =>
            exact ⟨(Except.error.inj failed).symm, not_not.mp safetensors, not_not.mp binaries⟩
  · rintro ⟨rfl, safetensors, binaries⟩
    simp [ranked safetensors, safetensors, binaries]

theorem eq_of_ofListing (selected : ofListing listing = .ok weights) :
    weights =
      if listing.filter isConsolidated ≠ [] then
        ⟨.consolidated, listing.filter isConsolidated⟩
      else
        ⟨.standard,
          if listing.filter isSafetensors ≠ [] then listing.filter isSafetensors
          else listing.filter isBinary⟩ := by
  rw [ofListing_eq] at selected
  split at selected
  · next consolidated =>
      rw [if_pos consolidated]
      exact (Except.ok.inj selected).symm
  · next unconsolidated =>
      rw [if_neg unconsolidated]
      split at selected
      · next safetensors =>
          rw [if_pos safetensors]
          exact (Except.ok.inj selected).symm
      · next missing =>
          rw [if_neg missing]
          split at selected
          · exact (Except.ok.inj selected).symm
          · contradiction

theorem layout_of_ofListing (selected : ofListing listing = .ok weights) :
    weights.layout =
      if ∃ row ∈ listing, row.isConsolidated = true then .consolidated else .standard := by
  have some : listing.filter isConsolidated ≠ [] ↔ ∃ row ∈ listing, row.isConsolidated = true := by
    rw [ne_eq, List.filter_eq_nil_iff]
    simp
  rw [eq_of_ofListing selected]
  simp only [some]
  split
  · rfl
  · rfl

theorem configFile_of_ofListing (selected : ofListing listing = .ok weights) :
    weights.layout.configFile =
      if ∃ row ∈ listing, "consolidated".toList <+: row.name ∧ ".safetensors".toList <:+ row.name
      then "params.json" else "config.json" := by
  rw [layout_of_ofListing selected]
  simp only [FileRow.isConsolidated_iff]
  split <;> rfl

theorem eq_noWeightFiles_of_ofListing {problem : Problem}
    (failed : ofListing listing = .error problem) : problem = .noWeightFiles :=
  (ofListing_eq_error_iff.mp failed).1

/-! ### The size -/

theorem foldlM_addUnsigned (files : List FileRow) (start : UInt64) :
    files.foldlM (fun sum row => addUnsigned sum row.size) start =
      if start.toNat + (files.map fun row => row.size.toNat).sum ≤ maxUnsigned then
        .ok (UInt64.ofNat (start.toNat + (files.map fun row => row.size.toNat).sum))
      else .error .additionOverflow := by
  induction files generalizing start with
  | nil =>
      have bounded : start.toNat ≤ maxUnsigned := Nat.le_sub_one_of_lt start.toNat_lt
      simp [bounded]
      rfl
  | cons row later ih =>
      rw [List.foldlM_cons, List.map_cons, List.sum_cons, ← Nat.add_assoc]
      by_cases fits : start.toNat + row.size.toNat ≤ maxUnsigned
      · rcases exists_sum_of_le fits with ⟨sum, added, total⟩
        rw [added, ← total]
        exact ih sum
      · rw [addUnsigned_of_lt (Nat.not_le.mp fits), if_neg (by omega)]
        rfl

theorem totalBytes_eq (weights : Weights) :
    weights.totalBytes =
      if weights.bytes ≤ maxUnsigned then .ok (UInt64.ofNat weights.bytes)
      else .error .additionOverflow := by
  have folded := foldlM_addUnsigned weights.files 0
  rw [UInt64.toNat_zero, Nat.zero_add] at folded
  exact folded

theorem totalBytes_eq_ok_iff {total : UInt64} :
    weights.totalBytes = .ok total ↔ total.toNat = weights.bytes := by
  constructor
  · intro summed
    rw [totalBytes_eq] at summed
    split at summed
    · next fits =>
        cases summed
        exact UInt64.toNat_ofNat_of_lt' (Nat.lt_of_le_sub_one (by decide) fits)
    · contradiction
  · intro sum
    have fits : weights.bytes ≤ maxUnsigned := sum ▸ Nat.le_sub_one_of_lt total.toNat_lt
    rw [totalBytes_eq, if_pos fits, ← sum, UInt64.ofNat_toNat]

theorem totalBytes_eq_error_iff {fault : Fault} :
    weights.totalBytes = .error fault ↔ fault = .additionOverflow ∧ 2 ^ 64 - 1 < weights.bytes := by
  have limit : maxUnsigned = 2 ^ 64 - 1 := rfl
  rw [totalBytes_eq, limit]
  split
  · next fits =>
      simp only [reduceCtorEq, false_iff]
      omega
  · next overflows =>
      simp only [Except.error.injEq]
      constructor
      · rintro rfl
        exact ⟨rfl, by omega⟩
      · rintro ⟨rfl, _⟩
        rfl

theorem toNat_of_totalBytes {total : UInt64} (summed : weights.totalBytes = .ok total) :
    total.toNat = weights.bytes :=
  totalBytes_eq_ok_iff.mp summed

theorem Interchangeable.totalBytes {left right : Weights} (same : Interchangeable left right) :
    left.totalBytes = right.totalBytes := by
  have sum : left.bytes = right.bytes := by
    have total := (same.sizes.map UInt64.toNat).sum_nat
    rwa [List.map_map, List.map_map] at total
  rw [totalBytes_eq, totalBytes_eq, sum]

end Weights

end ServingPreset
