import ServingPreset.Proofs.Text.Cut
import ServingPreset.Proofs.Weights

/-!
# Weight files by their names

A weight file is known by the start and the ending of its name, which are two ends of a
pattern with one star. The patterns overlap, and they are ranked: the files of the first
pattern that occurs in a listing are selected, all of them, in the order of the listing
(`Weights.ofListing_by_name`). The size of a selection is the sum of the sizes of its files,
and a fault exactly if that sum has no word.
-/

namespace ServingPreset

namespace Text

variable {chars start ending : List Char}

/-- Whether a text is an instance of a pattern, in which a star stands for any text. -/
def IsInstance : List Char → List Char → Prop
  | [], chars => chars = []
  | char :: pattern, chars =>
      if char = '*' then ∃ covered rest, chars = covered ++ rest ∧ IsInstance pattern rest
      else ∃ rest, chars = char :: rest ∧ IsInstance pattern rest

theorem isInstance_iff_eq (starless : '*' ∉ ending) : IsInstance ending chars ↔ chars = ending := by
  induction ending generalizing chars with
  | nil => exact Iff.rfl
  | cons char ending ih =>
      simp only [List.mem_cons, not_or] at starless
      rcases starless with ⟨other, starless⟩
      simp only [IsInstance, if_neg (Ne.symm other), ih starless]
      constructor
      · rintro ⟨rest, rfl, rfl⟩
        rfl
      · rintro rfl
        exact ⟨ending, rfl, rfl⟩

/-- The instances of a pattern with one star have its start and its ending. -/
theorem isInstance_iff_exists_between (startStarless : '*' ∉ start) (endingStarless : '*' ∉ ending) :
    IsInstance (start ++ '*' :: ending) chars ↔ ∃ between, chars = start ++ between ++ ending := by
  induction start generalizing chars with
  | nil =>
      simp only [List.nil_append, IsInstance, if_true, isInstance_iff_eq endingStarless]
      constructor
      · rintro ⟨covered, rest, rfl, rfl⟩
        exact ⟨covered, rfl⟩
      · rintro ⟨between, rfl⟩
        exact ⟨between, ending, rfl, rfl⟩
  | cons char start ih =>
      simp only [List.mem_cons, not_or] at startStarless
      rcases startStarless with ⟨other, startStarless⟩
      simp only [List.cons_append, IsInstance, if_neg (Ne.symm other), ih startStarless]
      constructor
      · rintro ⟨rest, rfl, between, rfl⟩
        exact ⟨between, rfl⟩
      · rintro ⟨between, rfl⟩
        exact ⟨_, rfl, between, rfl⟩

end Text

namespace FileRow

variable {row : FileRow}

theorem name_eq_iff {name : List Char} :
    row.name = name ↔
      '/' ∉ name ∧
        (row.path.toList = name ∨ ∃ directory, row.path.toList = directory ++ '/' :: name) :=
  Text.afterLast_eq_iff

/-- Whether the name of a file begins with one text and ends with another. -/
def IsNamed (start ending : String) (row : FileRow) : Prop :=
  start.toList <+: row.name ∧ ending.toList <:+ row.name

instance (start ending : String) : DecidablePred (IsNamed start ending) :=
  fun _ => inferInstanceAs (Decidable (_ ∧ _))

theorem isConsolidated_eq_decide :
    row.isConsolidated = decide (IsNamed "consolidated" ".safetensors" row) := by
  rw [Bool.eq_iff_iff, decide_eq_true_iff]
  exact isConsolidated_iff

theorem hasEnding_eq_decide (ending : String) :
    row.hasEnding ending = decide (IsNamed "" ending row) := by
  rw [Bool.eq_iff_iff, decide_eq_true_iff]
  simp [hasEnding, IsNamed]

/-- An ending that begins with a dot does not overlap with a start that has none. -/
theorem isInstance_iff_isNamed (start ending : String) {rest : List Char}
    (dotted : ending.toList = '.' :: rest) (undotted : '.' ∉ start.toList)
    (startStarless : '*' ∉ start.toList) (endingStarless : '*' ∉ ending.toList) :
    Text.IsInstance (start.toList ++ '*' :: ending.toList) row.name ↔ IsNamed start ending row := by
  rw [Text.isInstance_iff_exists_between startStarless endingStarless, IsNamed, dotted,
    Text.exists_between_iff undotted]

end FileRow

namespace Weights

open FileRow (IsNamed)

/--
The files of the first pattern that a listing has are its weights, unchanged and in order, and
the pattern decides how they are configured and loaded. Without any such file there are no
weights. Their sizes are summed exactly or not at all.
-/
theorem ofListing_by_name (listing : List FileRow) :
    let consolidated := listing.filter (IsNamed "consolidated" ".safetensors" ·)
    let safetensors := listing.filter (IsNamed "" ".safetensors" ·)
    let binaries := listing.filter (IsNamed "" ".bin" ·)
    (∀ row : FileRow,
        (∀ name, row.name = name ↔ '/' ∉ name ∧
          (row.path.toList = name ∨ ∃ directory, row.path.toList = directory ++ '/' :: name)) ∧
        (Text.IsInstance "consolidated*.safetensors".toList row.name ↔
          IsNamed "consolidated" ".safetensors" row) ∧
        (Text.IsInstance "*.safetensors".toList row.name ↔ IsNamed "" ".safetensors" row) ∧
        (Text.IsInstance "*.bin".toList row.name ↔ IsNamed "" ".bin" row)) ∧
      (∀ problem, ofListing listing = .error problem ↔ problem = .noWeightFiles ∧
        ∀ row ∈ listing, ¬IsNamed "" ".safetensors" row ∧ ¬IsNamed "" ".bin" row) ∧
      ((∃ row ∈ listing, IsNamed "" ".safetensors" row ∨ IsNamed "" ".bin" row) →
        let mode := if consolidated ≠ [] then "mistral" else "auto"
        ∃ weights, ofListing listing = .ok weights ∧
          (weights.files =
            if consolidated ≠ [] then consolidated
            else if safetensors ≠ [] then safetensors else binaries) ∧
          (weights.layout.configFile =
            if consolidated ≠ [] then "params.json" else "config.json") ∧
          weights.layout.flags =
            [("load_format", mode), ("config_format", mode), ("tokenizer_mode", mode)] ∧
          (∀ total, weights.totalBytes = .ok total ↔
            total.toNat = (weights.files.map fun row => row.size.toNat).sum) ∧
          ∀ fault, weights.totalBytes = .error fault ↔ fault = .additionOverflow ∧
            2 ^ 64 - 1 < (weights.files.map fun row => row.size.toNat).sum) := by
  intro consolidated safetensors binaries
  have consolidatedFilter : listing.filter FileRow.isConsolidated = consolidated :=
    List.filter_congr fun _ _ => FileRow.isConsolidated_eq_decide
  have safetensorsFilter : listing.filter FileRow.isSafetensors = safetensors :=
    List.filter_congr fun _ _ => FileRow.hasEnding_eq_decide _
  have binariesFilter : listing.filter FileRow.isBinary = binaries :=
    List.filter_congr fun _ _ => FileRow.hasEnding_eq_decide _
  have failure (problem : Problem) : ofListing listing = .error problem ↔
      problem = .noWeightFiles ∧
        ∀ row ∈ listing, ¬IsNamed "" ".safetensors" row ∧ ¬IsNamed "" ".bin" row := by
    rw [ofListing_eq_error_iff, safetensorsFilter, binariesFilter]
    simp [safetensors, binaries, List.filter_eq_nil_iff, forall_and]
  refine ⟨?_, failure, ?_⟩
  · intro row
    refine ⟨fun _ => FileRow.name_eq_iff, ?_, ?_, ?_⟩
    · exact FileRow.isInstance_iff_isNamed "consolidated" ".safetensors" rfl (by decide) (by decide)
        (by decide)
    · exact FileRow.isInstance_iff_isNamed "" ".safetensors" rfl (by decide) (by decide)
        (by decide)
    · exact FileRow.isInstance_iff_isNamed "" ".bin" rfl (by decide) (by decide)
        (by decide)
  · rintro ⟨row, member, named⟩ mode
    cases selected : ofListing listing with
    | error problem =>
        rcases (failure problem).mp selected with ⟨_, none⟩
        rcases named with safetensors | binary
        · exact absurd safetensors (none row member).1
        · exact absurd binary (none row member).2
    | ok weights =>
        have shape := eq_of_ofListing selected
        rw [consolidatedFilter, safetensorsFilter, binariesFilter] at shape
        refine ⟨weights, rfl, ?_, ?_, ?_, fun _ => totalBytes_eq_ok_iff,
          fun _ => totalBytes_eq_error_iff⟩
        · rw [shape]
          split <;> rfl
        · rw [shape]
          split <;> rfl
        · rw [shape]
          simp only [mode]
          split <;> rfl

/-- Two consolidated files, one of them in a directory, whose sizes have no sum in a word. -/
theorem ofListing_by_name_consolidated :
    let first : FileRow := ⟨"original/consolidated.00.safetensors", 18446744073709551615, ""⟩
    let second : FileRow := ⟨"consolidated.safetensors", 1, "file"⟩
    let listing := [⟨"model.safetensors", 5, "file"⟩, first, ⟨"model.bin", 7, "file"⟩, second]
    ∃ weights, ofListing listing = .ok weights ∧ weights.files = [first, second] ∧
      weights.layout.configFile = "params.json" ∧
      weights.totalBytes = .error .additionOverflow := by
  intro first second listing
  have named : ∃ row ∈ listing,
      IsNamed "" ".safetensors" row ∨ IsNamed "" ".bin" row := by
    refine ⟨second, by simp [listing], .inl ?_⟩
    decide +kernel
  have kept : listing.filter (IsNamed "consolidated" ".safetensors" ·) = [first, second] := by
    decide +kernel
  rcases (ofListing_by_name listing).2.2 named with
    ⟨weights, selected, files, configFile, _, _, faults⟩
  rw [kept] at files configFile
  refine ⟨weights, selected, files, configFile, ?_⟩
  rw [faults, files]
  exact ⟨rfl, by decide +kernel⟩

end Weights

end ServingPreset
