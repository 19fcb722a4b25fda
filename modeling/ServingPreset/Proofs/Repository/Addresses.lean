import ServingPreset.Proofs.Generation.Serving
import ServingPreset.Proofs.Remote.Client

/-!
# Addresses that lead back

The hub shows a repository at an address of its own, and its files at addresses below that
one. All of them are links: the first two parts behind the authority are those of the
identifier (`Repository.exists_pathParts_eq`). What follows the identifier begins with a slash, so
neither trimming nor a mark in the name of a file reaches back into it
(`Repository.exists_essence_eq`).
-/

namespace ServingPreset

namespace Repository

/-- Whether a text can stand between the slashes of an address. -/
structure IsPart (part : String) : Prop where
  nonempty : part ≠ ""
  plain : ∀ char ∈ part.toList, char ∉ ['/', '?', '#'] ∧ Text.isBlank char = false

variable {part : String}

theorem isPart_iff :
    IsPart part ↔ part ≠ "" ∧
      part.toList.all (fun char => char ∉ ['/', '?', '#'] && Text.isBlank char == false) = true := by
  simp only [List.all_eq_true, Bool.and_eq_true, decide_eq_true_eq, beq_iff_eq]
  exact ⟨fun isPart => ⟨isPart.nonempty, isPart.plain⟩, fun given => ⟨given.1, given.2⟩⟩

instance : Decidable (IsPart part) :=
  decidable_of_iff' _ isPart_iff

namespace IsPart

theorem notMem (isPart : IsPart part) {mark : Char} (cuts : mark ∈ ['/', '?', '#']) :
    mark ∉ part.toList :=
  fun member => (isPart.plain mark member).1 cuts

theorem unslashed (isPart : IsPart part) : '/' ∉ part.toList :=
  isPart.notMem (by simp)

theorem toList_ne_nil (isPart : IsPart part) : part.toList ≠ [] :=
  fun empty => isPart.nonempty (String.toList_eq_nil_iff.mp empty)

theorem isBlank_of_mem (isPart : IsPart part) {char : Char} (member : char ∈ part.toList) :
    Text.isBlank char = false :=
  (isPart.plain char member).2

end IsPart

/-- The address at which a host shows a repository. -/
def page (scheme host owner name : String) : List Char :=
  scheme.toList ++ ':' :: '/' :: '/' ::
    (host.toList ++ '/' :: (owner.toList ++ '/' :: name.toList))

variable {text scheme host owner name : String} {tail : List Char}

/-! ### The parts of an address -/

theorem behindScheme?_append {scheme : List Char} (unslashed : '/' ∉ scheme)
    (location : List Char) :
    behindScheme? (scheme ++ ':' :: '/' :: '/' :: location) = some location := by
  induction scheme with
  | nil => rfl
  | cons char rest ih =>
      simp only [List.mem_cons, not_or] at unslashed
      rcases unslashed with ⟨_, later⟩
      -- No scheme ends here: what follows is a colon, or a letter of the scheme.
      cases rest with
      | nil => simp [behindScheme?]
      | cons next others =>
          have apart : next ≠ '/' := by
            rintro rfl
            exact later List.mem_cons_self
          simpa [behindScheme?, apart] using ih later

theorem exists_pathParts_eq {host owner name : List Char} (hosted : '/' ∉ host)
    (owned : owner ≠ [] ∧ '/' ∉ owner) (named : name ≠ [] ∧ '/' ∉ name)
    (ends : ∀ char ∈ tail.head?, char = '/') :
    ∃ others, pathParts (host ++ '/' :: (owner ++ '/' :: (name ++ tail))) =
      owner :: name :: others := by
  have behind : ∃ others, (name ++ tail).splitOn '/' = name :: others := by
    cases tail with
    | nil =>
        refine ⟨[], ?_⟩
        simp only [List.append_nil, List.splitOn_eq_singleton named.2]
    | cons char rest =>
        cases ends char rfl
        exact ⟨_, List.splitOn_append_cons_self_of_not_mem named.2 rest⟩
  rcases behind with ⟨others, split⟩
  refine ⟨others.filter (· ≠ []), ?_⟩
  simp only [pathParts_eq, List.splitOn_append_cons_self_of_not_mem hosted,
    List.splitOn_append_cons_self_of_not_mem owned.2, split, List.drop_succ_cons, List.drop_zero]
  simp [owned.1, named.1]

/-! ### The essential text of an address -/

theorem exists_essence_eq {front rest : List Char}
    (first : ∀ char ∈ front.head?, Text.isBlank char = false)
    (unqueried : '?' ∉ front) (unfragmented : '#' ∉ front)
    (split : text.toList = front ++ '/' :: rest) :
    ∃ kept, essence text = front ++ '/' :: kept := by
  have slash : Text.isBlank '/' = false := by decide
  have trimmed : Text.trimChars text.toList = front ++ '/' :: rest.rdropWhile Text.isBlank := by
    simp only [split, Text.trimChars_eq_strip, Text.strip, Text.dropWhile_append_cons slash,
      Text.dropWhile_eq_self first, Text.rdropWhile_append_cons slash]
  have freshQuery : '?' ∉ front ++ ['/'] := by simp [unqueried]
  have freshFragment : '#' ∉ front ++ ['/'] := by simp [unfragmented]
  refine ⟨Text.beforeFirst '#' (Text.beforeFirst '?' (rest.rdropWhile Text.isBlank)), ?_⟩
  rw [essence, trimmed, List.append_cons, Text.beforeFirst_append_of_notMem freshQuery,
    Text.beforeFirst_append_of_notMem freshFragment, ← List.append_cons]

theorem isStripped_page (schemePart : IsPart scheme) (namePart : IsPart name) :
    Text.IsStripped Text.isBlank (page scheme host owner name) := by
  constructor
  · intro char first
    simp only [page, List.head?_append_of_ne_nil _ schemePart.toList_ne_nil] at first
    exact schemePart.isBlank_of_mem (List.mem_of_mem_head? first)
  · intro char last
    have ends : page scheme host owner name =
        scheme.toList ++ ':' :: '/' :: '/' :: (host.toList ++ '/' :: (owner.toList ++ ['/'])) ++
          name.toList := by
      simp [page]
    simp only [ends, List.getLast?_append_of_ne_nil _ namePart.toList_ne_nil] at last
    exact namePart.isBlank_of_mem (List.mem_of_getLast? last)

section Page

variable (schemePart : IsPart scheme) (hostPart : IsPart host) (ownerPart : IsPart owner)
  (namePart : IsPart name)

include schemePart hostPart ownerPart namePart

theorem notMem_page {mark : Char} (cuts : mark ∈ ['?', '#']) :
    mark ∉ page scheme host owner name := by
  have listed : mark ∈ ['/', '?', '#'] := List.mem_cons_of_mem _ cuts
  have other : mark ≠ ':' ∧ mark ≠ '/' := by
    rcases List.mem_pair.mp cuts with rfl | rfl <;> decide
  simp [page, other, schemePart.notMem listed, hostPart.notMem listed, ownerPart.notMem listed,
    namePart.notMem listed]

/-- Trimming and cutting leave of an address what belongs to the repository. -/
theorem exists_essence_page (whole : text.toList = page scheme host owner name ++ tail)
    (ends : ∀ char ∈ tail.head?, char = '/') :
    ∃ rest, essence text = page scheme host owner name ++ rest ∧
      ∀ char ∈ rest.head?, char = '/' := by
  have unqueried := notMem_page schemePart hostPart ownerPart namePart (by simp : '?' ∈ ['?', '#'])
  have unfragmented :=
    notMem_page schemePart hostPart ownerPart namePart (by simp : '#' ∈ ['?', '#'])
  have stripped : Text.IsStripped Text.isBlank (page scheme host owner name) :=
    isStripped_page schemePart namePart
  cases tail with
  | nil =>
      rw [List.append_nil] at whole
      refine ⟨[], ?_, by simp⟩
      rw [← whole] at unqueried unfragmented
      rw [essence_of_unmarked unqueried unfragmented, whole,
        Text.trimChars_eq_self stripped.first stripped.last, List.append_nil]
  | cons char behind =>
      cases ends char rfl
      rcases exists_essence_eq stripped.first unqueried unfragmented whole with ⟨rest, same⟩
      exact ⟨'/' :: rest, same, by simp⟩

/-- The address of a repository, or one below it, names the repository. -/
theorem ofText_of_page (whole : text.toList = page scheme host owner name ++ tail)
    (ends : ∀ char ∈ tail.head?, char = '/') : ofText text = .ok ⟨owner ++ "/" ++ name⟩ := by
  rcases exists_essence_page schemePart hostPart ownerPart namePart whole ends with
    ⟨rest, same, restEnds⟩
  rcases exists_pathParts_eq hostPart.unslashed ⟨ownerPart.toList_ne_nil, ownerPart.unslashed⟩
    ⟨namePart.toList_ne_nil, namePart.unslashed⟩ restEnds with ⟨others, parts⟩
  have linked := behindScheme?_append schemePart.unslashed
    (host.toList ++ '/' :: (owner.toList ++ '/' :: (name.toList ++ rest)))
  rw [ofText_eq_ok_iff, same]
  simp only [page, List.append_assoc, List.cons_append]
  apply (identifier?_of_link linked).mpr
  exact ⟨_, _, others, parts, by simp⟩

end Page

/--
Under an endpoint of the form `scheme://host`, with any number of slashes behind it, the address
of a repository and those of its files name the repository. So the version of a generated preset
leads back to the name of the preset.
-/
theorem ofText_addresses (settings : Settings) (hub : Hub)
    (scheme host owner name file : String) (slashes : Nat)
    (schemePart : IsPart scheme) (hostPart : IsPart host) (ownerPart : IsPart owner)
    (namePart : IsPart name)
    (configured : settings.baseUrl =
      scheme ++ "://" ++ host ++ String.ofList (List.replicate slashes '/'))
    (under : hub.endpoint = settings.endpoint) :
    let repository : Repository := ⟨owner ++ "/" ++ name⟩
    ofText (Generation.versionOf hub repository) = .ok repository ∧
      ofText (hub.fileUrl repository.id file) = .ok repository ∧
      ∀ preset, (Generation.run hub repository).result = .ok preset →
        ofText preset.card.version = .ok repository ∧
          repository.shortName = preset.card.name := by
  intro repository
  have endpoint : hub.endpoint = scheme ++ "://" ++ host := by
    rw [under]
    apply Settings.endpoint_eq configured
    intro last
    simp only [String.toList_append, List.getLast?_append_of_ne_nil _ hostPart.toList_ne_nil] at last
    exact hostPart.unslashed (List.mem_of_getLast? last)
  have shown : ofText (Generation.versionOf hub repository) = .ok repository := by
    have whole : (Generation.versionOf hub repository).toList =
        page scheme host owner name ++ [] := by
      simp [Generation.versionOf, endpoint, repository, page]
    exact ofText_of_page schemePart hostPart ownerPart namePart whole (by simp)
  refine ⟨shown, ?_, ?_⟩
  · have whole : (hub.fileUrl repository.id file).toList =
        page scheme host owner name ++ ("/resolve/main/" ++ file).toList := by
      simp [Hub.fileUrl, endpoint, repository, page]
    exact ofText_of_page schemePart hostPart ownerPart namePart whole (by simp)
  · intro preset generated
    rcases Generation.exists_assembled_of_run generated with ⟨weights, config, _, _, assembled⟩
    rcases assembled.exists_card_eq with ⟨_, _, _, card⟩
    rw [card]
    exact ⟨shown, rfl⟩

open SmallHub in
/-- Marks, a scheme and white space in the name of a file do not lead elsewhere. -/
theorem ofText_addresses_openModel :
    let settings : Settings := { baseUrl := "https://huggingface.co//" }
    tokenHub.endpoint = settings.endpoint ∧
      ofText (tokenHub.fileUrl "org/Qwen3-Open" "a://b/c?d#e ") = .ok ⟨"org/Qwen3-Open"⟩ ∧
      ∃ preset, (Generation.run tokenHub ⟨"org/Qwen3-Open"⟩).result = .ok preset ∧
        preset.card.name = "qwen3-open" ∧
        ofText preset.card.version = .ok ⟨"org/Qwen3-Open"⟩ := by
  intro settings
  have under : tokenHub.endpoint = settings.endpoint := by decide +kernel
  have configured : settings.baseUrl =
      "https" ++ "://" ++ "huggingface.co" ++ String.ofList (List.replicate 2 '/') := by
    decide +kernel
  rcases ofText_addresses settings tokenHub "https" "huggingface.co" "org" "Qwen3-Open"
    "a://b/c?d#e " 2 (by decide +kernel) (by decide +kernel) (by decide +kernel)
    (by decide +kernel) configured under with ⟨_, file, presets⟩
  have generates : (Generation.run tokenHub ⟨"org/Qwen3-Open"⟩).result.isOk = true := by
    decide +kernel
  rcases Generation.exists_of_isOk generates with ⟨preset, generated⟩
  rcases presets preset generated with ⟨version, name⟩
  have named : shortName ⟨"org/Qwen3-Open"⟩ = "qwen3-open" := by decide +kernel
  exact ⟨under, file, preset, generated, name.symm.trans named, version⟩

end Repository

end ServingPreset
