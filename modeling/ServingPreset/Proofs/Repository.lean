import ServingPreset.Proofs.Text.Blank
import ServingPreset.Proofs.Text.Lowercase
import ServingPreset.Repository

/-!
# Identifiers of repositories

Every identifier is well formed (`Repository.wellFormed_of_ofText`): addresses are built from
it without escapes, and its last part names the model.

A text names a repository by what is left between the white space around it and the first mark
of a query or a fragment. Where a scheme is left, the parts behind the authority count, and
each of them stands between slashes (`Repository.around_of_mem_pathParts`); elsewhere only
slashes at the ends are dropped. `Repository.identifier?_of_link` and
`Repository.identifier?_of_plain` tell the two apart.
-/

namespace ServingPreset

namespace Repository

variable {text : String} {chars location part : List Char} {repository : Repository}

/-! ### The scheme -/

/-- The location of a link stands behind the first `://`. -/
theorem behindScheme?_eq_some_iff :
    behindScheme? chars = some location ↔
      ∃ scheme, chars = scheme ++ [':', '/', '/'] ++ location ∧
        ∀ earlier, earlier ++ [':', '/', '/'] <+: chars → scheme.length ≤ earlier.length := by
  fun_induction behindScheme? chars with
  | case1 rest =>
      constructor
      · rintro ⟨⟩
        exact ⟨[], rfl, fun earlier _ => Nat.zero_le earlier.length⟩
      · rintro ⟨scheme, split, first⟩
        have shortest := first [] ⟨rest, rfl⟩
        rw [List.length_nil, Nat.le_zero, List.length_eq_zero_iff] at shortest
        subst shortest
        simpa using split
  | case2 char rest other ih =>
      have unmarked : ∀ after, char :: rest ≠ ':' :: '/' :: '/' :: after := by
        rintro after ⟨⟩
        exact other after rfl rfl
      rw [ih]
      constructor
      · rintro ⟨scheme, rfl, first⟩
        refine ⟨char :: scheme, rfl, ?_⟩
        intro earlier starts
        cases earlier with
        | nil =>
            rcases starts with ⟨after, split⟩
            exact absurd split.symm (unmarked after)
        | cons initial earlier =>
            simp only [List.cons_append, List.cons_prefix_cons] at starts
            exact Nat.succ_le_succ (first earlier starts.2)
      · rintro ⟨scheme, split, first⟩
        cases scheme with
        | nil => exact absurd split (unmarked location)
        | cons initial scheme =>
            simp only [List.cons_append, List.cons_eq_cons] at split
            refine ⟨scheme, split.2, ?_⟩
            intro earlier starts
            exact Nat.le_of_succ_le_succ
              (first (char :: earlier) (List.cons_prefix_cons.mpr ⟨rfl, starts⟩))
  | case3 => simp

theorem behindScheme?_eq_none_iff : behindScheme? chars = none ↔ ¬[':', '/', '/'] <:+: chars := by
  fun_induction behindScheme? chars with
  | case1 rest =>
      simp only [reduceCtorEq, false_iff, not_not]
      exact ⟨[], rest, rfl⟩
  | case2 char rest other ih =>
      rw [ih, List.infix_cons_iff, not_or]
      have unmarked : ¬[':', '/', '/'] <+: char :: rest := by
        rintro ⟨after, ⟨⟩⟩
        exact other after rfl rfl
      exact ⟨fun later => ⟨unmarked, later⟩, fun none => none.2⟩
  | case3 => simp

/-! ### The parts of a path -/

theorem pathParts_eq (chars : List Char) :
    pathParts chars = ((chars.splitOn '/').drop 1).filter (· ≠ []) := by
  rw [pathParts, Text.segments_eq_splitOn]
  refine List.filter_congr fun part _ => ?_
  cases part <;> rfl

/-- A part stands behind a slash, and a slash follows it, or the end. -/
theorem around_of_mem_pathParts (member : part ∈ pathParts location) :
    part ≠ [] ∧ '/' ∉ part ∧ ∃ before after,
      location = before ++ '/' :: (part ++ after) ∧ ∀ char ∈ after.head?, char = '/' := by
  rw [pathParts_eq, List.mem_filter, decide_eq_true_iff] at member
  rcases member with ⟨listed, nonempty⟩
  refine ⟨nonempty, ?_⟩
  by_cases slashed : '/' ∈ location
  · rcases List.eq_append_cons_of_mem slashed with ⟨authority, path, rfl, fresh⟩
    rw [List.splitOn_append_cons_self_of_not_mem fresh] at listed
    rcases Text.exists_around_of_mem_splitOn '/' path part listed with
      ⟨unslashed, before, after, split, ends⟩
    refine ⟨unslashed, authority ++ before, after, ?_, ends⟩
    rw [split, List.append_assoc]
  · rw [List.splitOn_eq_singleton slashed] at listed
    contradiction

theorem subset_of_mem_pathParts (member : part ∈ pathParts location) : part ⊆ location := by
  rcases around_of_mem_pathParts member with ⟨_, _, before, after, rfl, _⟩
  intro char charMem
  simp [charMem]

theorem subset_of_behindScheme? (found : behindScheme? chars = some location) :
    location ⊆ chars := by
  rcases behindScheme?_eq_some_iff.mp found with ⟨scheme, rfl, _⟩
  exact List.subset_append_right _ _

/-! ### Identifiers -/

/-- What every identifier has: some text, and no trace of a link. -/
structure WellFormed (repository : Repository) : Prop where
  nonempty : repository.id ≠ ""
  unqueried : '?' ∉ repository.id.toList
  unfragmented : '#' ∉ repository.id.toList
  unschemed : ¬"://".toList <:+: repository.id.toList
  unslashedFirst : repository.id.toList.head? ≠ some '/'
  unslashedLast : repository.id.toList.getLast? ≠ some '/'

theorem WellFormed.toList_ne_nil (formed : WellFormed repository) : repository.id.toList ≠ [] :=
  fun empty => formed.nonempty (String.toList_eq_nil_iff.mp empty)

/-- A link names the first two parts of its path. -/
theorem identifier?_of_link {id : List Char} (found : behindScheme? chars = some location) :
    identifier? chars = some id ↔
      ∃ owner name others, pathParts location = owner :: name :: others ∧
        id = owner ++ '/' :: name := by
  simp only [identifier?, found]
  rcases pathParts location with _ | ⟨owner, _ | ⟨name, others⟩⟩
  · simp
  · simp
  · simp only [Option.some.injEq, List.cons.injEq]
    constructor
    · rintro rfl
      exact ⟨owner, name, others, ⟨rfl, rfl, rfl⟩, rfl⟩
    · rintro ⟨_, _, _, ⟨rfl, rfl, rfl⟩, rfl⟩
      rfl

theorem identifier?_of_link_eq_none (found : behindScheme? chars = some location) :
    identifier? chars = none ↔ (pathParts location).length < 2 := by
  simp only [identifier?, found]
  rcases pathParts location with _ | ⟨owner, _ | ⟨name, others⟩⟩ <;> simp

theorem identifier?_of_plain {id : List Char} (plain : behindScheme? chars = none) :
    identifier? chars = some id ↔ id ≠ [] ∧ id = Text.dropAround '/' chars := by
  simp only [identifier?, plain]
  cases trimmed : Text.dropAround '/' chars with
  | nil => simp
  | cons char rest =>
      simp only [List.isEmpty_cons, Bool.false_eq_true, if_false, Option.some.injEq]
      constructor
      · rintro rfl
        exact ⟨List.cons_ne_nil char rest, rfl⟩
      · rintro ⟨_, rfl⟩
        rfl

theorem identifier?_of_plain_eq_none (plain : behindScheme? chars = none) :
    identifier? chars = none ↔ Text.dropAround '/' chars = [] := by
  simp only [identifier?, plain]
  cases Text.dropAround '/' chars <;> simp

/-- A single slash makes no `://`. -/
theorem unschemed_of_unslashed {owner name : List Char} (owned : '/' ∉ owner) (named : '/' ∉ name) :
    ¬[':', '/', '/'] <:+: owner ++ '/' :: name := by
  intro schemed
  have slashes := schemed.sublist.count_le '/'
  rw [List.count_append, List.count_cons_self, List.count_eq_zero.mpr owned,
    List.count_eq_zero.mpr named] at slashes
  revert slashes
  decide

/-- Two parts of a path are well formed around a slash. -/
theorem wellFormed_of_mem_pathParts {owner name : List Char} (unqueried : '?' ∉ location)
    (unfragmented : '#' ∉ location) (ownerMember : owner ∈ pathParts location)
    (nameMember : name ∈ pathParts location) :
    WellFormed ⟨String.ofList (owner ++ '/' :: name)⟩ := by
  rcases around_of_mem_pathParts ownerMember with ⟨owned, ownerUnslashed, _⟩
  rcases around_of_mem_pathParts nameMember with ⟨named, nameUnslashed, _⟩
  have inside {char : Char} (other : char ≠ '/') (member : char ∈ owner ++ '/' :: name) :
      char ∈ location := by
    simp only [List.mem_append, List.mem_cons] at member
    rcases member with inOwner | slash | inName
    · exact subset_of_mem_pathParts ownerMember inOwner
    · exact absurd slash other
    · exact subset_of_mem_pathParts nameMember inName
  constructor
  all_goals simp only [String.toList_ofList]
  · simp [← String.toList_inj]
  · exact fun member => unqueried (inside (by decide) member)
  · exact fun member => unfragmented (inside (by decide) member)
  · exact unschemed_of_unslashed ownerUnslashed nameUnslashed
  · intro first
    rw [List.head?_append_of_ne_nil _ owned] at first
    exact ownerUnslashed (List.mem_of_mem_head? first)
  · intro last
    have ends : (owner ++ '/' :: name).getLast? = name.getLast? := by
      rw [List.append_cons, List.getLast?_append_of_ne_nil _ named]
    rw [ends] at last
    exact nameUnslashed (List.mem_of_getLast? last)

theorem wellFormed_dropAround (unqueried : '?' ∉ chars) (unfragmented : '#' ∉ chars)
    (plain : ¬[':', '/', '/'] <:+: chars) (nonempty : Text.dropAround '/' chars ≠ []) :
    WellFormed ⟨String.ofList (Text.dropAround '/' chars)⟩ := by
  have inside := Text.strip_infix (· == '/') chars
  rw [← Text.dropAround_eq_strip] at inside
  constructor
  all_goals simp only [String.toList_ofList]
  · simpa using nonempty
  · exact fun member => unqueried (inside.subset member)
  · exact fun member => unfragmented (inside.subset member)
  · exact fun schemed => plain (schemed.trans inside)
  · exact Text.head?_dropAround '/' chars
  · exact Text.getLast?_dropAround '/' chars

theorem wellFormed_of_identifier? {id : List Char} (unqueried : '?' ∉ chars)
    (unfragmented : '#' ∉ chars) (identified : identifier? chars = some id) :
    WellFormed ⟨String.ofList id⟩ := by
  cases found : behindScheme? chars with
  | some location =>
      rcases (identifier?_of_link found).mp identified with ⟨owner, name, others, parts, rfl⟩
      have inside := subset_of_behindScheme? found
      have unqueriedBehind : '?' ∉ location := fun member => unqueried (inside member)
      have unfragmentedBehind : '#' ∉ location := fun member => unfragmented (inside member)
      apply wellFormed_of_mem_pathParts unqueriedBehind unfragmentedBehind
      · simp [parts]
      · simp [parts]
  | none =>
      rcases (identifier?_of_plain found).mp identified with ⟨nonempty, rfl⟩
      exact wellFormed_dropAround unqueried unfragmented (behindScheme?_eq_none_iff.mp found)
        nonempty

theorem shortName_ne_empty (formed : WellFormed repository) : repository.shortName ≠ "" := by
  apply Text.lowercase_ne_empty
  rw [ne_eq, String.ofList_eq_empty_iff]
  apply Text.afterLast_ne_nil
  · exact formed.toList_ne_nil
  · exact formed.unslashedLast

theorem slash_notMem_shortName (repository : Repository) : '/' ∉ repository.shortName.toList := by
  intro member
  have written := Text.mem_of_mem_lowercase (by decide) member
  rw [String.toList_ofList] at written
  exact (Text.afterLast_eq_iff.mp rfl).1 written

/-! ### Reading a text -/

theorem ofText_eq_ok_iff :
    ofText text = .ok repository ↔ identifier? (essence text) = some repository.id.toList := by
  rw [ofText]
  cases identifier? (essence text) with
  | none => simp
  | some id =>
      simp only [Except.ok.injEq, Option.some.injEq]
      constructor
      · rintro rfl
        exact String.toList_ofList.symm
      · rintro rfl
        cases repository
        simp

theorem ofText_eq_error_iff {problem : Problem} :
    ofText text = .error problem ↔
      identifier? (essence text) = none ∧ problem = .missingRepository := by
  rw [ofText]
  cases identifier? (essence text) with
  | none => simp [eq_comm]
  | some id => simp

theorem ofText_eq_error {problem : Problem} (failed : ofText text = .error problem) :
    problem = .missingRepository :=
  (ofText_eq_error_iff.mp failed).2

theorem notMem_essence (text : String) : '?' ∉ essence text ∧ '#' ∉ essence text := by
  refine ⟨?_, ?_⟩
  · intro member
    have kept := (List.takeWhile_prefix _).subset member
    exact (Text.beforeFirst_eq_iff.mp rfl).1 kept
  · exact (Text.beforeFirst_eq_iff.mp rfl).1

theorem wellFormed_of_ofText (named : ofText text = .ok repository) : WellFormed repository := by
  rcases notMem_essence text with ⟨unqueried, unfragmented⟩
  have formed := wellFormed_of_identifier? unqueried unfragmented (ofText_eq_ok_iff.mp named)
  rwa [String.ofList_toList] at formed

/-! ### The essential text -/

theorem essence_of_unmarked (unqueried : '?' ∉ text.toList) (unfragmented : '#' ∉ text.toList) :
    essence text = Text.trimChars text.toList := by
  have inside := (Text.strip_infix Text.isBlank text.toList).subset
  rw [← Text.trimChars_eq_strip] at inside
  rw [essence, Text.beforeFirst_eq_self fun member => unqueried (inside member),
    Text.beforeFirst_eq_self fun member => unfragmented (inside member)]

/-- A mark cuts off what follows it; white space before it stays. -/
theorem essence_of_marked {mark : Char} {extra : List Char} (cuts : mark = '?' ∨ mark = '#')
    (unqueried : '?' ∉ chars) (unfragmented : '#' ∉ chars)
    (split : text.toList = chars ++ mark :: extra) :
    essence text = chars.dropWhile Text.isBlank := by
  have kept : Text.isBlank mark = false := by rcases cuts with rfl | rfl <;> decide
  have inside : chars.dropWhile Text.isBlank ⊆ chars := (List.dropWhile_suffix _).subset
  have freshQuery : '?' ∉ chars.dropWhile Text.isBlank := fun member => unqueried (inside member)
  have freshFragment : '#' ∉ chars.dropWhile Text.isBlank :=
    fun member => unfragmented (inside member)
  rw [essence, split, Text.trimChars_eq_strip, Text.strip, Text.dropWhile_append_cons kept,
    Text.rdropWhile_append_cons kept]
  rcases cuts with rfl | rfl
  · rw [Text.beforeFirst_append freshQuery, Text.beforeFirst_eq_self freshFragment]
  · -- The first cut may fall behind the fragment, which the second one removes.
    have freshBefore : '?' ∉ chars.dropWhile Text.isBlank ++ ['#'] := by simp [freshQuery]
    rw [List.append_cons, Text.beforeFirst_append_of_notMem freshBefore, ← List.append_cons,
      Text.beforeFirst_append freshFragment]

/-- What is cut off the trimmed text begins with a mark. -/
theorem exists_rest_of_essence (text : String) :
    ∃ rest, Text.trimChars text.toList = essence text ++ rest ∧
      ∀ char ∈ rest.head?, char = '?' ∨ char = '#' := by
  rcases Text.exists_rest_of_beforeFirst '?' (Text.trimChars text.toList) with
    ⟨query, trimmed, queried⟩
  rcases Text.exists_rest_of_beforeFirst '#'
    (Text.beforeFirst '?' (Text.trimChars text.toList)) with ⟨fragment, cut, fragmented⟩
  refine ⟨fragment ++ query, ?_, ?_⟩
  · rw [essence, ← List.append_assoc, ← cut, ← trimmed]
  · intro char first
    cases fragment with
    | nil => exact .inl (queried char first)
    | cons mark others => exact .inr (fragmented char first)

theorem ofText_congr {other : String} (same : essence other = essence text) :
    ofText other = ofText text := by
  rw [ofText, same, ofText]

theorem ofText_surround {front back : String} (frontBlank : Text.blank front = true)
    (backBlank : Text.blank back = true) (text : String) :
    ofText (front ++ text ++ back) = ofText text := by
  apply ofText_congr
  rw [essence, String.toList_append, String.toList_append, Text.trimChars_eq_strip,
    Text.strip_append (List.all_eq_true.mp frontBlank) (List.all_eq_true.mp backBlank),
    ← Text.trimChars_eq_strip, essence]

theorem ofText_append_mark {mark : Char} (cuts : mark = '?' ∨ mark = '#')
    (unqueried : '?' ∉ text.toList) (unfragmented : '#' ∉ text.toList)
    (last : ∀ char ∈ text.toList.getLast?, Text.isBlank char = false) (extra : String) :
    ofText (text ++ String.singleton mark ++ extra) = ofText text := by
  have split : (text ++ String.singleton mark ++ extra).toList =
      text.toList ++ mark :: extra.toList := by simp
  apply ofText_congr
  rw [essence_of_marked cuts unqueried unfragmented split,
    essence_of_unmarked unqueried unfragmented, Text.trimChars_eq_strip, Text.strip_of_last last]

/--
An identifier has no trace of a link, and its last part is a name. A link names the first two
parts behind its authority and is refused if it has fewer; any other text is refused if it has
nothing but slashes. Neither white space around a text nor a query or a fragment behind it
changes what it names.
-/
theorem ofText_shape (text : String) :
    let essential := Text.beforeFirst '#' (Text.beforeFirst '?' (Text.trimChars text.toList))
    (∀ repository, ofText text = .ok repository →
        repository.WellFormed ∧ repository.shortName ≠ "" ∧ '/' ∉ repository.shortName.toList) ∧
      (∀ problem, ofText text = .error problem → problem = .missingRepository) ∧
      ("://".toList <:+: essential →
        ∃ scheme location, essential = scheme ++ "://".toList ++ location ∧
          (∀ earlier, earlier ++ "://".toList <+: essential → scheme.length ≤ earlier.length) ∧
          let parts := ((location.splitOn '/').drop 1).filter (· ≠ [])
          (ofText text = .error .missingRepository ↔ parts.length < 2) ∧
            ∀ repository, ofText text = .ok repository ↔
              ∃ owner name others, parts = owner :: name :: others ∧
                repository.id.toList = owner ++ '/' :: name) ∧
      (¬"://".toList <:+: essential →
        (ofText text = .error .missingRepository ↔ ∀ char ∈ essential, char = '/') ∧
          ∀ repository, ofText text = .ok repository →
            ∃ front back, essential =
              List.replicate front '/' ++ repository.id.toList ++ List.replicate back '/') ∧
      (∀ front back, Text.blank front = true → Text.blank back = true →
        ofText (front ++ text ++ back) = ofText text) ∧
      ('?' ∉ text.toList → '#' ∉ text.toList →
        (∀ char ∈ text.toList.getLast?, Text.isBlank char = false) →
        ∀ extra, ofText (text ++ "?" ++ extra) = ofText text ∧
          ofText (text ++ "#" ++ extra) = ofText text) := by
  intro essential
  refine ⟨?_, ?_, ?_, ?_, ?_, ?_⟩
  · intro repository named
    have formed := wellFormed_of_ofText named
    exact ⟨formed, shortName_ne_empty formed, slash_notMem_shortName repository⟩
  · exact fun _ => ofText_eq_error
  · intro schemed
    cases found : behindScheme? essential with
    | none => exact absurd schemed (behindScheme?_eq_none_iff.mp found)
    | some location =>
        rcases behindScheme?_eq_some_iff.mp found with ⟨scheme, split, first⟩
        refine ⟨scheme, location, split, first, ?_, ?_⟩
        · rw [← pathParts_eq, ofText_eq_error_iff, ← identifier?_of_link_eq_none found]
          exact and_iff_left rfl
        · intro repository
          rw [← pathParts_eq, ofText_eq_ok_iff]
          exact identifier?_of_link found
  · intro plain
    have found := behindScheme?_eq_none_iff.mpr plain
    refine ⟨?_, ?_⟩
    · rw [ofText_eq_error_iff, ← Text.dropAround_eq_nil_iff]
      refine (and_iff_left rfl).trans ?_
      exact identifier?_of_plain_eq_none found
    · intro repository named
      rw [(identifier?_of_plain found).mp (ofText_eq_ok_iff.mp named) |>.2]
      exact Text.exists_dropAround '/' essential
  · intro front back frontBlank backBlank
    exact ofText_surround frontBlank backBlank text
  · intro unqueried unfragmented last extra
    exact ⟨ofText_append_mark (.inl rfl) unqueried unfragmented last extra,
      ofText_append_mark (.inr rfl) unqueried unfragmented last extra⟩

/-- A link with a slash too many, with and without a query. -/
theorem ofText_shape_link :
    let text := "https://hf.co//Org/Model/tree"
    let essential := Text.beforeFirst '#' (Text.beforeFirst '?' (Text.trimChars text.toList))
    "://".toList <:+: essential ∧ ofText text = .ok ⟨"Org/Model"⟩ ∧
      WellFormed ⟨"Org/Model"⟩ ∧ ofText (text ++ "?" ++ "rev=main") = .ok ⟨"Org/Model"⟩ := by
  intro text essential
  have schemed : "://".toList <:+: essential := by decide +kernel
  have named : ofText text = .ok ⟨"Org/Model"⟩ := by decide +kernel
  have unblank : ∀ char ∈ text.toList.getLast?, Text.isBlank char = false := by
    have ends : text.toList.getLast? = some 'e' := by decide +kernel
    intro char last
    rw [ends] at last
    cases last
    decide
  rcases ofText_shape text with ⟨formed, _, _, _, _, unchanged⟩
  have queried := (unchanged (by decide) (by decide) unblank "rev=main").1
  exact ⟨schemed, named, (formed _ named).1, queried.trans named⟩

end Repository

end ServingPreset
