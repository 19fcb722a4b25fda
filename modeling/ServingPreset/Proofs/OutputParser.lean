import ServingPreset.OutputParser

/-!
# Parser tables

Both tables list their prefixes in increasing order, so a parser is selected from the table
as it stands (`OutputParser.select_of_ordered`).

For any table, the last prefix that fits a name in the order of texts is the longest one that
does (`OutputParser.isLongestFit_of_choice?`): the prefixes of one name form a chain, on which
that order and the order of lengths agree. Sorting is stable, so among rows with the same
prefix the last one of the table is selected.
-/

namespace ServingPreset

namespace OutputParser

variable {table : List Row} {modelName : String} {row other : Row}

theorem select_of_ordered (ordered : table.Pairwise fun left right => left.1 ≤ right.1)
    (modelName : String) :
    select table modelName =
      (table.filter fun row =>
        row.1.toList.isPrefixOf (Text.lowercase modelName).toList).getLast?.map (·.2) := by
  have sorted : table.mergeSort (fun left right => left.1 ≤ right.1) = table :=
    List.mergeSort_of_pairwise (ordered.imp decide_eq_true)
  rw [select, sorted]

theorem pairwise_reasoningTable : reasoningTable.Pairwise fun left right => left.1 ≤ right.1 := by
  decide

theorem pairwise_toolCallTable : toolCallTable.Pairwise fun left right => left.1 ≤ right.1 := by
  decide

/-! ### The prefixes of one name -/

/-- Whether the lowercase form of a model name starts with the prefix of a row. -/
def Fits (modelName : String) (row : Row) : Prop :=
  row.1.toList <+: (Text.lowercase modelName).toList

instance (modelName : String) (row : Row) : Decidable (Fits modelName row) :=
  inferInstanceAs (Decidable (_ <+: _))

/-- A row of a table whose prefix is the longest one that a model name starts with. -/
structure IsLongestFit (table : List Row) (modelName : String) (row : Row) : Prop where
  listed : row ∈ table
  fits : Fits modelName row
  longest : ∀ other ∈ table, Fits modelName other → other.1.length ≤ row.1.length

/-- Of two prefixes of one name, the one that is not the longer begins the other. -/
theorem Fits.prefix_of_length_le (fits : Fits modelName row) (otherFits : Fits modelName other)
    (shorter : row.1.length ≤ other.1.length) : row.1.toList <+: other.1.toList := by
  apply List.prefix_of_prefix_length_le fits otherFits
  rwa [String.length_toList, String.length_toList]

theorem Fits.eq_of_length_eq (fits : Fits modelName row) (otherFits : Fits modelName other)
    (same : row.1.length = other.1.length) : row.1 = other.1 := by
  apply String.toList_inj.mp
  apply (fits.prefix_of_length_le otherFits (Nat.le_of_eq same)).eq_of_length
  rwa [String.length_toList, String.length_toList]

/-- A prefix that comes later in the order of texts is no shorter. -/
theorem Fits.length_le_of_le (fits : Fits modelName row) (otherFits : Fits modelName other)
    (ordered : row.1 ≤ other.1) : row.1.length ≤ other.1.length := by
  rcases Nat.le_total row.1.length other.1.length with shorter | longer
  · exact shorter
  · have backward : other.1 ≤ row.1 := (otherFits.prefix_of_length_le fits longer).le
    exact Nat.le_of_eq (congrArg String.length (String.le_antisymm ordered backward))

/-! ### The order of the rows -/

/-- The rows in increasing order of their prefixes. -/
def inOrder (table : List Row) : List Row :=
  table.mergeSort fun left right => left.1 ≤ right.1

theorem prefix_trans (left middle right : Row) (first : decide (left.1 ≤ middle.1) = true)
    (second : decide (middle.1 ≤ right.1) = true) : decide (left.1 ≤ right.1) = true :=
  decide_eq_true (String.le_trans (of_decide_eq_true first) (of_decide_eq_true second))

theorem prefix_total (left right : Row) :
    (decide (left.1 ≤ right.1) || decide (right.1 ≤ left.1)) = true := by
  rw [Bool.or_eq_true, decide_eq_true_iff, decide_eq_true_iff]
  exact String.le_total left.1 right.1

theorem pairwise_inOrder (table : List Row) :
    (inOrder table).Pairwise fun left right => left.1 ≤ right.1 :=
  (List.pairwise_mergeSort prefix_trans prefix_total table).imp of_decide_eq_true

/-- Sorting keeps rows with one prefix in the order of the table. -/
theorem filter_inOrder (table : List Row) (key : String) :
    (inOrder table).filter (·.1 = key) = table.filter (·.1 = key) := by
  have level : (table.filter (·.1 = key)).Pairwise fun left right =>
      decide (left.1 ≤ right.1) = true := by
    apply List.pairwise_of_forall_mem_list
    intro left leftMem right rightMem
    have leftKey : left.1 = key := by simpa using (List.mem_filter.mp leftMem).2
    have rightKey : right.1 = key := by simpa using (List.mem_filter.mp rightMem).2
    rw [leftKey, rightKey]
    exact decide_eq_true (String.le_refl key)
  have kept : (table.filter (·.1 = key)).Sublist (inOrder table) :=
    List.sublist_mergeSort prefix_trans prefix_total level List.filter_sublist
  have inside := kept.filter (·.1 = key)
  simp only [List.filter_filter, Bool.and_self] at inside
  symm
  apply inside.eq_of_length
  exact ((List.mergeSort_perm table _).filter _).length_eq.symm

/-! ### The selected row -/

/-- The row whose parser is selected. -/
def choice? (table : List Row) (modelName : String) : Option Row :=
  ((inOrder table).filter fun row =>
    row.1.toList.isPrefixOf (Text.lowercase modelName).toList).getLast?

theorem select_eq_map_choice? (table : List Row) (modelName : String) :
    select table modelName = (choice? table modelName).map (·.2) := rfl

theorem mem_filter_inOrder :
    row ∈ (inOrder table).filter (fun row =>
        row.1.toList.isPrefixOf (Text.lowercase modelName).toList) ↔
      row ∈ table ∧ Fits modelName row := by
  rw [List.mem_filter, inOrder, List.mem_mergeSort, List.isPrefixOf_iff_prefix, Fits]

theorem choice?_eq_none_iff :
    choice? table modelName = none ↔ ∀ row ∈ table, ¬Fits modelName row := by
  rw [choice?, List.getLast?_eq_none_iff, List.eq_nil_iff_forall_not_mem]
  simp only [mem_filter_inOrder, not_and]

theorem isLongestFit_of_choice? (chosen : choice? table modelName = some row) :
    IsLongestFit table modelName row := by
  rcases List.getLast?_eq_some_iff.mp chosen with ⟨earlier, split⟩
  rcases mem_filter_inOrder.mp (List.mem_of_getLast? chosen) with ⟨listed, fits⟩
  refine ⟨listed, fits, ?_⟩
  intro other otherListed otherFits
  have sorted := (pairwise_inOrder table).filter fun row =>
    row.1.toList.isPrefixOf (Text.lowercase modelName).toList
  have member := mem_filter_inOrder.mpr ⟨otherListed, otherFits⟩
  rw [split] at sorted member
  rcases List.mem_append.mp member with before | last
  · have ordered := (List.pairwise_append.mp sorted).2.2 other before row List.mem_cons_self
    exact otherFits.length_le_of_le fits ordered
  · exact Nat.le_of_eq (congrArg (·.1.length) (List.mem_singleton.mp last))

/-- Among the rows with the longest prefix that fits, the last one of the table counts. -/
theorem choice?_of_isLongestFit (best : IsLongestFit table modelName row) :
    choice? table modelName = (table.filter (·.1 = row.1)).getLast? := by
  cases chosen : choice? table modelName with
  | none => exact absurd best.fits (choice?_eq_none_iff.mp chosen row best.listed)
  | some last =>
      have lastBest := isLongestFit_of_choice? chosen
      have same : last.1 = row.1 := by
        apply lastBest.fits.eq_of_length_eq best.fits
        exact Nat.le_antisymm (best.longest last lastBest.listed lastBest.fits)
          (lastBest.longest row best.listed best.fits)
      rcases List.getLast?_eq_some_iff.mp chosen with ⟨earlier, split⟩
      -- The rows with that prefix all fit, so they are found among the fitting ones.
      have narrowed : (inOrder table).filter (·.1 = row.1) =
          (earlier ++ [last]).filter (·.1 = row.1) := by
        rw [← split, List.filter_filter]
        refine List.filter_congr fun candidate _ => ?_
        by_cases key : candidate.1 = row.1
        · have fits := List.isPrefixOf_iff_prefix.mpr best.fits
          simp [key, fits]
        · simp [key]
      rw [← filter_inOrder, narrowed, List.filter_append, List.getLast?_append]
      simp [same]

theorem select_eq_some_iff {parser : String} :
    select table modelName = some parser ↔
      ∃ row, IsLongestFit table modelName row ∧
        (table.filter (·.1 = row.1)).getLast? = some row ∧ row.2 = parser := by
  rw [select_eq_map_choice?, Option.map_eq_some_iff]
  constructor
  · rintro ⟨row, chosen, parsed⟩
    have best := isLongestFit_of_choice? chosen
    exact ⟨row, best, (choice?_of_isLongestFit best).symm.trans chosen, parsed⟩
  · rintro ⟨row, best, last, parsed⟩
    exact ⟨row, (choice?_of_isLongestFit best).trans last, parsed⟩

/-! ### Tables without repeated prefixes -/

theorem filter_eq_singleton (distinct : (table.map (·.1)).Nodup) (listed : row ∈ table) :
    table.filter (·.1 = row.1) = [row] := by
  rcases List.append_of_mem listed with ⟨before, after, rfl⟩
  rw [List.map_append, List.map_cons, List.nodup_append, List.nodup_cons] at distinct
  rcases distinct with ⟨_, ⟨freshAfter, _⟩, freshBefore⟩
  have noneBefore : before.filter (·.1 = row.1) = [] := by
    rw [List.filter_eq_nil_iff]
    intro other member same
    exact freshBefore other.1 (List.mem_map_of_mem member) row.1 List.mem_cons_self
      (of_decide_eq_true same)
  have noneAfter : after.filter (·.1 = row.1) = [] := by
    rw [List.filter_eq_nil_iff]
    intro other member same
    rw [← of_decide_eq_true same] at freshAfter
    exact freshAfter (List.mem_map_of_mem member)
  rw [List.filter_append, List.filter_cons_of_pos (by simp), noneBefore, noneAfter]
  rfl

theorem select_eq_some_iff_of_nodup (distinct : (table.map (·.1)).Nodup) {parser : String} :
    select table modelName = some parser ↔
      ∃ row, IsLongestFit table modelName row ∧ row.2 = parser := by
  rw [select_eq_some_iff]
  constructor
  · rintro ⟨row, best, _, parsed⟩
    exact ⟨row, best, parsed⟩
  · rintro ⟨row, best, parsed⟩
    refine ⟨row, best, ?_, parsed⟩
    rw [filter_eq_singleton distinct best.listed]
    rfl

theorem IsLongestFit.perm {reordered : List Row} (same : reordered.Perm table)
    (best : IsLongestFit table modelName row) : IsLongestFit reordered modelName row where
  listed := same.mem_iff.mpr best.listed
  fits := best.fits
  longest other listed := best.longest other (same.mem_iff.mp listed)

theorem select_perm {reordered : List Row} (distinct : (table.map (·.1)).Nodup)
    (same : reordered.Perm table) : select reordered modelName = select table modelName := by
  have distinct' : (reordered.map (·.1)).Nodup := (same.map _).nodup_iff.mpr distinct
  apply Option.ext
  intro parser
  rw [select_eq_some_iff_of_nodup distinct, select_eq_some_iff_of_nodup distinct']
  constructor
  · rintro ⟨row, best, parsed⟩
    exact ⟨row, best.perm same.symm, parsed⟩
  · rintro ⟨row, best, parsed⟩
    exact ⟨row, best.perm same, parsed⟩

/--
A parser is selected by the longest prefix that the lowercase name starts with, and none is if
there is no such prefix. Of several rows with that prefix the last one counts. In a table
without repeated prefixes there is only one, so the order of the rows does not matter; both
tables of the runtime are such.
-/
theorem select_longest_prefix (table : List Row) (modelName : String) :
    (∀ parser, select table modelName = some parser ↔
        ∃ row, IsLongestFit table modelName row ∧
          (table.filter (·.1 = row.1)).getLast? = some row ∧ row.2 = parser) ∧
      (select table modelName = none ↔ ∀ row ∈ table, ¬Fits modelName row) ∧
      ((table.map (·.1)).Nodup →
        (∀ parser, select table modelName = some parser ↔
          ∃ row, IsLongestFit table modelName row ∧ row.2 = parser) ∧
        ∀ reordered : List Row, reordered.Perm table →
          select reordered modelName = select table modelName) ∧
      (∀ parser, reasoning modelName = some parser ↔
        ∃ row, IsLongestFit reasoningTable modelName row ∧ row.2 = parser) ∧
      ∀ parser, toolCall modelName = some parser ↔
        ∃ row, IsLongestFit toolCallTable modelName row ∧ row.2 = parser := by
  refine ⟨fun _ => select_eq_some_iff, ?_, ?_, ?_, ?_⟩
  · rw [select_eq_map_choice?, Option.map_eq_none_iff]
    exact choice?_eq_none_iff
  · intro distinct
    exact ⟨fun _ => select_eq_some_iff_of_nodup distinct, fun _ same => select_perm distinct same⟩
  · intro parser
    exact select_eq_some_iff_of_nodup (by decide)
  · intro parser
    exact select_eq_some_iff_of_nodup (by decide)

/-- The parser of a special family, although the table is turned around. -/
theorem select_longest_prefix_coder :
    (toolCallTable.map (·.1)).Nodup ∧ toolCallTable.reverse.Perm toolCallTable ∧
      select toolCallTable.reverse "Qwen3-Coder-30B" = some "qwen3_xml" := by
  have distinct : (toolCallTable.map (·.1)).Nodup := by decide
  have turned : toolCallTable.reverse.Perm toolCallTable := List.reverse_perm _
  have best : IsLongestFit toolCallTable "Qwen3-Coder-30B" ("qwen3-coder", "qwen3_xml") :=
    ⟨by decide, by decide +kernel, by decide +kernel⟩
  rcases select_longest_prefix toolCallTable "Qwen3-Coder-30B" with ⟨_, _, unrepeated, _, _⟩
  rcases unrepeated distinct with ⟨selected, anyOrder⟩
  refine ⟨distinct, turned, (anyOrder _ turned).trans ?_⟩
  exact (selected "qwen3_xml").mpr ⟨_, best, rfl⟩

end OutputParser

end ServingPreset
