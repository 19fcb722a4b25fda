import ServingPreset.NameMap

/-!
# Lookups in maps

What writes do to the lookups and the entries of a map, and that the lookups determine
the map. Since the entries of a map are kept in strictly increasing name order, two maps
that answer every lookup alike are the same value, whatever the order of the writes was.
-/

namespace ServingPreset

universe u

namespace NameMap

variable {Entry : Type u}

theorem find?_place (name other : String) (entry : Entry) (listing : List (String × Entry)) :
    (place name entry listing).find? (fun member => member.1 == other) =
      if other = name then some (name, entry)
      else listing.find? (fun member => member.1 == other) := by
  induction listing with
  | nil =>
      by_cases same : other = name
      · simp [place, same]
      · simp [place, same, Ne.symm same]
  | cons head tail ih =>
      unfold place
      split
      · by_cases same : other = name
        · simp [same]
        · simp [same, Ne.symm same]
      · split
        · rename_i taken
          by_cases same : other = name
          · simp [same]
          · simp [same, Ne.symm same, ← taken]
        · rename_i notTaken
          by_cases here : head.1 = other
          · subst here
            simp [Ne.symm notTaken]
          · simp only [List.find?_cons, beq_eq_false_iff_ne.mpr here]
            exact ih

@[simp]
theorem get?_empty (name : String) : (empty : NameMap Entry).get? name = none := rfl

/-- A lookup after a write finds what was written under its name, and all else as before. -/
theorem get?_insert (map : NameMap Entry) (name other : String) (entry : Entry) :
    (map.insert name entry).get? other = if other = name then some entry else map.get? other := by
  simp only [get?, insert, find?_place]
  split <;> rfl

@[simp]
theorem get?_insert_self (map : NameMap Entry) (name : String) (entry : Entry) :
    (map.insert name entry).get? name = some entry := by
  simp [get?_insert]

theorem get?_insert_of_ne (map : NameMap Entry) {name other : String} (entry : Entry)
    (apart : other ≠ name) : (map.insert name entry).get? other = map.get? other := by
  simp [get?_insert, apart]

theorem nodup_entries (map : NameMap Entry) : map.entries.Nodup := by
  refine map.sorted.imp ?_
  rintro left right below rfl
  exact String.lt_irrefl _ below

/-- The entries of a map are exactly what its lookups give. -/
theorem mem_entries_iff {map : NameMap Entry} {name : String} {entry : Entry} :
    (name, entry) ∈ map.entries ↔ map.get? name = some entry := by
  rcases map with ⟨listing, sorted⟩
  simp only [get?]
  induction listing with
  | nil => simp
  | cons head tail ih =>
      rcases List.pairwise_cons.mp sorted with ⟨above, rest⟩
      rw [List.mem_cons, ih rest]
      by_cases here : head.1 = name
      · subst here
        have absent : tail.find? (fun member => member.1 == head.1) = none := by
          apply List.find?_eq_none.mpr
          intro member member_mem taken
          have below := above member member_mem
          rw [beq_iff_eq.mp taken] at below
          exact String.lt_irrefl _ below
        simp [absent, Prod.ext_iff, eq_comm]
      · have other : (name, entry) ≠ head := fun same => here (same ▸ rfl)
        simp [here, other]

theorem mem_names_iff {map : NameMap Entry} {name : String} :
    name ∈ map.names ↔ ∃ entry, map.get? name = some entry := by
  simp only [names, List.mem_map]
  constructor
  · rintro ⟨⟨_, entry⟩, present, rfl⟩
    exact ⟨entry, mem_entries_iff.mp present⟩
  · rintro ⟨entry, found⟩
    exact ⟨(name, entry), mem_entries_iff.mpr found, rfl⟩

/-- Maps with equal lookups are equal. -/
theorem ext_get? {left right : NameMap Entry}
    (agree : ∀ name, left.get? name = right.get? name) : left = right := by
  have same : left.entries = right.entries := by
    refine List.Perm.eq_of_pairwise ?_ left.sorted right.sorted ?_
    · intro first second _ _ below above
      exact absurd (String.lt_trans below above) (String.lt_irrefl _)
    · apply (List.perm_ext_iff_of_nodup left.nodup_entries right.nodup_entries).mpr
      rintro ⟨name, entry⟩
      rw [mem_entries_iff, mem_entries_iff, agree]
  cases left
  cases right
  cases same
  rfl

/-! ### Writing several entries -/

variable {map overlay : NameMap Entry} {additions : List (String × Entry)} {name : String}
  {entry : Entry}

theorem insertAll_cons (map : NameMap Entry) (addition : String × Entry)
    (later : List (String × Entry)) :
    map.insertAll (addition :: later) = (map.insert addition.1 addition.2).insertAll later := rfl

theorem insertAll_append (map : NameMap Entry) (earlier later : List (String × Entry)) :
    map.insertAll (earlier ++ later) = (map.insertAll earlier).insertAll later :=
  List.foldl_append

theorem get?_insertAll_of_notMem (other : name ∉ additions.map Prod.fst) :
    (map.insertAll additions).get? name = map.get? name := by
  induction additions generalizing map with
  | nil => rfl
  | cons addition later ih =>
      rw [List.map_cons, List.mem_cons, not_or] at other
      rcases other with ⟨apart, behind⟩
      rw [insertAll_cons, ih behind, get?_insert_of_ne _ _ apart]

theorem get?_insertAll_of_mem (distinct : (additions.map Prod.fst).Nodup)
    (member : (name, entry) ∈ additions) :
    (map.insertAll additions).get? name = some entry := by
  induction additions generalizing map with
  | nil => contradiction
  | cons addition later ih =>
      rw [List.map_cons, List.nodup_cons] at distinct
      rcases distinct with ⟨fresh, rest⟩
      rcases List.mem_cons.mp member with rfl | behind
      · rw [insertAll_cons, get?_insertAll_of_notMem fresh, get?_insert_self]
      · exact ih rest behind

/-- Entries of different names are all found. -/
theorem get?_ofList_of_nodup (distinct : (additions.map Prod.fst).Nodup) (name : String) :
    (ofList additions).get? name = additions.lookup name := by
  cases listed : additions.lookup name with
  | none =>
      refine (get?_insertAll_of_notMem fun present => ?_).trans (get?_empty name)
      rcases List.mem_map.mp present with ⟨addition, member, rfl⟩
      simpa using List.lookup_eq_none_iff.mp listed addition member
  | some entry =>
      rcases List.lookup_eq_some_iff.mp listed with ⟨earlier, later, rfl, _⟩
      exact get?_insertAll_of_mem distinct (List.mem_append_right _ List.mem_cons_self)

/-- Writes remove no name. -/
theorem get?_eq_none_of_insertAll (missing : (map.insertAll additions).get? name = none) :
    map.get? name = none := by
  induction additions generalizing map with
  | nil => exact missing
  | cons addition later ih =>
      have unwritten := ih missing
      rw [get?_insert] at unwritten
      split at unwritten
      · contradiction
      · exact unwritten

theorem nodup_names (map : NameMap Entry) : map.names.Nodup := by
  refine (List.pairwise_map.mpr map.sorted).imp ?_
  rintro left right below rfl
  exact String.lt_irrefl _ below

theorem get?_override (map overlay : NameMap Entry) (name : String) :
    (map.override overlay).get? name = (overlay.get? name).or (map.get? name) := by
  cases found : overlay.get? name with
  | some entry => exact get?_insertAll_of_mem overlay.nodup_names (mem_entries_iff.mpr found)
  | none =>
      refine get?_insertAll_of_notMem fun present => ?_
      rcases mem_names_iff.mp present with ⟨entry, stored⟩
      rw [found] at stored
      contradiction

/-- A map is absorbed by an overlay that has all of its names. -/
theorem override_eq_overlay
    (covered : ∀ name, overlay.get? name = none → map.get? name = none) :
    map.override overlay = overlay := by
  refine ext_get? fun name => ?_
  rw [get?_override]
  cases found : overlay.get? name with
  | some entry => rfl
  | none => exact covered name found

theorem ofList_entries (map : NameMap Entry) : ofList map.entries = map :=
  override_eq_overlay fun _ _ => rfl

theorem perm_place {listing : List (String × Entry)} (fresh : name ∉ listing.map Prod.fst) :
    (place name entry listing).Perm ((name, entry) :: listing) := by
  induction listing with
  | nil => rfl
  | cons head tail ih =>
      rw [List.map_cons, List.mem_cons, not_or] at fresh
      rcases fresh with ⟨apart, behind⟩
      rw [place, if_neg apart]
      split
      · rfl
      · exact ((ih behind).cons head).trans (List.Perm.swap _ _ _)

/-- Writes bring no entries besides those that are written. -/
theorem mem_entries_insertAll {member : String × Entry}
    (found : member ∈ (map.insertAll additions).entries) :
    member ∈ additions ∨ member ∈ map.entries := by
  induction additions generalizing map with
  | nil => exact .inr found
  | cons addition later ih =>
      rcases ih found with written | older
      · exact .inl (List.mem_cons_of_mem _ written)
      · rcases mem_place older with rfl | before
        · exact .inl List.mem_cons_self
        · exact .inr before

theorem forall_mem_ofList {Holds : String × Entry → Prop}
    (all : ∀ addition ∈ additions, Holds addition) :
    ∀ member ∈ (ofList additions).entries, Holds member :=
  fun member found => all member ((mem_entries_insertAll found).resolve_right List.not_mem_nil)

/-- Under new and different names, all entries of a map and all additions stand side by side. -/
theorem entries_insertAll_perm (distinct : (additions.map Prod.fst).Nodup)
    (fresh : ∀ name ∈ additions.map Prod.fst, map.get? name = none) :
    (map.insertAll additions).entries.Perm (map.entries ++ additions) := by
  induction additions generalizing map with
  | nil => simp [insertAll]
  | cons addition later ih =>
      rw [List.map_cons, List.nodup_cons] at distinct
      rw [List.map_cons, List.forall_mem_cons] at fresh
      have written : (map.insert addition.1 addition.2).entries.Perm (addition :: map.entries) := by
        refine perm_place fun present => ?_
        rcases mem_names_iff.mp present with ⟨entry, stored⟩
        rw [fresh.1] at stored
        contradiction
      have stillFresh : ∀ name ∈ later.map Prod.fst,
          (map.insert addition.1 addition.2).get? name = none := by
        intro name member
        have apart : name ≠ addition.1 := fun same => distinct.1 (same ▸ member)
        rw [get?_insert_of_ne _ _ apart]
        exact fresh.2 name member
      calc
        (map.insertAll (addition :: later)).entries.Perm
            ((map.insert addition.1 addition.2).entries ++ later) := ih distinct.2 stillFresh
        List.Perm _ (addition :: map.entries ++ later) := written.append_right later
        List.Perm _ (map.entries ++ addition :: later) := List.perm_middle.symm

end NameMap

end ServingPreset
