/-!
# Finite maps from names to values

A `NameMap` lists its entries by strictly increasing name, so two maps with the
same entries are the same value and a listing needs no further sorting. Names
compare by code point, which is the order of their UTF-8 bytes. Writing a name
that is already present replaces its value: the last writer wins.
-/

namespace ServingPreset

universe u v

/-- A finite map from names to values, kept in strictly increasing name order. -/
structure NameMap (Entry : Type u) where
  entries : List (String × Entry)
  /-- Names strictly increase along the listing. -/
  sorted : entries.Pairwise (fun left right => left.1 < right.1)

namespace NameMap

variable {Entry : Type u}

/-- Place an entry into a listing, replacing the one of the same name. -/
def place (name : String) (entry : Entry) : List (String × Entry) → List (String × Entry)
  | [] => [(name, entry)]
  | head :: tail =>
      if name < head.1 then (name, entry) :: head :: tail
      else if name = head.1 then (name, entry) :: tail
      else head :: place name entry tail

theorem mem_place {name : String} {entry : Entry} {member : String × Entry}
    {listing : List (String × Entry)} (found : member ∈ place name entry listing) :
    member = (name, entry) ∨ member ∈ listing := by
  induction listing with
  | nil => simpa [place] using found
  | cons head tail ih =>
      unfold place at found
      split at found
      · simpa using found
      · split at found
        · rcases List.mem_cons.mp found with equal | older
          · exact Or.inl equal
          · exact Or.inr (List.mem_cons_of_mem _ older)
        · rcases List.mem_cons.mp found with equal | older
          · exact Or.inr (equal ▸ List.mem_cons_self)
          · exact (ih older).imp id (List.mem_cons_of_mem _)

theorem pairwise_place (name : String) (entry : Entry) {listing : List (String × Entry)}
    (sorted : listing.Pairwise (fun left right => left.1 < right.1)) :
    (place name entry listing).Pairwise (fun left right => left.1 < right.1) := by
  induction listing with
  | nil => simp [place]
  | cons head tail ih =>
      obtain ⟨above, rest⟩ := List.pairwise_cons.mp sorted
      unfold place
      split
      · rename_i below
        refine List.pairwise_cons.mpr ⟨fun member member_mem => ?_, sorted⟩
        rcases List.mem_cons.mp member_mem with equal | older
        · exact equal ▸ below
        · exact String.lt_trans below (above member older)
      · split
        · rename_i same
          exact List.pairwise_cons.mpr ⟨fun member older => same ▸ above member older, rest⟩
        · rename_i notBelow notSame
          refine List.pairwise_cons.mpr ⟨fun member member_mem => ?_, ih rest⟩
          rcases mem_place member_mem with equal | older
          · subst equal
            rcases String.le_total name head.1 with low | high
            · exact absurd (String.le_antisymm low (String.not_lt.mp notBelow)) notSame
            · exact String.not_le.mp fun low => notSame (String.le_antisymm low high)
          · exact above member older

/-- The map without entries. -/
def empty : NameMap Entry := ⟨[], List.Pairwise.nil⟩

instance : Inhabited (NameMap Entry) := ⟨empty⟩

instance : EmptyCollection (NameMap Entry) := ⟨empty⟩

instance [DecidableEq Entry] : DecidableEq (NameMap Entry) := fun left right =>
  if same : left.entries = right.entries then
    isTrue (by cases left; cases right; cases same; rfl)
  else
    isFalse fun equal => same (congrArg entries equal)

/-- Write one entry; an entry of the same name is replaced. -/
def insert (map : NameMap Entry) (name : String) (entry : Entry) : NameMap Entry :=
  ⟨place name entry map.entries, pairwise_place name entry map.sorted⟩

/-- The value stored under a name. -/
def get? (map : NameMap Entry) (name : String) : Option Entry :=
  (map.entries.find? (fun member => member.1 == name)).map (·.2)

/-- Whether a name has a value. -/
def contains (map : NameMap Entry) (name : String) : Bool :=
  (map.get? name).isSome

/-- The names in use, in increasing order. -/
def names (map : NameMap Entry) : List String :=
  map.entries.map (·.1)

/-- The number of names in use. -/
def size (map : NameMap Entry) : Nat :=
  map.entries.length

/-- Write entries one after the other, so of two with one name the later counts. -/
def insertAll (map : NameMap Entry) (additions : List (String × Entry)) : NameMap Entry :=
  additions.foldl (fun grown addition => grown.insert addition.1 addition.2) map

/-- The map of a list of entries, later entries replacing earlier ones. -/
def ofList (additions : List (String × Entry)) : NameMap Entry :=
  empty.insertAll additions

/-- Lay the entries of `overlay` over a map. -/
def override (map overlay : NameMap Entry) : NameMap Entry :=
  map.insertAll overlay.entries

end NameMap

end ServingPreset
