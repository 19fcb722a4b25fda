import Mathlib.Logic.Basic
import ServingPreset.Json.Fields
import ServingPreset.Proofs.NameMap

/-!
# Records in values

What decoding a record sees of an object from which members were removed: a removed field is
absent, and every other one is as it was (`FieldSource.fields?_without`). So a field that has to be
stated fails exactly if it was removed, and a field with a default takes the default then.
-/

namespace ServingPreset

namespace Json

namespace Value

/-- An object without the members of the given names. -/
def without (removed : List String) : Value → Value
  | object members => object (members.filter fun member => !removed.contains member.1)
  | value => value

theorem find?_filter (members : List (String × Value)) (removed : List String) (name : String) :
    (members.filter fun member => !removed.contains member.1).find?
        (fun member => member.1 == name) =
      if name ∈ removed then none else members.find? fun member => member.1 == name := by
  induction members with
  | nil => simp
  | cons member later ih =>
      by_cases here : member.1 = name
      · by_cases gone : name ∈ removed
        · rw [List.filter_cons_of_neg (by simp [here, gone]), ih, if_pos gone, if_pos gone]
        · rw [List.filter_cons_of_pos (by simp [here, gone]), if_neg gone]
          simp [here]
      · by_cases gone : member.1 ∈ removed
        · rw [List.filter_cons_of_neg (by simp [gone]), ih]
          simp [here]
        · have apart : (member.1 == name) = false := beq_eq_false_iff_ne.mpr here
          rw [List.filter_cons_of_pos (by simp [gone]), List.find?_cons, List.find?_cons, apart]
          exact ih

theorem get?_filter (members : List (String × Value)) (removed : List String) (name : String) :
    (object (members.filter fun member => !removed.contains member.1)).get? name =
      if name ∈ removed then none else (object members).get? name := by
  rw [get?, get?, find?_filter]
  split <;> rfl

theorem mapM_map_eq_some {Entry Written : Type} (decode : Written → Option Entry)
    (encode : Entry → Written) (decoded : ∀ entry, decode (encode entry) = some entry)
    (entries : List Entry) : (entries.map encode).mapM decode = some entries := by
  induction entries with
  | nil => rfl
  | cons entry later ih => rw [List.map_cons, List.mapM_cons, decoded, ih]; rfl

theorem strings?_ofStrings (texts : List String) : (ofStrings texts).strings? = some texts :=
  mapM_map_eq_some string? string (fun _ => rfl) texts

theorem unsigned?_ofUnsigned (word : UInt64) : (ofUnsigned word).unsigned? = some word := by
  simp [ofUnsigned, unsigned?]

theorem stringMap?_ofStringMap (map : NameMap String) :
    (ofStringMap map).stringMap? = some map := by
  have read := mapM_map_eq_some
    (fun member : String × Value => member.2.string?.bind fun text => some (member.1, text))
    (fun entry : String × String => (entry.1, string entry.2)) (fun _ => rfl) map.entries
  have made : (ofStringMap map).stringMap? = Option.bind (some map.entries)
      fun entries => some (NameMap.ofList entries) := congrArg (Option.bind · _) read
  rw [made, Option.bind_some, NameMap.ofList_entries]

end Value

namespace FieldSource

/-- What is left of an object to state fields when the members of the given names are removed. -/
def left (value : Value) (removed : List String) : FieldSource :=
  fun name => if name ∈ removed then none else value.get? name

theorem fields?_without (names : List String) (members : List (String × Value))
    (removed : List String) :
    ((Value.object members).without removed).fields? names =
      some (left (.object members) removed) := by
  simp only [Value.without, Value.fields?, Value.get?_filter]
  rfl

theorem required_left (value : Value) (removed : List String) (name : String) {Result : Type}
    (decode : Value → Option Result) {stated : Value} {result : Result}
    (isStated : value.get? name = some stated) (decoded : decode stated = some result) :
    (left value removed).required name decode =
      if name ∈ removed then none else some result := by
  by_cases gone : name ∈ removed
  · simp [required, left, gone]
  · simp [required, left, gone, isStated, decoded]

theorem defaulted_left (value : Value) (removed : List String) (name : String) {Result : Type}
    (default : Result) (decode : Value → Option Result) {stated : Value} {result : Result}
    (isStated : value.get? name = some stated) (decoded : decode stated = some result) :
    (left value removed).defaulted name default decode =
      some (if name ∈ removed then default else result) := by
  by_cases gone : name ∈ removed
  · simp [defaulted, left, gone]
  · simp [defaulted, left, gone, isStated, decoded]

end FieldSource

end Json

end ServingPreset
