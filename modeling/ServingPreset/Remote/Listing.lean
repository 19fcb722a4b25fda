import ServingPreset.Json.Shape

/-!
# Repository listings

The files of a repository as the hub lists them. A field that is absent or null
counts as empty or zero, so that one odd row does not spoil a listing.
-/

namespace ServingPreset

/-- A row of a repository listing. -/
structure FileRow where
  path : String := ""
  size : UInt64 := 0
  /-- What the row stands for, such as a file or a directory. -/
  kind : String := ""
deriving DecidableEq, Repr, Inhabited

namespace FileRow

/-- The fields of a row, in declaration order. -/
def fields : List (Json.Field FileRow) :=
  [.storing "path" (Json.orNull "" Json.text) fun value row => { row with path := value },
    .storing "size" (Json.orNull 0 Json.unsigned) fun value row => { row with size := value },
    .storing "type" (Json.orNull "" Json.text) fun value row => { row with kind := value }]

/-- Read a listing. -/
def listing (bytes : Json.Bytes) : Except Json.Defect (List FileRow) :=
  Json.document (Json.listOf (Json.record fields {})) bytes

end FileRow

end ServingPreset
