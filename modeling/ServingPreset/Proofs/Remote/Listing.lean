import ServingPreset.Proofs.Json.Print
import ServingPreset.Proofs.Json.Range
import ServingPreset.Remote.Listing

/-!
# Rows of a listing

A listing is read row by row, and a row statement by statement (`listing_rows`). What a row states
for its three fields decides, and nothing else: the order of the members and whatever other
members hold do not matter. Absent and null fields are empty or zero. One field that holds
another kind of value spoils the listing, and the defect is that of the data.

The reader goes to the end of a numeral or string before it finds that the value does not suit.
It is a defect of the text if the numeral is too large for the format or the string has a
surrogate without its partner, so the values of the three fields have to be `Form.IsOrdinary`.
-/

namespace ServingPreset

namespace Json

/-- A numeral that is not too large, or a string that states a text, or any other value. -/
def Form.IsOrdinary : Form → Prop
  | numeral written => written.magnitude ≤ greatestRead
  | string pieces => (Piece.text? pieces).isSome
  | _ => True

theorem Form.IsOrdinary.defect {form : Form} (ordinary : form.IsOrdinary) :
    form.defect = .unsuited := by
  refine if_pos ?_
  cases form with
  | numeral written => exact written.isSome_number? ordinary
  | string pieces => exact ordinary
  | null | bool _ | array _ _ | object _ _ => trivial

section OrNull

variable {Result : Type} {default : Result} {read? : Form → Option Result} {shape : Shape Result}

/-- What a value states that may be null for a default. -/
def Form.orNull? (default : Result) (read? : Form → Option Result) : Form → Option Result
  | .null => some default
  | form => read? form

theorem Shape.orNull_expects (expects : shape.Expects read?) :
    (shape.orNull default).Expects (Form.orNull? default read?) := by
  intro form
  cases form with
  | null => rfl
  | bool _ | numeral _ | string _ | array _ _ | object _ _ => exact expects _

end OrNull

end Json

namespace FileRow

open Json (Form Statement FieldShape Shape Padded Margin Piece stated?)

/-! ### Fields -/

def pathField : FieldShape FileRow :=
  .storing "path" (Shape.text.orNull "") fun value row => { row with path := value }

def sizeField : FieldShape FileRow :=
  .storing "size" (Shape.unsigned.orNull 0) fun value row => { row with size := value }

def kindField : FieldShape FileRow :=
  .storing "type" (Shape.text.orNull "") fun value row => { row with kind := value }

/-- The fields of a row and what they make of written values. -/
def fieldShapes : List (FieldShape FileRow) :=
  [pathField, sizeField, kindField]

/-- The names of the fields of a row. -/
def fieldNames : List String :=
  ["path", "size", "type"]

theorem name_mem_fieldNames {field : FieldShape FileRow} (member : field ∈ fieldShapes) :
    field.name ∈ fieldNames :=
  List.mem_map_of_mem member

/-- Rows of a listing. -/
def shape : Shape FileRow :=
  .record fieldShapes {}

/-- The row that statements make, if each field has a value of its kind. -/
def ofStatements? (statements : List Statement) : Option FileRow := do
  return {
    path := ← stated? "path" "" (Form.orNull? "" Form.text?) statements
    size := ← stated? "size" 0 (Form.orNull? 0 Form.unsigned?) statements
    kind := ← stated? "type" "" (Form.orNull? "" Form.text?) statements }

/-- The row that an object makes. -/
def ofForm? (form : Form) : Option FileRow :=
  form.statements?.bind ofStatements?

/-- No field of a row is stated twice, and the values of the fields are ordinary. -/
structure States (statements : List Statement) : Prop where
  once : ∀ name ∈ fieldNames, (statements.map (·.1)).count name ≤ 1
  ordinary : ∀ name ∈ fieldNames, ∀ value, (name, value) ∈ statements → value.IsOrdinary

/-- An object whose names are texts and whose statements are those of a row. -/
def IsRow (form : Form) : Prop :=
  ∃ statements, form.statements? = some statements ∧ States statements

/-! ### Fields of a row -/

theorem text_expects : (Shape.text.orNull "").Expects (Form.orNull? "" Form.text?) :=
  Shape.orNull_expects fun _ => rfl

theorem unsigned_expects : (Shape.unsigned.orNull 0).Expects (Form.orNull? 0 Form.unsigned?) :=
  Shape.orNull_expects fun _ => rfl

section Rows

variable {statements : List Statement} {statement : Statement} {row : FileRow}
  {field : FieldShape FileRow}

theorem ofStatements?_eq_some_iff :
    ofStatements? statements = some row ↔
      stated? "path" "" (Form.orNull? "" Form.text?) statements = some row.path ∧
      stated? "size" 0 (Form.orNull? 0 Form.unsigned?) statements = some row.size ∧
      stated? "type" "" (Form.orNull? "" Form.text?) statements = some row.kind := by
  rcases row with ⟨path, size, kind⟩
  simp only [ofStatements?, Option.bind_eq_bind, Option.bind_eq_some_iff, Option.pure_def,
    Option.some.injEq, FileRow.mk.injEq]
  constructor
  · rintro ⟨_, statedPath, _, statedSize, _, statedKind, rfl, rfl, rfl⟩
    exact ⟨statedPath, statedSize, statedKind⟩
  · rintro ⟨statedPath, statedSize, statedKind⟩
    exact ⟨_, statedPath, _, statedSize, _, statedKind, rfl, rfl, rfl⟩

theorem decides_path :
    Json.Decides fieldShapes "path" path fun form => (form.orNull? "" Form.text?).getD "" where
  isField := ⟨pathField, by simp [fieldShapes], rfl⟩
  stores := by
    simp only [fieldShapes, List.forall_mem_cons]
    exact ⟨Json.stores_storing text_expects fun _ _ => rfl,
      Json.stores_other (by decide) fun _ _ => rfl,
      Json.stores_other (by decide) fun _ _ => rfl, by simp⟩

theorem decides_size :
    Json.Decides fieldShapes "size" size fun form => (form.orNull? 0 Form.unsigned?).getD 0 where
  isField := ⟨sizeField, by simp [fieldShapes], rfl⟩
  stores := by
    simp only [fieldShapes, List.forall_mem_cons]
    exact ⟨Json.stores_other (by decide) fun _ _ => rfl,
      Json.stores_storing unsigned_expects fun _ _ => rfl,
      Json.stores_other (by decide) fun _ _ => rfl, by simp⟩

theorem decides_kind :
    Json.Decides fieldShapes "type" kind fun form => (form.orNull? "" Form.text?).getD "" where
  isField := ⟨kindField, by simp [fieldShapes], rfl⟩
  stores := by
    simp only [fieldShapes, List.forall_mem_cons]
    exact ⟨Json.stores_other (by decide) fun _ _ => rfl,
      Json.stores_other (by decide) fun _ _ => rfl,
      Json.stores_storing text_expects fun _ _ => rfl, by simp⟩

theorem shape_decode_eq {form : Form} (stated : form.statements? = some statements) :
    shape.decode form =
      (statements.foldlM (Json.decodeStatement fieldShapes) ([], {})).map (·.2) :=
  Json.decodeRecord_of_statements fieldShapes stated {}

/-- A row whose fields have values of their kinds is read as what they state. -/
theorem shape_decode_of_some {form : Form} (states : States statements)
    (stated : form.statements? = some statements) (made : ofStatements? statements = some row) :
    shape.decode form = .ok row := by
  rcases ofStatements?_eq_some_iff.mp made with ⟨statedPath, statedSize, statedKind⟩
  have suits : ∀ field ∈ fieldShapes, field.Suits statements := by
    simp only [fieldShapes, List.forall_mem_cons]
    exact ⟨FieldShape.suits_storing text_expects (states.once _ (by decide)) statedPath,
      FieldShape.suits_storing unsigned_expects (states.once _ (by decide)) statedSize,
      FieldShape.suits_storing text_expects (states.once _ (by decide)) statedKind, by simp⟩
  have once : ∀ field ∈ fieldShapes, (statements.map (·.1)).count field.name ≤ 1 :=
    fun field member => states.once _ (name_mem_fieldNames member)
  rcases Json.exists_decodeRecord {} stated once suits with ⟨read, decoded, parts⟩
  have path : read.path = row.path := parts decides_path statedPath
  have size : read.size = row.size := parts decides_size statedSize
  have kind : read.kind = row.kind := parts decides_kind statedKind
  have same : read = row := by
    rcases row with ⟨_, _, _⟩
    rcases read with ⟨_, _, _⟩
    cases path
    cases size
    cases kind
    rfl
  rw [← same]
  exact decoded

/-- A row with a value of another kind in one of its fields is no row. -/
theorem shape_decode_of_none {form : Form} (states : States statements)
    (stated : form.statements? = some statements) (unsuited : ofStatements? statements = none) :
    shape.decode form = .error .unsuited := by
  have ordinary {name : String} (isField : name ∈ fieldNames) {value : Form}
      (present : (name, value) ∈ statements) : value.defect = .unsuited :=
    (states.ordinary name isField value present).defect
  have each : ∀ field ∈ fieldShapes, ∀ value, (field.name, value) ∈ statements →
      (∃ change, field.change.decode value = .ok change) ∨
        field.change.decode value = .error .unsuited := by
    simp only [fieldShapes, List.forall_mem_cons]
    refine ⟨fun value present => ?path, fun value present => ?size, fun value present => ?kind,
      by simp⟩
    case path => exact FieldShape.storing_decode_cases text_expects (ordinary (by decide) present)
    case size =>
      exact FieldShape.storing_decode_cases unsigned_expects (ordinary (by decide) present)
    case kind => exact FieldShape.storing_decode_cases text_expects (ordinary (by decide) present)
  have spoilt : ∃ statement ∈ statements, ∃ field,
      Json.fieldOf? fieldShapes statement = some field ∧
        field.change.decode statement.2 = .error .unsuited := by
    rcases statedPath : stated? "path" "" (Form.orNull? "" Form.text?) statements with _ | path
    · rcases Json.exists_of_stated?_eq_none statedPath with ⟨value, present, other⟩
      exact ⟨_, present, pathField, rfl,
        FieldShape.storing_decode_none text_expects (ordinary (by decide) present) other⟩
    rcases statedSize : stated? "size" 0 (Form.orNull? 0 Form.unsigned?) statements with _ | size
    · rcases Json.exists_of_stated?_eq_none statedSize with ⟨value, present, other⟩
      exact ⟨_, present, sizeField, rfl,
        FieldShape.storing_decode_none unsigned_expects (ordinary (by decide) present) other⟩
    rcases statedKind : stated? "type" "" (Form.orNull? "" Form.text?) statements with _ | kind
    · rcases Json.exists_of_stated?_eq_none statedKind with ⟨value, present, other⟩
      exact ⟨_, present, kindField, rfl,
        FieldShape.storing_decode_none text_expects (ordinary (by decide) present) other⟩
    have made : ofStatements? statements = some ⟨path, size, kind⟩ :=
      ofStatements?_eq_some_iff.mpr ⟨statedPath, statedSize, statedKind⟩
    rw [unsuited] at made
    contradiction
  rw [shape_decode_eq stated, Json.foldlM_decodeStatement_unsuited each spoilt]
  rfl

end Rows

/-! ### Listings -/

theorem shape_decode_row {form : Form} (isRow : IsRow form) :
    shape.decode form = (ofForm? form).elim (.error .unsuited) .ok := by
  rcases isRow with ⟨statements, stated, states⟩
  have made : ofForm? form = ofStatements? statements := by rw [ofForm?, stated, Option.bind_some]
  rw [made]
  cases row : ofStatements? statements with
  | none => exact shape_decode_of_none states stated row
  | some row => exact shape_decode_of_some states stated row

theorem listing_documentBytes (document : Padded Form) :
    listing (Json.documentBytes document) = Json.decodeList shape document.content :=
  Json.document_read (Shape.listOf shape) document

theorem mapM_shape_decode {rows : List (Padded Form)} (each : ∀ row ∈ rows, IsRow row.content) :
    (rows.mapM fun row => shape.decode row.content) =
      (rows.mapM fun row => ofForm? row.content).elim (.error .unsuited) .ok := by
  induction rows with
  | nil => rfl
  | cons row later ih =>
      rw [List.forall_mem_cons] at each
      rw [List.mapM_cons, List.mapM_cons, shape_decode_row each.1, ih each.2]
      cases ofForm? row.content with
      | none => rfl
      | some entry => cases later.mapM fun row => ofForm? row.content <;> rfl

/-! ### Members that do not matter -/

section Same

variable {left right : List Statement} {name : String}

/-- Whether a statement is about a field of a row. -/
def isFieldStatement (statement : Statement) : Bool :=
  fieldNames.contains statement.1

/-- Two objects state the same for the fields of a row, each in an order of its own. -/
def SameFields (one other : Form) : Prop :=
  ∃ left right, one.statements? = some left ∧ other.statements? = some right ∧
    (left.filter isFieldStatement).Perm (right.filter isFieldStatement)

theorem mem_of_perm (same : (left.filter isFieldStatement).Perm (right.filter isFieldStatement))
    (isField : name ∈ fieldNames) {value : Form} (present : (name, value) ∈ left) :
    (name, value) ∈ right := by
  have stated : isFieldStatement (name, value) = true := List.contains_iff_mem.mpr isField
  exact (List.mem_filter.mp (same.mem_iff.mp (List.mem_filter.mpr ⟨present, stated⟩))).1

theorem count_filter (isField : name ∈ fieldNames) (statements : List Statement) :
    ((statements.filter isFieldStatement).map (·.1)).count name =
      (statements.map (·.1)).count name := by
  induction statements with
  | nil => rfl
  | cons statement later ih =>
      by_cases stated : isFieldStatement statement
      · rw [List.filter_cons_of_pos stated, List.map_cons, List.map_cons, List.count_cons,
          List.count_cons, ih]
      · have apart : statement.1 ≠ name := by
          rintro rfl
          exact stated (List.contains_iff_mem.mpr isField)
        rw [List.filter_cons_of_neg stated, List.map_cons, List.count_cons_of_ne apart, ih]

theorem States.of_perm (states : States left)
    (same : (left.filter isFieldStatement).Perm (right.filter isFieldStatement)) :
    States right where
  once name isField := by
    rw [← count_filter isField, ← (same.map _).count_eq, count_filter isField]
    exact states.once name isField
  ordinary name isField value present :=
    states.ordinary name isField value (mem_of_perm same.symm isField present)

theorem stated?_congr {Result : Type} {default : Result} {read? : Form → Option Result}
    (states : States left)
    (same : (left.filter isFieldStatement).Perm (right.filter isFieldStatement))
    (isField : name ∈ fieldNames) :
    stated? name default read? right = stated? name default read? left := by
  cases found : left.lookup name with
  | some value =>
      have present := Json.mem_of_lookup_eq_some found
      have moved := mem_of_perm same isField present
      rw [Json.stated?_of_mem (states.once name isField) present,
        Json.stated?_of_mem ((states.of_perm same).once name isField) moved]
  | none =>
      have absent : right.lookup name = none := by
        refine Option.eq_none_iff_forall_ne_some.mpr fun value stated => ?_
        have present := mem_of_perm same.symm isField (Json.mem_of_lookup_eq_some stated)
        rw [Json.lookup_eq_some_of_mem (states.once name isField) present] at found
        contradiction
      rw [stated?, stated?, found, absent]

theorem SameFields.ofForm?_eq {one other : Form} (same : SameFields one other)
    (isRow : IsRow one) : IsRow other ∧ ofForm? other = ofForm? one := by
  rcases same with ⟨left, right, statedLeft, statedRight, same⟩
  rcases isRow with ⟨statements, stated, states⟩
  rw [statedLeft, Option.some.injEq] at stated
  subst stated
  refine ⟨⟨right, statedRight, states.of_perm same⟩, ?_⟩
  rw [ofForm?, ofForm?, statedLeft, statedRight, Option.bind_some, Option.bind_some,
    ofStatements?, ofStatements?, stated?_congr states same (by decide),
    stated?_congr states same (by decide), stated?_congr states same (by decide)]

theorem mapM_ofForm?_congr {rows others : List (Padded Form)}
    (same : List.Forall₂ (fun row other => SameFields row.content other.content) rows others)
    (each : ∀ row ∈ rows, IsRow row.content) :
    (∀ other ∈ others, IsRow other.content) ∧
      (others.mapM fun row => ofForm? row.content) = rows.mapM fun row => ofForm? row.content := by
  induction same with
  | nil => exact ⟨each, rfl⟩
  | cons first later ih =>
      rw [List.forall_mem_cons] at each
      rcases first.ofForm?_eq each.1 with ⟨isRow, made⟩
      rcases ih each.2 with ⟨areRows, laterMade⟩
      exact ⟨List.forall_mem_cons.mpr ⟨isRow, areRows⟩, by
        rw [List.mapM_cons, List.mapM_cons, made, laterMade]⟩

end Same

/--
A listing is read row by row. An absent or null field is empty or zero and any other is taken
as it is stated; one field with a value of another kind spoils the listing. The order of the
members of a row and the members that are no fields do not matter.
-/
theorem listing_rows (before margin after : Margin) {rows : List (Padded Form)}
    (each : ∀ row ∈ rows, IsRow row.content) :
    listing (Json.documentBytes ⟨before, .array margin rows, after⟩) =
        (rows.mapM fun row => ofForm? row.content).elim (.error .unsuited) .ok ∧
      ∀ others : List (Padded Form),
        List.Forall₂ (fun row other => SameFields row.content other.content) rows others →
        listing (Json.documentBytes ⟨before, .array margin others, after⟩) =
          listing (Json.documentBytes ⟨before, .array margin rows, after⟩) := by
  have read (rows : List (Padded Form)) (each : ∀ row ∈ rows, IsRow row.content) :
      listing (Json.documentBytes ⟨before, .array margin rows, after⟩) =
        (rows.mapM fun row => ofForm? row.content).elim (.error .unsuited) .ok := by
    rw [listing_documentBytes]
    exact mapM_shape_decode each
  refine ⟨read rows each, fun others same => ?_⟩
  rcases mapM_ofForm?_congr same each with ⟨areRows, made⟩
  rw [read rows each, read others areRows, made]

/-- A row without a type and with a member that is no field, and a row of a size alone. -/
def oddRows : List (Padded Form) :=
  Json.ofElements [.object [("type", .null), ("lfs", .array [.bool true]),
    ("path", .string "a.gguf")], .object [("size", .ofUnsigned 7)]]

theorem isRow_oddRows : ∀ row ∈ oddRows, IsRow row.content := by
  have first : States (Json.printedStatements [("type", .null), ("lfs", .array [.bool true]),
      ("path", .string "a.gguf")]) := by
    refine ⟨by decide, fun name isField value present => ?_⟩
    simp only [Json.printedStatements, List.map_cons, List.map_nil, List.mem_cons, Prod.mk.injEq,
      List.not_mem_nil, or_false] at present
    rcases present with ⟨_, rfl⟩ | ⟨_, rfl⟩ | ⟨_, rfl⟩
    · trivial
    · trivial
    · rw [Form.ofValue, Form.IsOrdinary, Piece.text?_ofText]
      rfl
  have second : States (Json.printedStatements [("size", .ofUnsigned 7)]) := by
    refine ⟨by decide, fun name isField value present => ?_⟩
    simp only [Json.printedStatements, List.map_cons, List.map_nil, List.mem_cons, Prod.mk.injEq,
      List.not_mem_nil, or_false] at present
    rcases present with ⟨_, rfl⟩
    exact (by decide +kernel : (Json.Numeral.ofNumber (.integer 7)).magnitude ≤ Json.greatestRead)
  simp only [oddRows, Json.ofElements, List.forall_mem_cons]
  exact ⟨⟨_, Json.statements?_ofValue _, first⟩, ⟨_, Json.statements?_ofValue _, second⟩, by simp⟩

theorem listing_rows_odd :
    (∀ row ∈ oddRows, IsRow row.content) ∧
      listing (Json.documentBytes ⟨[], .array [] oddRows, []⟩) =
        .ok [⟨"a.gguf", 0, ""⟩, ⟨"", 7, ""⟩] :=
  ⟨isRow_oddRows, (listing_rows [] [] [] isRow_oddRows).1.trans (by decide +kernel)⟩

/--
Not every number and not every string of a document is read: a size just below the greatest double
is lost, and so is a path that is a larger number. A string that states no text is no string.
-/
theorem listing_unread_values :
    listing (Text.bytes "[\x7b\"size\":1.797693134862315708e308\x7d]") = .error .malformed ∧
      1797693134862315708 * 10 ^ 290 ≤ (2 ^ 53 - 1) * 2 ^ 971 ∧
      listing (Text.bytes "[\x7b\"path\":1e999\x7d]") = .error .malformed ∧
      listing (Text.bytes "[\x7b\"path\":\"\\ud800\"\x7d]") = .error .malformed ∧
      listing (Text.bytes "[\x7b\"\\ud800\":1\x7d]") = .error .malformed := by
  decide +kernel

end FileRow

end ServingPreset
