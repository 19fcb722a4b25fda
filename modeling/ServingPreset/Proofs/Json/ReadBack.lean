import ServingPreset.Proofs.Json.Print

/-!
# Values that are read back

The text of a value is read as that value (`ofBytes_render`) if the value survives: it nests no
deeper than the reader goes, no object states a name twice, and its numbers are read as they are,
as all words are. The fuel of the reader is paid by the text. Each byte pays for two steps, one for
the value that it begins and one for the entry that the value is.
-/

namespace ServingPreset

namespace Json

variable {depth fuel : Nat} {rest : Bytes} {value : Value}

/-- A value that is not changed by printing and reading it, and nests at most `depth` levels. -/
inductive Value.Survives : Nat → Value → Prop where
  | null {depth : Nat} : Survives depth .null
  | bool {depth : Nat} (holds : Bool) : Survives depth (.bool holds)
  | number {depth : Nat} {number : Number}
      (same : (Numeral.ofNumber number).number? = some number) :
      Survives depth (.number number)
  | string {depth : Nat} (text : String) : Survives depth (.string text)
  | array {depth : Nat} {elements : List Value}
      (each : ∀ element ∈ elements, Survives depth element) :
      Survives (depth + 1) (.array elements)
  | object {depth : Nat} {members : List (String × Value)}
      (distinct : (members.map (·.1)).Nodup)
      (each : ∀ member ∈ members, Survives depth member.2) :
      Survives (depth + 1) (.object members)

theorem survives_ofUnsigned (word : UInt64) : (Value.ofUnsigned word).Survives depth := by
  have digits : (Digits.ofNat word.toNat).value = word.toNat := Digits.value_ofNat _
  have fits : word.toNat ≤ maxUnsigned := Nat.le_of_lt_succ word.toNat_lt
  refine .number ?_
  simp [Numeral.number?, Numeral.IsInteger, Numeral.ofNumber, digits, fits, integerNumber]

theorem survives_ofStrings (texts : List String) :
    (Value.ofStrings texts).Survives (depth + 1) := by
  refine .array fun element member => ?_
  rcases List.mem_map.mp member with ⟨text, _, rfl⟩
  exact .string text

theorem survives_ofStringMap (map : NameMap String) :
    (Value.ofStringMap map).Survives (depth + 1) := by
  refine .object ?_ fun member stated => ?_
  · rw [List.map_map]
    exact map.nodup_names
  · rcases List.mem_map.mp stated with ⟨entry, _, rfl⟩
    exact .string entry.2

/-- A value that survives still does when members are removed. -/
theorem Value.Survives.without (survives : value.Survives depth) (removed : List String) :
    (value.without removed).Survives depth := by
  cases survives with
  | object distinct each =>
      exact .object (distinct.sublist (List.filter_sublist.map _))
        fun member left => each member (List.mem_of_mem_filter left)
  | null => exact .null
  | bool holds => exact .bool holds
  | number same => exact .number same
  | string text => exact .string text
  | array each => exact .array each

/-- A value is taken off the input that begins with its text. -/
def IsReadBack (depth : Nat) (value : Value) : Prop :=
  ∀ {fuel : Nat} {rest : Bytes}, 2 * (Form.ofValue value).bytes.length ≤ fuel →
    EndsNumeral rest →
      readValue fuel depth ((Form.ofValue value).bytes ++ rest) = .ok (value, rest)

/-! ### Scalars -/

theorem kind_ne_of_scalar? {form : Form} (stated : form.scalar? = some value) :
    form.kind ≠ .array ∧ form.kind ≠ .object := by
  cases form with
  | array margin elements => cases stated
  | object margin members => cases stated
  | null | bool _ | numeral _ | string _ => simp [Form.kind]

theorem readValue_scalar {form : Form} (stated : form.scalar? = some value)
    (ends : EndsNumeral rest) :
    readValue (fuel + 1) depth (form.bytes ++ rest) = .ok (value, rest) := by
  have read := readScalar_form form ends
  have skipped := skipSpace_form_append form rest
  rcases kind_ne_of_scalar? stated with ⟨noArray, noObject⟩
  have noBracket : form.opening ≠ byte '[' := Form.opening_ne rfl noArray
  have noBrace : form.opening ≠ byte '\x7b' := Form.opening_ne rfl noObject
  rcases form.exists_bytes_eq_cons with ⟨later, begins⟩
  rw [begins, List.cons_append] at skipped read ⊢
  rw [stated] at read
  simp only [readValue, skipped, if_neg noBracket, if_neg noBrace, read, found]

theorem isReadBack_of_scalar (stated : (Form.ofValue value).scalar? = some value) :
    IsReadBack depth value := by
  intro fuel rest enough ends
  rcases (Form.ofValue value).exists_bytes_eq_cons with ⟨later, begins⟩
  cases fuel with
  | zero =>
      rw [begins, List.length_cons] at enough
      omega
  | succ fuel => exact readValue_scalar stated ends

/-! ### Arrays and objects -/

theorem length_remaining_cons (atStart : Bool) (entry : Bytes) (later : List Bytes) :
    entry.length + (remaining false later).length ≤
      (remaining atStart (entry :: later)).length := by
  cases atStart <;> simp [remaining, separated]

theorem length_ofValue_pos (value : Value) : 0 < (Form.ofValue value).bytes.length := by
  rcases (Form.ofValue value).exists_bytes_eq_cons with ⟨later, begins⟩
  rw [begins]
  exact Nat.succ_pos _

/-- The elements of an array are read back behind those already read. -/
theorem readElements_ofElements {elements : List Value}
    (each : ∀ element ∈ elements, IsReadBack depth element) (atStart : Bool)
    (enough : 2 * (remaining atStart (elementTexts (ofElements elements))).length < fuel)
    (before : List Value) (rest : Bytes) :
    readElements fuel depth atStart before
        (remaining atStart (elementTexts (ofElements elements)) ++ byte ']' :: rest) =
      .ok (.array (before.reverse ++ elements), rest) := by
  induction elements generalizing fuel atStart before with
  | nil =>
      rcases Nat.exists_eq_add_of_lt enough with ⟨fuel, rfl⟩
      rw [ofElements, elementTexts, remaining_nil, List.nil_append, readElements,
        nextEntry_closing (.inl rfl)]
      simp [pure, Except.pure]
  | cons element later ih =>
      rcases List.forall_mem_cons.mp each with ⟨first, others⟩
      rw [ofElements, elementTexts] at enough ⊢
      have paid := length_remaining_cons atStart
        (Margin.bytes [] ++ (Form.ofValue element).bytes ++ Margin.bytes [])
        (elementTexts (ofElements later))
      have taken := length_ofValue_pos element
      simp only [List.length_append, Margin.bytes_nil, List.length_nil] at paid enough
      cases fuel with
      | zero => contradiction
      | succ fuel =>
          rcases nextEntry_padded (.inl rfl) (beginsEntry_form (Form.ofValue element))
            (skipSpace_form_append _) [] [] atStart (elementTexts (ofElements later))
            (byte ']' :: rest) with ⟨octet, following, together, next⟩
          have ends := endsNumeral_remaining (.inl rfl) (elementTexts (ofElements later)) rest
          have read : readValue fuel depth _ = _ := first (by omega) ends
          rw [readElements, next]
          simp only [ok_bind, together, Margin.bytes_nil, List.nil_append, read]
          rw [ih others false (by omega)]
          simp

theorem putMember_of_not_mem {name : String} (value : Value) {members : List (String × Value)}
    (absent : name ∉ members.map (·.1)) :
    putMember name value members = members ++ [(name, value)] := by
  induction members with
  | nil => rfl
  | cons member later ih =>
      rw [List.map_cons, List.mem_cons, not_or] at absent
      rw [putMember, if_neg (Ne.symm absent.1), ih absent.2, List.cons_append]

/-- The members of an object are read back behind those already read, which have other names. -/
theorem readMembers_ofMembers {members : List (String × Value)}
    (each : ∀ member ∈ members, IsReadBack depth member.2) (atStart : Bool)
    (enough : 2 * (remaining atStart (memberTexts (ofMembers members))).length < fuel)
    (before : List (String × Value)) (distinct : ((before ++ members).map (·.1)).Nodup)
    (rest : Bytes) :
    readMembers fuel depth atStart before
        (remaining atStart (memberTexts (ofMembers members)) ++ byte '\x7d' :: rest) =
      .ok (before ++ members, rest) := by
  induction members generalizing fuel atStart before with
  | nil =>
      rcases Nat.exists_eq_add_of_lt enough with ⟨fuel, rfl⟩
      rw [ofMembers, memberTexts, remaining_nil, List.nil_append, readMembers,
        nextEntry_closing (.inr rfl)]
      simp [pure, Except.pure]
  | cons member later ih =>
      rcases member with ⟨name, value⟩
      rcases List.forall_mem_cons.mp each with ⟨first, others⟩
      change IsReadBack depth value at first
      have absent : name ∉ before.map (·.1) := by
        rw [List.map_append, List.map_cons, List.nodup_middle, List.nodup_cons] at distinct
        exact fun present => distinct.1 (List.mem_append_left _ present)
      rw [ofMembers, memberTexts] at enough ⊢
      have paid := length_remaining_cons atStart
        (Margin.bytes [] ++ (Piece.quoted (Piece.ofText name) ++ Margin.bytes [] ++
          byte ':' :: (Margin.bytes [] ++ (Form.ofValue value).bytes)) ++ Margin.bytes [])
        (memberTexts (ofMembers later))
      simp only [List.length_append, List.length_cons, Margin.bytes_nil,
        List.length_nil] at paid enough
      cases fuel with
      | zero => contradiction
      | succ fuel =>
          let written : Member Form := ⟨Piece.ofText name, [], [], Form.ofValue value⟩
          rcases nextEntry_padded (.inr rfl) (beginsEntry_member written)
            (skipSpace_member_append _) [] [] atStart (memberTexts (ofMembers later))
            (byte '\x7d' :: rest) with ⟨octet, following, together, next⟩
          have ends := endsNumeral_remaining (.inr rfl) (memberTexts (ofMembers later)) rest
          have read : readValue fuel depth _ = _ := first (by omega) ends
          have colon (rest : Bytes) : expectColon (byte ':' :: rest) = .ok rest :=
            expectColon_append [] rest
          rw [Member.bytes_append, List.cons.injEq] at together
          rcases together with ⟨rfl, rfl⟩
          rw [readMembers]
          refine (congrArg (· >>= _) next).trans ?_
          simp only [ok_bind, if_true, readText_pieces, written, Piece.text?_ofText, found,
            Margin.bytes_nil, List.nil_append, colon, read,
            putMember_of_not_mem value absent]
          rw [ih others false (by omega) (before ++ [(name, value)]) (by simpa using distinct)]
          simp

/-! ### Values -/

/-- A value that survives is taken off the input that begins with its text. -/
theorem Value.Survives.isReadBack (survives : value.Survives depth) : IsReadBack depth value := by
  induction survives with
  | null => exact isReadBack_of_scalar rfl
  | bool holds => exact isReadBack_of_scalar (by rw [Form.ofValue]; rfl)
  | number same => exact isReadBack_of_scalar (by rw [Form.ofValue, Form.scalar?, same]; rfl)
  | string text =>
      exact isReadBack_of_scalar (by rw [Form.ofValue, Form.scalar?, Piece.text?_ofText]; rfl)
  | @array depth elements each ih =>
      intro fuel rest enough ends
      rw [Form.ofValue, Form.bytes, bracketed] at enough ⊢
      cases fuel with
      | zero => contradiction
      | succ fuel =>
          simp only [Margin.bytes_nil, List.nil_append, List.length_cons,
            List.length_append, List.length_nil] at enough
          -- The two brackets pay for this step and for the one that finds no further element.
          have paid : 2 * (remaining true (elementTexts (ofElements elements))).length < fuel := by
            rw [remaining, if_pos rfl]
            omega
          have read := readElements_ofElements ih true paid [] rest
          rw [readValue, List.cons_append, skipSpace_cons (by decide)]
          simpa [remaining] using read
  | @object depth members distinct each ih =>
      intro fuel rest enough ends
      rw [Form.ofValue, Form.bytes, bracketed] at enough ⊢
      cases fuel with
      | zero => contradiction
      | succ fuel =>
          simp only [Margin.bytes_nil, List.nil_append, List.length_cons,
            List.length_append, List.length_nil] at enough
          have paid : 2 * (remaining true (memberTexts (ofMembers members))).length < fuel := by
            rw [remaining, if_pos rfl]
            omega
          have read := readMembers_ofMembers ih true paid [] distinct rest
          rw [readValue, List.cons_append, skipSpace_cons (by decide)]
          have apart : byte '\x7b' ≠ byte '[' := by decide
          rw [remaining, if_pos rfl] at read
          simp [apart, read]

/-- The text of a value that survives is read as the value. -/
theorem ofBytes_render (survives : value.Survives depthLimit) :
    Value.ofBytes (Text.bytes value.render) = .ok value := by
  have enough : 2 * (Form.ofValue value).bytes.length ≤ readingFuel (Form.ofValue value).bytes :=
    Nat.le_add_right _ 2
  have read := survives.isReadBack enough endsNumeral_nil
  rw [List.append_nil] at read
  rw [bytes_render, Value.ofBytes, document, read]
  rfl

end Json

end ServingPreset
