import ServingPreset.Proofs.Json.Shape

/-!
# Reading records

A record takes the members of an object one after the other (`decodeMembers`), or the elements of
an array in declaration order (`decodePositions`). The first defect is the one that counts.
-/

namespace ServingPreset

namespace Json

variable {Result Target : Type} {bytes rest : Bytes} {form : Form}

/-! ### Statements -/

/-- A name and the value that is stated for it. -/
abbrev Statement := String × Form

/-- The statement of a member, if its name is a text. -/
def Member.statement? (member : Member Form) : Option Statement :=
  (Piece.text? member.name).map fun name => (name, member.value)

/-- The statements of an object in their order, if all names are texts. -/
def Form.statements? : Form → Option (List Statement)
  | .object _ members => members.mapM fun member => member.content.statement?
  | _ => none

/-- The only value that is stated for a name is the one that is looked up. -/
theorem lookup_eq_some_of_mem {statements : List Statement} {name : String} {form : Form}
    (once : (statements.map (·.1)).count name ≤ 1) (present : (name, form) ∈ statements) :
    statements.lookup name = some form := by
  rcases List.append_of_mem present with ⟨before, after, rfl⟩
  refine List.lookup_eq_some_iff.mpr ⟨before, after, rfl, fun other member => ?_⟩
  have absent : (before.map fun statement : Statement => statement.1).count name = 0 := by
    simp only [List.map_append, List.map_cons, List.count_append, List.count_cons_self] at once
    omega
  exact bne_iff_ne.mpr fun same =>
    List.count_eq_zero.mp absent (same ▸ List.mem_map_of_mem member)

theorem mem_of_lookup_eq_some {statements : List Statement} {name : String} {form : Form}
    (found : statements.lookup name = some form) : (name, form) ∈ statements := by
  rcases List.lookup_eq_some_iff.mp found with ⟨before, after, rfl, _⟩
  exact List.mem_append_right _ List.mem_cons_self

section Stated

variable {name : String} {default result : Result} {read? : Form → Option Result}
  {statements : List Statement}

/-- What is stated for a field that may be absent. -/
def stated? (name : String) (default : Result) (read? : Form → Option Result)
    (statements : List Statement) : Option Result :=
  match statements.lookup name with
  | none => some default
  | some form => read? form

theorem stated?_of_mem (once : (statements.map (·.1)).count name ≤ 1)
    (present : (name, form) ∈ statements) :
    stated? name default read? statements = read? form := by
  rw [stated?, lookup_eq_some_of_mem once present]

/-- A field without a value of its kind is stated, and the value is of another kind. -/
theorem exists_of_stated?_eq_none (unsuited : stated? name default read? statements = none) :
    ∃ form, (name, form) ∈ statements ∧ read? form = none := by
  rw [stated?] at unsuited
  cases found : statements.lookup name with
  | none =>
      rw [found] at unsuited
      contradiction
  | some form =>
      rw [found] at unsuited
      exact ⟨form, mem_of_lookup_eq_some found, unsuited⟩

end Stated

/-! ### Fields -/

/-- A shape takes the values that state something, and refuses the others. -/
def Shape.Expects (shape : Shape Result) (read? : Form → Option Result) : Prop :=
  ∀ form, shape.decode form = form.expect (read? form)

/-- A field of a record: its name, and the shape of the values that change the record. -/
structure FieldShape (Target : Type) where
  name : String
  change : Shape (Target → Target)

namespace FieldShape

/-- The reader of a field. -/
def field (shape : FieldShape Target) : Field Target :=
  ⟨shape.name, shape.change.read⟩

/-- The field that stores what a shape yields. -/
def storing (name : String) (shape : Shape Result) (store : Result → Target → Target) :
    FieldShape Target :=
  ⟨name, shape.map store⟩

/-- Each value that is stated for a field is one of those that change the record. -/
def Suits (field : FieldShape Target) (statements : List Statement) : Prop :=
  ∀ form, (field.name, form) ∈ statements →
    ∃ change, field.change.decode form = .ok change

theorem exists_of_storing_decode {name : String} {shape : Shape Result}
    {store : Result → Target → Target} {form : Form} {change : Target → Target}
    (decoded : (storing name shape store).change.decode form = .ok change) :
    ∃ result, shape.decode form = .ok result ∧ change = store result := by
  have stored : (shape.decode form).map store = .ok change := decoded
  cases read : shape.decode form with
  | error defect =>
      rw [read] at stored
      contradiction
  | ok result =>
      rw [read] at stored
      cases stored
      exact ⟨result, rfl, rfl⟩

section Expects

variable {name : String} {shape : Shape Result} {store : Result → Target → Target}
  {read? : Form → Option Result} {default result : Result} {statements : List Statement}

theorem storing_decode (expects : shape.Expects read?) (form : Form) :
    (storing name shape store).change.decode form = (form.expect (read? form)).map store :=
  congrArg (Except.map store) (expects form)

theorem suits_storing (expects : shape.Expects read?)
    (once : (statements.map (·.1)).count name ≤ 1)
    (stated : stated? name default read? statements = some result) :
    (storing name shape store).Suits statements := by
  intro form present
  have read : read? form = some result := by rw [← stated, stated?_of_mem once present]
  rw [storing_decode expects, read]
  exact ⟨store result, rfl⟩

theorem storing_decode_none (expects : shape.Expects read?) (defect : form.defect = .unsuited)
    (unsuited : read? form = none) :
    (storing name shape store).change.decode form = .error .unsuited := by
  rw [storing_decode expects, unsuited, ← defect]
  rfl

theorem storing_decode_cases (expects : shape.Expects read?) (defect : form.defect = .unsuited) :
    (∃ change, (storing name shape store).change.decode form = .ok change) ∨
      (storing name shape store).change.decode form = .error .unsuited := by
  cases read : read? form with
  | none => exact .inr (storing_decode_none expects defect read)
  | some result =>
      rw [storing_decode expects, read]
      exact .inl ⟨store result, rfl⟩

end Expects

end FieldShape

variable (fields : List (FieldShape Target))

/-- What a statement makes of a record, of which some fields are stated already. -/
def decodeStatement (state : List String × Target) (statement : Statement) :
    Except Defect (List String × Target) :=
  match fields.find? fun field => field.name == statement.1 with
  | none => .ok state
  | some field =>
      if state.1.contains statement.1 then .error .unsuited
      else (field.change.decode statement.2).map fun change =>
        (statement.1 :: state.1, change state.2)

/-- What a member makes of a record. -/
def decodeMember (state : List String × Target) (member : Member Form) :
    Except Defect (List String × Target) :=
  match member.statement? with
  | none => .error .malformed
  | some statement => decodeStatement fields state statement

/-- What the members of an object make of a record. -/
def decodeMembers (members : List (Padded (Member Form))) (state : List String × Target) :
    Except Defect (List String × Target) :=
  members.foldlM (fun state member => decodeMember fields state member.content) state

theorem readFields_margin (fields : List (Field Target)) (fuel : Nat) (atStart : Bool)
    (seen : List String) (target : Target) (margin : Margin) (bytes : Bytes) :
    readFields fields fuel atStart seen target (margin.bytes ++ bytes) =
      readFields fields fuel atStart seen target bytes := by
  cases fuel with
  | zero => rfl
  | succ fuel => simp only [readFields, nextEntry_margin]

theorem skipSpace_member_append (member : Member Form) (rest : Bytes) :
    skipSpace (member.bytes Form.bytes ++ rest) = member.bytes Form.bytes ++ rest :=
  skipSpace_cons (by decide)

theorem find?_map_field (name : String) :
    ((fields.map FieldShape.field).find? fun field => field.name == name) =
      (fields.find? fun field => field.name == name).map FieldShape.field := by
  rw [List.find?_map]
  rfl

theorem readFields_cons (member : Padded (Member Form)) (later : List Bytes)
    (fuel : Nat) (atStart : Bool) (state : List String × Target) (rest : Bytes) :
    readFields (fields.map FieldShape.field) (fuel + 1) atStart state.1 state.2
        (remaining atStart (member.bytes (Member.bytes Form.bytes) :: later) ++
          byte '\x7d' :: rest) =
      (decodeMember fields state member.content >>= fun state =>
        readFields (fields.map FieldShape.field) fuel false state.1 state.2
          (remaining false later ++ byte '\x7d' :: rest)) := by
  rcases nextEntry_padded (.inr rfl) (beginsEntry_member member.content)
    (skipSpace_member_append member.content) member.before member.after atStart later
    (byte '\x7d' :: rest) with ⟨first, tail, together, next⟩
  have ends := (endsNumeral_remaining (.inr rfl) later rest).margin member.after
  rw [Member.bytes_append, List.cons.injEq] at together
  rcases together with ⟨rfl, rfl⟩
  rw [Padded.bytes, readFields, next]
  simp only [ok_bind, if_true, readText_pieces, decodeMember, Member.statement?]
  rcases Piece.text? member.content.name with _ | name
  · rfl
  · simp only [found, ok_bind, find?_map_field, expectColon_append, Option.map_some,
      decodeStatement]
    cases fields.find? fun field => field.name == name with
    | none =>
        simp only [Option.map_none, skipValue_append _ _ ends, ok_bind, readFields_margin]
    | some field =>
        simp only [Option.map_some]
        split
        · rfl
        · have read := field.change.read_append member.content.beforeValue
            member.content.value ends
          simp only [FieldShape.field, read]
          cases field.change.decode member.content.value with
          | error defect => rfl
          | ok change => exact readFields_margin _ _ _ _ _ _ _

theorem readFields_remaining (members : List (Padded (Member Form))) {fuel : Nat}
    (enough : members.length < fuel) (atStart : Bool) (state : List String × Target)
    (rest : Bytes) :
    readFields (fields.map FieldShape.field) fuel atStart state.1 state.2
        (remaining atStart (members.map (Padded.bytes (Member.bytes Form.bytes))) ++
          byte '\x7d' :: rest) =
      (decodeMembers fields members state).map fun state => (state.2, rest) := by
  induction members generalizing fuel atStart state with
  | nil =>
      rcases Nat.exists_eq_add_of_lt enough with ⟨fuel, rfl⟩
      rw [List.map_nil, remaining_nil, List.nil_append, readFields, nextEntry_closing (.inr rfl)]
      rfl
  | cons member later ih =>
      cases fuel with
      | zero => contradiction
      | succ fuel =>
          rw [List.map_cons, readFields_cons, decodeMembers, List.foldlM_cons]
          cases decodeMember fields state member.content with
          | error defect => rfl
          | ok state => exact ih (Nat.lt_of_succ_lt_succ enough) false state

/-- What the elements of an array make of a record, one for each field in declaration order. -/
def decodePositions : List (FieldShape Target) → List (Padded Form) → Target →
    Except Defect Target
  | _, [], target => .ok target
  | [], _ :: _, _ => .error .malformed
  | field :: fields, element :: later, target => do
      let change ← field.change.decode element.content
      decodePositions fields later (change target)

theorem readPositions_margin (fields : List (Field Target)) (atStart : Bool) (target : Target)
    (margin : Margin) (bytes : Bytes) :
    readPositions fields atStart target (margin.bytes ++ bytes) =
      readPositions fields atStart target bytes := by
  cases fields with
  | nil => simp only [readPositions, expectArrayEnd, skipSpace_margin_append]
  | cons field later => simp only [readPositions, nextEntry_margin]

theorem readPositions_remaining (elements : List (Padded Form)) (atStart : Bool)
    (target : Target) (rest : Bytes) :
    readPositions (fields.map FieldShape.field) atStart target
        (remaining atStart (elements.map (Padded.bytes Form.bytes)) ++ byte ']' :: rest) =
      (decodePositions fields elements target).map fun target => (target, rest) := by
  induction elements generalizing fields atStart target with
  | nil =>
      rw [List.map_nil, remaining_nil, List.nil_append]
      cases fields with
      | nil => rfl
      | cons field others =>
          rw [List.map_cons, readPositions, nextEntry_closing (.inl rfl)]
          rfl
  | cons element later ih =>
      cases fields with
      | nil =>
          have begins := (beginsEntry_form element.content).padded element.before
            element.after.bytes
          rcases skipSpace_remaining begins atStart (later.map (Padded.bytes Form.bytes))
            (byte ']' :: rest) with ⟨first, tail, skipped, noEnd, _⟩
          rw [List.map_cons, Padded.bytes, List.map_nil, readPositions, expectArrayEnd, skipped]
          simp only [if_neg noEnd, error_bind]
          rfl
      | cons field others =>
          rcases nextEntry_padded (.inl rfl) (beginsEntry_form element.content)
            (skipSpace_form_append element.content) element.before element.after atStart
            (later.map (Padded.bytes Form.bytes)) (byte ']' :: rest) with
            ⟨first, tail, together, next⟩
          have ends := (endsNumeral_remaining (.inl rfl) (later.map (Padded.bytes Form.bytes))
            rest).margin element.after
          have read := field.change.reads (skipSpace_form_append element.content _) ends
          rw [List.map_cons, List.map_cons, Padded.bytes, readPositions, next]
          simp only [ok_bind, together, FieldShape.field, read, decodePositions]
          cases field.change.decode element.content with
          | error defect => rfl
          | ok change =>
              refine (readPositions_margin _ _ _ _ _).trans ?_
              exact ih others false (change target)

/-- What a record makes of a value. -/
def decodeRecord (initial : Target) : Form → Except Defect Target
  | .array _ elements => decodePositions fields elements initial
  | .object _ members => (decodeMembers fields members ([], initial)).map (·.2)
  | other => .error other.defect

theorem record_refuses (fields : List (Field Target)) (initial : Target)
    (skipped : skipSpace bytes = form.bytes ++ rest) (ends : EndsNumeral rest)
    (noArray : form.kind ≠ .array) (noObject : form.kind ≠ .object) :
    Json.record fields initial bytes = .error form.defect := by
  have refused := unexpected_form form ends
  have noBracket : form.opening ≠ byte '[' := Form.opening_ne rfl noArray
  have noBrace : form.opening ≠ byte '\x7b' := Form.opening_ne rfl noObject
  rcases form.exists_bytes_eq_cons with ⟨later, begins⟩
  rw [begins, List.cons_append] at skipped refused
  simp only [Json.record, skipped, if_neg noBracket, if_neg noBrace, refused]

theorem record_reads (initial : Target) (skipped : skipSpace bytes = form.bytes ++ rest)
    (ends : EndsNumeral rest) :
    Json.record (fields.map FieldShape.field) initial bytes =
      (decodeRecord fields initial form).map fun target => (target, rest) := by
  cases form with
  | array margin elements =>
      rw [Form.bytes, elementTexts_eq_map, bracketed, List.cons_append, List.append_assoc,
        List.append_assoc] at skipped
      simp only [Json.record, skipped, if_true]
      refine (readPositions_margin _ _ _ _ _).trans ?_
      exact readPositions_remaining fields elements true initial rest
  | object margin members =>
      have enough := length_lt_readingFuel margin
        (members.map (Padded.bytes (Member.bytes Form.bytes))) (byte '\x7d' :: rest)
      rw [List.length_map] at enough
      rw [Form.bytes, memberTexts_eq_map, bracketed, List.cons_append, List.append_assoc,
        List.append_assoc] at skipped
      have noBracket : byte '\x7b' ≠ byte '[' := by decide
      simp only [Json.record, skipped, if_neg noBracket, if_true]
      refine (readFields_margin _ _ _ _ _ _ _).trans ?_
      refine (readFields_remaining fields members enough true ([], initial) rest).trans ?_
      rw [decodeRecord]
      cases decodeMembers fields members ([], initial) <;> rfl
  | null | bool _ | numeral _ | string _ =>
      exact record_refuses _ initial skipped ends (by simp [Form.kind]) (by simp [Form.kind])

/-- Records with the given fields, each of which has the default that it has in `initial`. -/
def Shape.record (initial : Target) : Shape Target where
  read := Json.record (fields.map FieldShape.field) initial
  decode := decodeRecord fields initial
  reads := record_reads fields initial

/-! ### Records by their statements -/

theorem foldlM_decodeMember {members : List (Padded (Member Form))} {statements : List Statement}
    (stated : members.mapM (fun member => member.content.statement?) = some statements)
    (state : List String × Target) :
    decodeMembers fields members state = statements.foldlM (decodeStatement fields) state := by
  induction members generalizing statements state with
  | nil =>
      cases stated
      rfl
  | cons member later ih =>
      simp only [List.mapM_cons, Option.bind_eq_bind, Option.bind_eq_some_iff, Option.pure_def,
        Option.some.injEq] at stated
      rcases stated with ⟨statement, first, others, rest, rfl⟩
      rw [decodeMembers, List.foldlM_cons, List.foldlM_cons, decodeMember, first]
      exact congrArg _ (funext fun state => ih rest state)

/-- What a record makes of an object is decided by the statements of the object. -/
theorem decodeRecord_of_statements {statements : List Statement}
    (stated : form.statements? = some statements) (initial : Target) :
    decodeRecord fields initial form =
      (statements.foldlM (decodeStatement fields) ([], initial)).map (·.2) := by
  cases form with
  | object margin members => rw [decodeRecord, foldlM_decodeMember fields stated]
  | null | bool _ | numeral _ | string _ | array _ _ => cases stated

section Outcome

variable {fields} {statements : List Statement} {state : List String × Target}

/-- The field of a record that a statement is about. -/
def fieldOf? (fields : List (FieldShape Target)) (statement : Statement) :
    Option (FieldShape Target) :=
  fields.find? fun field => field.name == statement.1

theorem mem_of_fieldOf? {statement : Statement} {field : FieldShape Target}
    (found : fieldOf? fields statement = some field) :
    field ∈ fields ∧ field.name = statement.1 :=
  ⟨List.mem_of_find?_eq_some found, by simpa using List.find?_some found⟩

theorem decodeStatement_of_none {statement : Statement}
    (unknown : fieldOf? fields statement = none) :
    decodeStatement fields state statement = .ok state := by
  rw [fieldOf?] at unknown
  rw [decodeStatement, unknown]

theorem decodeStatement_of_some {statement : Statement} {field : FieldShape Target}
    (found : fieldOf? fields statement = some field) :
    decodeStatement fields state statement =
      if state.1.contains statement.1 then .error .unsuited
      else (field.change.decode statement.2).map fun change =>
        (statement.1 :: state.1, change state.2) := by
  rw [fieldOf?] at found
  rw [decodeStatement, found]

/-- No field is stated again. -/
def Fresh (fields : List (FieldShape Target)) (seen : List String)
    (statements : List Statement) : Prop :=
  ∀ field ∈ fields, (seen ++ statements.map (·.1)).count field.name ≤ 1

/-- A record is read if no field is stated again and each stated value suits its field. -/
theorem exists_foldlM_decodeStatement (fresh : Fresh fields state.1 statements)
    (suits : ∀ field ∈ fields, field.Suits statements) :
    ∃ after, statements.foldlM (decodeStatement fields) state = .ok after := by
  induction statements generalizing state with
  | nil => exact ⟨state, rfl⟩
  | cons statement later ih =>
      have others : ∀ field ∈ fields, field.Suits later :=
        fun field member form present => suits field member form (List.mem_cons_of_mem _ present)
      rw [List.foldlM_cons]
      cases found : fieldOf? fields statement with
      | none =>
          rw [decodeStatement_of_none found]
          refine ih (fun field member => ?_) others
          refine Nat.le_trans (List.Sublist.count_le _ ?_) (fresh field member)
          exact (List.sublist_cons_self _ _).append_left _
      | some field =>
          rcases mem_of_fieldOf? found with ⟨member, name⟩
          have here : (field.name, statement.2) ∈ statement :: later := name ▸ List.mem_cons_self
          rcases suits field member statement.2 here with ⟨change, decoded⟩
          have unseen : ¬state.1.contains statement.1 := by
            have once := fresh field member
            rw [name, List.map_cons, List.count_append, List.count_cons_self] at once
            have absent : state.1.count statement.1 = 0 := by omega
            simpa [List.count_eq_zero] using absent
          rw [decodeStatement_of_some found, if_neg unseen, decoded]
          refine ih (fun other member => ?_) others
          have once := fresh other member
          rw [List.map_cons, List.count_append, List.count_cons] at once
          rw [List.cons_append, List.count_cons, List.count_append]
          omega

/-- A value that does not suit its field spoils a record. -/
theorem foldlM_decodeStatement_unsuited
    (each : ∀ field ∈ fields, ∀ form, (field.name, form) ∈ statements →
      (∃ change, field.change.decode form = .ok change) ∨
        field.change.decode form = .error .unsuited)
    (spoilt : ∃ statement ∈ statements, ∃ field, fieldOf? fields statement = some field ∧
      field.change.decode statement.2 = .error .unsuited) :
    statements.foldlM (decodeStatement fields) state = .error .unsuited := by
  induction statements generalizing state with
  | nil => simp at spoilt
  | cons statement later ih =>
      have others : ∀ field ∈ fields, ∀ form, (field.name, form) ∈ later →
          (∃ change, field.change.decode form = .ok change) ∨
            field.change.decode form = .error .unsuited :=
        fun field member form present => each field member form (List.mem_cons_of_mem _ present)
      rw [List.foldlM_cons]
      cases found : fieldOf? fields statement with
      | none =>
          rw [decodeStatement_of_none found]
          simp only [List.mem_cons, exists_eq_or_imp, found] at spoilt
          rcases spoilt with ⟨field, none, _⟩ | later
          · contradiction
          · exact ih others later
      | some field =>
          rw [decodeStatement_of_some found]
          split
          · rfl
          · rcases mem_of_fieldOf? found with ⟨member, name⟩
            have here : (field.name, statement.2) ∈ statement :: later := name ▸ List.mem_cons_self
            rcases each field member statement.2 here with ⟨change, decoded⟩ | refused
            · rw [decoded]
              simp only [List.mem_cons, exists_eq_or_imp, found] at spoilt
              rcases spoilt with ⟨other, same, refused⟩ | later
              · cases same
                rw [decoded] at refused
                contradiction
              · exact ih others later
            · rw [refused]
              rfl

section Parts

variable {Part : Type} {part : Target → Part} {valueOf : Form → Part} {name : String}
  {after : List String × Target}

/-- A field changes a part of a record exactly if it has the given name. -/
def Stores (field : FieldShape Target) (name : String) (part : Target → Part)
    (valueOf : Form → Part) : Prop :=
  ∀ form change, field.change.decode form = .ok change →
    ∀ target, part (change target) = if field.name = name then valueOf form else part target

theorem stores_storing {shape : Shape Part} {store : Part → Target → Target}
    {read? : Form → Option Part} {default : Part} (expects : shape.Expects read?)
    (sets : ∀ value target, part (store value target) = value) :
    Stores (.storing name shape store) name part fun form => (read? form).getD default := by
  intro form change decoded target
  rcases FieldShape.exists_of_storing_decode decoded with ⟨value, read, rfl⟩
  rw [expects, Form.expect_eq_ok_iff] at read
  simp only [FieldShape.storing, if_true, sets, read, Option.getD_some]

theorem stores_other {other : String} {shape : Shape Result} {store : Result → Target → Target}
    (apart : other ≠ name) (keeps : ∀ value target, part (store value target) = part target) :
    Stores (.storing other shape store) name part valueOf := by
  intro form change decoded target
  rcases FieldShape.exists_of_storing_decode decoded with ⟨value, _, rfl⟩
  rw [keeps]
  exact (if_neg apart).symm

/-- A part of a record that only the field of the given name decides, by the value stated for it. -/
structure Decides (fields : List (FieldShape Target)) (name : String) (part : Target → Part)
    (valueOf : Form → Part) : Prop where
  isField : ∃ field ∈ fields, field.name = name
  stores : ∀ field ∈ fields, Stores field name part valueOf

theorem Decides.part_decodeStatement (decides : Decides fields name part valueOf)
    {statement : Statement} (read : decodeStatement fields state statement = .ok after) :
    part after.2 = if statement.1 = name then valueOf statement.2 else part state.2 := by
  cases found : fieldOf? fields statement with
  | none =>
      rw [decodeStatement_of_none found] at read
      cases read
      refine (if_neg ?_).symm
      rcases decides.isField with ⟨field, member, rfl⟩
      have unknown := List.find?_eq_none.mp found field member
      exact fun same => unknown (by simp [same])
  | some field =>
      rcases mem_of_fieldOf? found with ⟨member, named⟩
      rw [decodeStatement_of_some found] at read
      split at read
      · contradiction
      · cases decoded : field.change.decode statement.2 with
        | error defect =>
            rw [decoded] at read
            contradiction
        | ok change =>
            rw [decoded] at read
            cases read
            rw [← named]
            exact decides.stores field member _ change decoded _

/-- What a field decides is what the statement about it says, or the default. -/
theorem Decides.part_foldlM (decides : Decides fields name part valueOf)
    (once : (statements.map (·.1)).count name ≤ 1)
    (read : statements.foldlM (decodeStatement fields) state = .ok after) :
    part after.2 = ((statements.lookup name).map valueOf).getD (part state.2) := by
  induction statements generalizing state with
  | nil =>
      cases read
      rfl
  | cons statement later ih =>
      rw [List.foldlM_cons] at read
      cases step : decodeStatement fields state statement with
      | error defect =>
          rw [step] at read
          contradiction
      | ok next =>
          rw [step] at read
          have here := decides.part_decodeStatement step
          rw [List.map_cons, List.count_cons] at once
          rw [ih (by omega) read, here, List.lookup_cons]
          by_cases same : statement.1 = name
          · have count : (later.map (·.1)).count name = 0 := by
              simp only [same, beq_self_eq_true, if_true] at once
              omega
            have absent : later.lookup name = none := by
              refine List.lookup_eq_none_iff.mpr fun other member => ?_
              refine bne_iff_ne.mpr fun equal => List.count_eq_zero.mp count ?_
              exact equal ▸ List.mem_map_of_mem member
            simp [same, absent]
          · have other : (name == statement.1) = false := by simpa using Ne.symm same
            simp [same, other]

/-- What a field decides is what is stated for it. -/
theorem Decides.part_of_stated {read? : Form → Option Part}
    (decides : Decides fields name part fun form => (read? form).getD (part state.2))
    (once : (statements.map (·.1)).count name ≤ 1)
    (read : statements.foldlM (decodeStatement fields) state = .ok after) {result : Part}
    (stated : stated? name (part state.2) read? statements = some result) :
    part after.2 = result := by
  rw [decides.part_foldlM once read]
  rw [stated?] at stated
  cases found : statements.lookup name with
  | none =>
      rw [found] at stated
      exact Option.some.inj stated
  | some form =>
      rw [found] at stated
      have value : read? form = some result := stated
      rw [Option.map_some, Option.getD_some, value, Option.getD_some]

end Parts

/--
An object that states each field at most once, and a value of its kind for it, is read as the
record whose parts are what is stated for them.
-/
theorem exists_decodeRecord (initial : Target) (stated : form.statements? = some statements)
    (once : ∀ field ∈ fields, (statements.map (·.1)).count field.name ≤ 1)
    (suits : ∀ field ∈ fields, field.Suits statements) :
    ∃ target, decodeRecord fields initial form = .ok target ∧
      ∀ {Part : Type} {name : String} {part : Target → Part} {read? : Form → Option Part}
        {result : Part},
        Decides fields name part (fun form => (read? form).getD (part initial)) →
        stated? name (part initial) read? statements = some result → part target = result := by
  have fresh : Fresh fields [] statements := once
  have reads : ∃ after,
      statements.foldlM (decodeStatement fields) ([], initial) = .ok after :=
    exists_foldlM_decodeStatement fresh suits
  rcases reads with ⟨after, read⟩
  refine ⟨after.2, ?_, fun decides statedPart => ?_⟩
  · rw [decodeRecord_of_statements fields stated, read]
    rfl
  · rcases decides.isField with ⟨field, member, rfl⟩
    exact decides.part_of_stated (once field member) read statedPart

end Outcome

end Json

end ServingPreset
