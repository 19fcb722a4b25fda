import ServingPreset.Proofs.Json.Fields
import ServingPreset.Proofs.Json.Print
import ServingPreset.Proofs.Json.Record
import ServingPreset.Settings

/-!
# Settings that survive JSON

Settings are read back from the text of the object that states them, and from what is left of it
when members are removed: a setting without a member has its default (`ofBytes_without`). The
reader does not decode values but goes through the text, so the statements of the printed object
are what the proof is about.
-/

namespace ServingPreset

open Json (Value Form Statement FieldShape Shape Padded)

namespace Settings

/-- Settings with the defaults in place of those of the given names. -/
def withDefaults (settings : Settings) (removed : List String) : Settings where
  baseUrl := if "endpoint" ∈ removed then "https://huggingface.co" else settings.baseUrl
  tokenVariable := if "token_env" ∈ removed then "HF_TOKEN" else settings.tokenVariable
  timeoutSeconds := if "request_timeout_secs" ∈ removed then 30 else settings.timeoutSeconds
  userAgent := if "user_agent" ∈ removed then "presetgen/0.2.0" else settings.userAgent

/-! ### Fields -/

/-- The fields of a settings document and what they make of written values. -/
def fieldShapes : List (FieldShape Settings) :=
  [.storing "endpoint" Shape.text fun value settings => { settings with baseUrl := value },
    .storing "token_env" Shape.text fun value settings =>
      { settings with tokenVariable := value },
    .storing "request_timeout_secs" Shape.unsigned fun value settings =>
      { settings with timeoutSeconds := value },
    .storing "user_agent" Shape.text fun value settings => { settings with userAgent := value }]

/-- Settings documents. -/
def shape : Shape Settings :=
  .record fieldShapes {}

theorem ofBytes_documentBytes (document : Padded Form) :
    ofBytes (Json.documentBytes document) = shape.decode document.content :=
  Json.document_read shape document

theorem text_expects : Shape.text.Expects Form.text? :=
  fun _ => rfl

theorem unsigned_expects : Shape.unsigned.Expects Form.unsigned? :=
  fun _ => rfl

theorem decides_baseUrl :
    Json.Decides fieldShapes "endpoint" baseUrl fun form =>
      form.text?.getD "https://huggingface.co" where
  isField := by simp [fieldShapes, FieldShape.storing]
  stores := by
    simp only [fieldShapes, List.forall_mem_cons]
    exact ⟨Json.stores_storing text_expects fun _ _ => rfl,
      Json.stores_other (by decide) fun _ _ => rfl,
      Json.stores_other (by decide) fun _ _ => rfl,
      Json.stores_other (by decide) fun _ _ => rfl, by simp⟩

theorem decides_tokenVariable :
    Json.Decides fieldShapes "token_env" tokenVariable fun form =>
      form.text?.getD "HF_TOKEN" where
  isField := by simp [fieldShapes, FieldShape.storing]
  stores := by
    simp only [fieldShapes, List.forall_mem_cons]
    exact ⟨Json.stores_other (by decide) fun _ _ => rfl,
      Json.stores_storing text_expects fun _ _ => rfl,
      Json.stores_other (by decide) fun _ _ => rfl,
      Json.stores_other (by decide) fun _ _ => rfl, by simp⟩

theorem decides_timeoutSeconds :
    Json.Decides fieldShapes "request_timeout_secs" timeoutSeconds fun form =>
      form.unsigned?.getD 30 where
  isField := by simp [fieldShapes, FieldShape.storing]
  stores := by
    simp only [fieldShapes, List.forall_mem_cons]
    exact ⟨Json.stores_other (by decide) fun _ _ => rfl,
      Json.stores_other (by decide) fun _ _ => rfl,
      Json.stores_storing unsigned_expects fun _ _ => rfl,
      Json.stores_other (by decide) fun _ _ => rfl, by simp⟩

theorem decides_userAgent :
    Json.Decides fieldShapes "user_agent" userAgent fun form =>
      form.text?.getD "presetgen/0.2.0" where
  isField := by simp [fieldShapes, FieldShape.storing]
  stores := by
    simp only [fieldShapes, List.forall_mem_cons]
    exact ⟨Json.stores_other (by decide) fun _ _ => rfl,
      Json.stores_other (by decide) fun _ _ => rfl,
      Json.stores_other (by decide) fun _ _ => rfl,
      Json.stores_storing text_expects fun _ _ => rfl, by simp⟩

/-! ### What is left of a document -/

/-- The members of the document that states all settings. -/
def members (settings : Settings) : List (String × Value) :=
  [("endpoint", .string settings.baseUrl), ("token_env", .string settings.tokenVariable),
    ("request_timeout_secs", .ofUnsigned settings.timeoutSeconds),
    ("user_agent", .string settings.userAgent)]

theorem nodup_names (settings : Settings) : (settings.members.map (·.1)).Nodup := by
  simp [members]

theorem shape_decode_of_stated {form : Form} {statements : List Statement}
    {settings : Settings} (stated : form.statements? = some statements)
    (once : ∀ name, (statements.map (·.1)).count name ≤ 1)
    (baseUrl : Json.stated? "endpoint" "https://huggingface.co" Form.text? statements =
      some settings.baseUrl)
    (tokenVariable : Json.stated? "token_env" "HF_TOKEN" Form.text? statements =
      some settings.tokenVariable)
    (timeoutSeconds : Json.stated? "request_timeout_secs" 30 Form.unsigned? statements =
      some settings.timeoutSeconds)
    (userAgent : Json.stated? "user_agent" "presetgen/0.2.0" Form.text? statements =
      some settings.userAgent) :
    shape.decode form = .ok settings := by
  have suits : ∀ field ∈ fieldShapes, field.Suits statements := by
    simp only [fieldShapes, List.forall_mem_cons]
    exact ⟨FieldShape.suits_storing text_expects (once _) baseUrl,
      FieldShape.suits_storing text_expects (once _) tokenVariable,
      FieldShape.suits_storing unsigned_expects (once _) timeoutSeconds,
      FieldShape.suits_storing text_expects (once _) userAgent, by simp⟩
  rcases Json.exists_decodeRecord {} stated (fun field _ => once field.name) suits with
    ⟨read, decoded, parts⟩
  have url : read.baseUrl = settings.baseUrl := parts decides_baseUrl baseUrl
  have variableName : read.tokenVariable = settings.tokenVariable :=
    parts decides_tokenVariable tokenVariable
  have seconds : read.timeoutSeconds = settings.timeoutSeconds :=
    parts decides_timeoutSeconds timeoutSeconds
  have agent : read.userAgent = settings.userAgent := parts decides_userAgent userAgent
  have same : read = settings := by
    rcases settings with ⟨_, _, _, _⟩
    rcases read with ⟨_, _, _, _⟩
    cases url
    cases variableName
    cases seconds
    cases agent
    rfl
  rw [← same]
  exact decoded

/-- Settings are read back from the text of their document, and what is removed has its default. -/
theorem ofBytes_without (settings : Settings) (removed : List String) :
    ofBytes (Text.bytes (settings.toJson.without removed).render) =
      .ok (settings.withDefaults removed) := by
  have stated {Result : Type} (name : String) {value : Value} (default : Result)
      {read? : Form → Option Result} {result : Result}
      (present : (name, value) ∈ settings.members)
      (reads : read? (Form.ofValue value) = some result) :=
    Json.stated?_printedStatements settings.nodup_names removed default present reads
  rw [Json.bytes_render, ← Json.documentBytes_unpadded, ofBytes_documentBytes]
  refine shape_decode_of_stated (Json.statements?_ofValue _)
    (Json.count_printedStatements settings.nodup_names removed)
    (stated "endpoint" _ ?_ (Json.text?_ofValue _))
    (stated "token_env" _ ?_ (Json.text?_ofValue _))
    (stated "request_timeout_secs" _ ?_ (Json.unsigned?_ofValue _))
    (stated "user_agent" _ ?_ (Json.text?_ofValue _))
  all_goals simp [members]

end Settings

end ServingPreset
