import SqlPlan.Proofs.Json.Members
import SqlPlan.Proofs.Json.Settled
import SqlPlan.Settings.Loader

/-!
# SqlPlan — layers of settings

Every setting has a default, a document may hold another value of it, and a variable of
the environment counts before both. Loading goes about it in one piece: the defaults are
written as a document, the two documents are merged and read as one record, and only then
do the variables come in. What is said here is said field by field:

* `Fits` — what a document may hold under the known names;
* `Layered` — the value of each field, by its variable, the document and the default;
* `overlay?_obj_eq_some_iff` — the settings of a document, where no variable is set;
* `Layered.override`, `override_override` — variables are laid over them, and once is
  enough.

What stands under any other name in the document is never looked at, and neither is the
format of the text.
-/

namespace SqlPlan.Settings

-- ---------------------------------------------------------------------------
-- Layers
-- ---------------------------------------------------------------------------

section Layers

variable {α : Type}

/-- What stands under a name, if anything does, is a value of the type that `write` puts
into documents. -/
def IsOf (write : α → Json) (held : Option Json) : Prop :=
  ∀ j, held = some j → ∃ v, j = write v

/-- The value is what a variable says or, where none says anything, what a document holds
or else the default. -/
def Layer (said : Option α) (write : α → Json) (held : Option Json) (default value : α) : Prop :=
  match said with
  | some v => value = v
  | none => write value = held.getD (write default)

/-- Without a variable, a field has a value exactly if what the document holds
there is of its kind. -/
theorem exists_layer_iff {write : α → Json} {held : Option Json} {default : α} :
    (∃ value, Layer none write held default value) ↔ IsOf write held := by
  cases held with
  | none => exact ⟨fun _ _ h => (nomatch h), fun _ => ⟨default, rfl⟩⟩
  | some j =>
    constructor
    · rintro ⟨v, hValue⟩ k hk
      exact ⟨v, (Option.some.inj hk).symm.trans hValue.symm⟩
    · intro h
      obtain ⟨v, hValue⟩ := h j rfl
      exact ⟨v, hValue.symm⟩

/-- A variable that is set counts alone. -/
theorem Layer.override {write : α → Json} {held : Option Json} {default value : α}
    (h : Layer none write held default value) (said : Option α) :
    Layer said write held default (said.getD value) := by
  cases said with
  | none => exact h
  | some v => rfl

end Layers

/-- The document holds a value of its type under each known name that it has. A null is a
value of none of these types. -/
structure Fits (ms : Document.Members) : Prop where
  debug : IsOf Json.bool (ms.list.lookup "debug")
  logLevel : IsOf Json.str (ms.list.lookup "log_level")
  dialect : IsOf Json.str (ms.list.lookup "dialect")
  separator : IsOf Json.str (ms.list.lookup "column_alias_separator")
  strict : IsOf Json.bool (ms.list.lookup "strict_parameter_check")
  extra : IsOf Json.obj (ms.list.lookup "extra")

/-- The settings are those of the variables over those of the document over the defaults,
field by field. No variable says anything about what an application keeps there. -/
structure Layered (env : Environment) (ms : Document.Members) (s : Settings) : Prop where
  debug : Layer ((env .debug).map fun text => decide (Text.lowercase text ∈ ["true", "1", "yes"]))
    .bool (ms.list.lookup "debug") true s.debug
  logLevel : Layer (env .logLevel) .str (ms.list.lookup "log_level") "info" s.logLevel
  dialect : Layer ((env .dialect).map fun text => Text.lowercase (Text.trim text)) .str
    (ms.list.lookup "dialect") "sqlite" s.dialect
  separator : Layer (env .separator) .str (ms.list.lookup "column_alias_separator") "_"
    s.separator
  strict : Layer ((env .strict).map fun text => decide (Text.lowercase text ∈ ["true", "1", "yes"]))
    .bool (ms.list.lookup "strict_parameter_check") false s.strict
  extra : Layer none .obj (ms.list.lookup "extra") [] s.extra.list

/-- No variable is set. -/
def noVariables : Environment := fun _ => none

-- ---------------------------------------------------------------------------
-- Merged over the defaults
-- ---------------------------------------------------------------------------

/-- The members of the default settings. -/
def defaults : List (String × Json) :=
  [("column_alias_separator", .str "_"), ("debug", .bool true), ("dialect", .str "sqlite"),
    ("extra", .obj []), ("log_level", .str "info"), ("strict_parameter_check", .bool false)]

theorem json_toDocument_default : (toDocument {}).json = .obj defaults := rfl

/-- What a merged document holds under a name, where nothing of the default is left once
another value is laid over it. -/
theorem lookup_overlaid (ms : Document.Members) {name : String} {default : Json}
    (hDefault : defaults.lookup name = some default)
    (hMerge : ∀ j, ms.list.lookup name = some j → default.merge j = j) :
    (Json.mergeMembers defaults ms.list).lookup name =
      some ((ms.list.lookup name).getD default) := by
  rw [Json.lookup_mergeMembers ms.ascending, hDefault]
  cases h : ms.list.lookup name with
  | none => rfl
  | some j => exact congrArg some (hMerge j h)

/-- What a document holds or a default is settled. -/
theorem settled_getD (ms : Document.Members) (name : String) {default : Json}
    (h : default.Settled) : ((ms.list.lookup name).getD default).Settled := by
  cases hHeld : ms.list.lookup name with
  | none => exact h
  | some j => exact Json.settled_of_lookup ms.settled hHeld

/-- A merged document is a record, of the members it has. -/
theorem record?_overlaid (ms : Document.Members) :
    ((toDocument {}).merge (.obj ms)).json.record? fields =
      some (Json.mergeMembers defaults ms.list) := by
  have hJson : ((toDocument {}).merge (.obj ms)).json =
      .obj (Json.mergeMembers defaults ms.list) := by
    show (toDocument {}).json.merge (.obj ms.list) = _
    rw [json_toDocument_default, Json.merge]
  have hSettled := ((toDocument {}).merge (.obj ms)).settled
  rw [hJson] at hSettled ⊢
  exact Json.fields?_of_nodup hSettled.1.nodup fields

-- ---------------------------------------------------------------------------
-- Fields of a merged document
-- ---------------------------------------------------------------------------

theorem bool?_eq_some_iff {j : Json} {b : Bool} : j.bool? = some b ↔ .bool b = j := by
  cases j <;> simp [Json.bool?, eq_comm]

theorem string?_eq_some_iff {j : Json} {s : String} : j.string? = some s ↔ .str s = j := by
  cases j <;> simp [Json.string?, eq_comm]

/-- The extra fields are those of an object, all of them. -/
theorem extra?_eq_some_iff {j : Json} {os : Document.Members} (h : j.Settled) :
    extra? j = some os ↔ .obj os.list = j := by
  have hDocument : Document.ofJson? j = some ⟨j, h⟩ := Document.ofJson?_json ⟨j, h⟩
  rw [extra?, hDocument]
  cases j with
  | obj list =>
    show some (Document.Members.mk list h.1 h.2) = some os ↔ _
    rw [Option.some.injEq, Json.obj.injEq]
    constructor
    · rintro rfl
      rfl
    · rintro rfl
      rfl
  | _ => exact ⟨fun hNone => (nomatch hNone), fun hOther => (nomatch hOther)⟩

/-- A field of a merged document is its value in the document or else its default. -/
theorem required?_overlaid_eq_some_iff {α : Type} (ms : Document.Members) {name : String}
    {read : Json → Option α} (write : α → Json) (default : α) {value : α}
    (hDefault : defaults.lookup name = some (write default))
    (hSettled : (write default).Settled)
    (hMerge : ∀ j, ms.list.lookup name = some j → (write default).merge j = j)
    (hRead : ∀ j : Json, j.Settled → (read j = some value ↔ write value = j)) :
    Json.required? (Json.mergeMembers defaults ms.list) name read = some value ↔
      Layer none write (ms.list.lookup name) default value := by
  rw [Json.required?, lookup_overlaid ms hDefault hMerge, Option.bind_some]
  exact hRead _ (settled_getD ms name hSettled)

/-- A flag of the merged document is that of the document, or else the default. -/
theorem overlaid_bool (ms : Document.Members) {name : String} {default value : Bool}
    (hDefault : defaults.lookup name = some (.bool default)) :
    Json.required? (Json.mergeMembers defaults ms.list) name Json.bool? = some value ↔
      Layer none .bool (ms.list.lookup name) default value :=
  required?_overlaid_eq_some_iff ms .bool default hDefault trivial
    (fun j _ => Json.merge_of_ne_obj (by simp) j) fun _ _ => bool?_eq_some_iff

theorem overlaid_string (ms : Document.Members) {name : String} {default value : String}
    (hDefault : defaults.lookup name = some (.str default)) :
    Json.required? (Json.mergeMembers defaults ms.list) name Json.string? = some value ↔
      Layer none .str (ms.list.lookup name) default value :=
  required?_overlaid_eq_some_iff ms .str default hDefault trivial
    (fun j _ => Json.merge_of_ne_obj (by simp) j) fun _ _ => string?_eq_some_iff

/-- An object is laid over an empty one. -/
theorem overlaid_extra (ms : Document.Members) {os : Document.Members} :
    Json.required? (Json.mergeMembers defaults ms.list) "extra" extra? = some os ↔
      Layer none .obj (ms.list.lookup "extra") [] os.list := by
  refine required?_overlaid_eq_some_iff ms (fun os : Document.Members => .obj os.list) .empty rfl
    ⟨.nil, trivial⟩ (fun j hj => ?_) fun _ => extra?_eq_some_iff
  have hSettled := Json.settled_of_lookup ms.settled hj
  cases j with
  | obj list =>
    show Json.obj (Json.mergeMembers [] list) = .obj list
    rw [Json.mergeMembers_nil hSettled.1 hSettled.2]
  | _ => rw [Json.merge]; simp

/-- A document gives the settings that it holds over the defaults. -/
theorem overlay?_obj_eq_some_iff {ms : Document.Members} {s : Settings} :
    overlay? (.obj ms) = some s ↔ Layered noVariables ms s := by
  rw [overlay?, ofDocument?, record?_overlaid]
  simp only [Option.bind_eq_bind, Option.bind_some, Option.bind_eq_some_iff, Option.some.injEq]
  constructor
  · rintro ⟨debug, hDebug, logLevel, hLogLevel, dialect, hDialect, separator, hSeparator, strict,
      hStrict, extra, hExtra, rfl⟩
    exact {
      debug := (overlaid_bool ms rfl).mp hDebug
      logLevel := (overlaid_string ms rfl).mp hLogLevel
      dialect := (overlaid_string ms rfl).mp hDialect
      separator := (overlaid_string ms rfl).mp hSeparator
      strict := (overlaid_bool ms rfl).mp hStrict
      extra := (overlaid_extra ms).mp hExtra }
  · intro h
    exact ⟨s.debug, (overlaid_bool ms rfl).mpr h.debug,
      s.logLevel, (overlaid_string ms rfl).mpr h.logLevel,
      s.dialect, (overlaid_string ms rfl).mpr h.dialect,
      s.separator, (overlaid_string ms rfl).mpr h.separator,
      s.strict, (overlaid_bool ms rfl).mpr h.strict,
      s.extra, (overlaid_extra ms).mpr h.extra, rfl⟩

-- ---------------------------------------------------------------------------
-- Layers of a document
-- ---------------------------------------------------------------------------

/-- A document whose values have their types gives settings, and no other does. -/
theorem exists_layered_iff {ms : Document.Members} :
    (∃ s, Layered noVariables ms s) ↔ Fits ms := by
  constructor
  · rintro ⟨s, h⟩
    exact {
      debug := exists_layer_iff.mp ⟨_, h.debug⟩
      logLevel := exists_layer_iff.mp ⟨_, h.logLevel⟩
      dialect := exists_layer_iff.mp ⟨_, h.dialect⟩
      separator := exists_layer_iff.mp ⟨_, h.separator⟩
      strict := exists_layer_iff.mp ⟨_, h.strict⟩
      extra := exists_layer_iff.mp ⟨_, h.extra⟩ }
  · intro h
    obtain ⟨debug, hDebug⟩ := exists_layer_iff.mpr h.debug
    obtain ⟨logLevel, hLogLevel⟩ := exists_layer_iff.mpr h.logLevel
    obtain ⟨dialect, hDialect⟩ := exists_layer_iff.mpr h.dialect
    obtain ⟨separator, hSeparator⟩ := exists_layer_iff.mpr h.separator
    obtain ⟨strict, hStrict⟩ := exists_layer_iff.mpr h.strict
    obtain ⟨os, hExtra⟩ := exists_layer_iff.mpr h.extra
    -- the object stands in a document, or there is none
    have hSettled : Json.Settled (.obj os) := by
      rw [show Json.obj os = _ from hExtra]
      exact settled_getD ms "extra" ⟨.nil, trivial⟩
    exact ⟨⟨debug, logLevel, dialect, separator, strict, ⟨os, hSettled.1, hSettled.2⟩⟩,
      hDebug, hLogLevel, hDialect, hSeparator, hStrict, hExtra⟩

/-- Only what stands under the known names counts. -/
theorem Layered.of_lookup_eq {env : Environment} {ms ns : Document.Members} {s : Settings}
    (hSame : ∀ name ∈ fields, ns.list.lookup name = ms.list.lookup name)
    (h : Layered env ns s) : Layered env ms s where
  debug := hSame "debug" (by simp [fields]) ▸ h.debug
  logLevel := hSame "log_level" (by simp [fields]) ▸ h.logLevel
  dialect := hSame "dialect" (by simp [fields]) ▸ h.dialect
  separator := hSame "column_alias_separator" (by simp [fields]) ▸ h.separator
  strict := hSame "strict_parameter_check" (by simp [fields]) ▸ h.strict
  extra := hSame "extra" (by simp [fields]) ▸ h.extra

-- ---------------------------------------------------------------------------
-- Layers of the environment
-- ---------------------------------------------------------------------------

/-- A text is a yes if it is one of three, in capitals or not. Any other is a no. -/
theorem isYes_iff {text : String} :
    isYes text = true ↔ Text.lowercase text ∈ ["true", "1", "yes"] :=
  decide_eq_true_iff

theorem isYes_eq : isYes = fun text => decide (Text.lowercase text ∈ ["true", "1", "yes"]) := by
  funext text
  rw [Bool.eq_iff_iff, isYes_iff, decide_eq_true_iff]

/-- Variables are laid over the settings of a document. -/
theorem Layered.override {ms : Document.Members} {s : Settings} (h : Layered noVariables ms s)
    (env : Environment) : Layered env ms (s.override env) where
  debug := isYes_eq ▸ Layer.override h.debug _
  logLevel := Layer.override h.logLevel _
  dialect := Layer.override h.dialect _
  separator := Layer.override h.separator _
  strict := isYes_eq ▸ Layer.override h.strict _
  extra := h.extra

theorem getD_getD {α : Type} (said : Option α) (value : α) :
    said.getD (said.getD value) = said.getD value := by
  cases said <;> rfl

/-- Settings under an environment are the same under it once more. -/
theorem override_override (env : Environment) (s : Settings) :
    (s.override env).override env = s.override env := by
  simp only [override, getD_getD]

-- ---------------------------------------------------------------------------
-- Loading
-- ---------------------------------------------------------------------------

/-- The settings that are read from a text whose document is an object. -/
theorem read_eq_ok_iff {format : Format} {text : String} {ms : Document.Members} {s : Settings}
    (h : format.document? text = some (.obj ms)) :
    format.read text = .ok s ↔ Layered noVariables ms s := by
  rw [← overlay?_obj_eq_some_iff, Format.read]
  simp only [h]
  cases overlay? (.obj ms) with
  | none => simp
  | some found => simp

/-- The settings of a file are those of its text, in the format that its name suggests, under
the environment. -/
theorem load_of_ok {files : Files} {path text : String} (h : files path = .ok text)
    (env : Environment) :
    load files env path = ((Format.ofPath path).read text).map (override env) := by
  have hFile : (Format.ofPath path).load files path = (Format.ofPath path).read text := by
    rw [Format.load, h]
  rw [load, hFile]
  cases (Format.ofPath path).read text <;> rfl

/--
**Each layer of settings counts before those below it.** A text whose document is an
object is read exactly if each known name it has holds a value of its type. Each setting
is then what its variable says or, where that is not set, what the document holds under
its name, or else the default; the variables count once, and an application finds there
what it has kept. Whatever else the document holds changes nothing, nor does the format of
the text: where two documents hold the same under the known names, both texts give the
same settings or none.
-/
theorem load_layers {format : Format} {text : String} {ms : Document.Members}
    (hDocument : format.document? text = some (.obj ms)) :
    ((∃ s, format.read text = .ok s) ↔ Fits ms) ∧
    (∀ env s, format.read text = .ok s →
      Layered env ms (s.override env) ∧ (s.override env).override env = s.override env) ∧
    (∀ files env path, files path = .ok text → Format.ofPath path = format →
      load files env path = (format.read text).map (override env)) ∧
    ∀ other otherText ns, Format.document? other otherText = some (.obj ns) →
      (∀ name ∈ fields, ns.list.lookup name = ms.list.lookup name) →
        ∀ s, other.read otherText = .ok s ↔ format.read text = .ok s := by
  refine ⟨?_, fun env s hRead => ⟨?_, override_override env s⟩,
    fun files env path hText hFormat => ?_, fun other otherText ns hOther hSame s => ?_⟩
  · simp only [read_eq_ok_iff hDocument, exists_layered_iff]
  · exact ((read_eq_ok_iff hDocument).mp hRead).override env
  · rw [load_of_ok hText, hFormat]
  -- a reading asks for the known names only, in either format
  · have hBack : ∀ name ∈ fields, ms.list.lookup name = ns.list.lookup name :=
      fun name hName => (hSame name hName).symm
    rw [read_eq_ok_iff hOther, read_eq_ok_iff hDocument]
    exact ⟨Layered.of_lookup_eq hSame, Layered.of_lookup_eq hBack⟩

/-- The members of a document that leaves most settings out and holds something else. -/
def fewMembers : Document.Members :=
  .ofList [("dialect", .str "mysql"), ("colour", .null),
    ("extra", .obj (.ofList [("rows", .int 50)]))]

def fewText : String :=
  "\x7b\"colour\":null,\"dialect\":\"mysql\",\"extra\":\x7b\"rows\":50\x7d\x7d"

/-- A dialect that is not written as such, a yes in capitals, and what is logged. -/
def fewVariables : Environment
  | .dialect => some " PostgreSQL "
  | .logLevel => some "debug"
  | .strict => some "YES"
  | _ => none

/-- A document with one field and an unknown key: a variable overrides that field,
others set two of those left out. -/
theorem load_layers_few :
    Format.json.document? fewText = some (.obj fewMembers) ∧
      ∃ s, Format.json.read fewText = .ok s ∧
        Layered fewVariables fewMembers (s.override fewVariables) ∧
        (s.override fewVariables).dialect = "postgresql" ∧
        (s.override fewVariables).strict = true := by
  have hText : fewText = (Document.obj fewMembers).text := by decide +kernel
  have hDocument : Format.json.document? fewText = some (.obj fewMembers) := by
    rw [hText]
    exact Document.parse?_text (fun x hx => nomatch hx) (by decide)
  have hList : fewMembers.list =
      [("colour", .null), ("dialect", .str "mysql"), ("extra", .obj [("rows", .int 50)])] := rfl
  have hFits : Fits fewMembers := by
    constructor
    all_goals
      intro j hj
      simp [hList, List.lookup_cons] at hj
    · exact ⟨"mysql", hj.symm⟩
    · exact ⟨[("rows", .int 50)], hj.symm⟩
  obtain ⟨s, hRead⟩ := (load_layers hDocument).1.mpr hFits
  have hLayered := ((load_layers hDocument).2.1 fewVariables s hRead).1
  have hName : Text.lowercase (Text.trim " PostgreSQL ") = "postgresql" := by decide +kernel
  have hYes : decide (Text.lowercase "YES" ∈ ["true", "1", "yes"]) = true := by decide +kernel
  exact ⟨hDocument, s, hRead, hLayered, hLayered.dialect.trans hName, hLayered.strict.trans hYes⟩

end SqlPlan.Settings
