import Mathlib.Data.List.Perm.Basic
import QueryArtifacts.Artifact.Datasource
import QueryArtifacts.Parameter.Basic

/-!
# Records of definitions

A definition that is written as a JSON record is read back from it, whatever order the members of
the record are kept in.  The one exception is the default of a parameter: an object that stands for
a date or a time is read as the text of that date or time.

* `Json.SameMembers` — objects that differ in the order of their members at most.
* `written`, `exists_members` — fields of which some may be left out, and what is found under their
  names.
* `Column.ofRecord?_eq`, `Engine.ofRecord?_eq`, `Parameter.ofRecord?_eq` — what is read from the
  record of a definition.
* `records_read` — the definitions that are read back as they are.
-/

namespace QueryArtifacts

open RecordValue

/-! ## Members by name -/

/-- Objects with the same members, each in an order of its own. -/
inductive Json.SameMembers : Json → Json → Prop where
  | obj {members others : List (String × Json)} (hmembers : members.Perm others) :
      SameMembers (.obj members) (.obj others)

/-- The members of fields, without the fields that have no value. -/
def written (fields : List (String × Option Json)) : List (String × Json) :=
  fields.filterMap fun (name, value) => value.map fun value => (name, value)

theorem names_written (fields : List (String × Option Json)) :
    ((written fields).map Prod.fst).Sublist (fields.map Prod.fst) := by
  induction fields with
  | nil => exact List.Sublist.refl []
  | cons field rest ih =>
      obtain ⟨name, value⟩ := field
      cases value with
      | none => exact ih.cons name
      | some value => exact ih.cons_cons name

theorem mem_written_iff {fields : List (String × Option Json)} {name : String} {value : Json} :
    (name, value) ∈ written fields ↔ (name, some value) ∈ fields := by
  simp [written, List.mem_filterMap]

/-- If names are distinct, what is found under a name is what stands with it, in whatever order. -/
theorem lookup_eq_some_iff {α : Type} {members : List (String × α)}
    (hdistinct : (members.map Prod.fst).Nodup) {name : String} {value : α} :
    members.lookup name = some value ↔ (name, value) ∈ members := by
  let map : NameMap α := ⟨members, hdistinct⟩
  exact ⟨map.mem_toList_of_get?, map.get?_of_mem_toList⟩

/-- In a record that some fields give, each of them is found under its name, or left out. -/
theorem exists_members {record : Json} {fields : List (String × Option Json)}
    (hrecord : record.SameMembers (.obj (written fields)))
    (hdistinct : (fields.map Prod.fst).Nodup) :
    ∃ members, record = .obj members ∧ ∀ field ∈ fields, members.lookup field.1 = field.2 := by
  rcases hrecord with @⟨members, -, hmembers⟩
  have hnames : (members.map Prod.fst).Nodup :=
    (hmembers.map Prod.fst).nodup_iff.mpr (hdistinct.sublist (names_written fields))
  refine ⟨members, rfl, fun field hfield => Option.ext fun value => ?_⟩
  have hfound : fields.lookup field.1 = some field.2 := (lookup_eq_some_iff hdistinct).mpr hfield
  rw [lookup_eq_some_iff hnames, hmembers.mem_iff, mem_written_iff, ← lookup_eq_some_iff hdistinct,
    hfound, Option.some.injEq]

/-! ## Fields -/

section Fields

variable {fields : List (String × Json)} {name : String}

theorem required?_of_some {β : Type} {value : Json} (hfield : fields.lookup name = some value)
    (read? : Json → Option β) : required? fields name read? = read? value := by
  rw [required?, hfield, Option.bind_some]

theorem optional?_of_some {β : Type} {value : Json} (hfield : fields.lookup name = some value)
    (default : β) (read? : Json → Option β) :
    optional? fields name default read? = read? value := by
  rw [optional?, hfield]

theorem optional?_text {text : Option String} (hfield : fields.lookup name = text.map .str) :
    optional? fields name none (orAbsent? string?) = some text := by
  rw [optional?, hfield]
  cases text <;> rfl

/-- An array of texts, or nothing if there are none. -/
def textsField (texts : List String) : Option Json :=
  if texts.isEmpty then none else some (.arr (texts.map .str))

theorem strings?_arr (texts : List String) :
    strings? (Json.arr (texts.map .str)) = some texts := by
  change (texts.map Json.str).mapM Json.string? = some texts
  induction texts with
  | nil => rfl
  | cons text rest ih =>
      rw [List.map_cons, List.mapM_cons, ih]
      rfl

theorem optional?_texts {texts : List String} (hfield : fields.lookup name = textsField texts) :
    optional? fields name [] strings? = some texts := by
  rw [optional?, hfield]
  cases texts with
  | nil => rfl
  | cons text rest => exact strings?_arr (text :: rest)

end Fields

/-! ## Definitions -/

namespace Column

theorem toJson_eq (column : Column) :
    column.toJson = .obj (written [("type", some (.str column.type)),
      ("json_path", column.jsonPath.map .str), ("nullable", some (.bool column.nullable)),
      ("comment", column.comment.map .str)]) := by
  obtain ⟨type, jsonPath, nullable, comment⟩ := column
  cases jsonPath <;> cases comment <;> rfl

/-- A column is read from its record. -/
theorem ofRecord?_eq {column : Column} {record : Json}
    (hrecord : record.SameMembers column.toJson) : ofRecord? record = some column := by
  rw [toJson_eq] at hrecord
  obtain ⟨members, rfl, hfields⟩ := exists_members hrecord (by simp)
  simp only [List.forall_mem_cons] at hfields
  obtain ⟨htype, hpath, hnullable, hcomment, -⟩ := hfields
  have hrecord : RecordValue.fields? ["type", "json_path", "nullable", "comment"]
      (Json.obj members) = some members := rfl
  rw [ofRecord?, hrecord, Option.bind_eq_bind, Option.bind_some, required?_of_some htype,
    optional?_text hpath, optional?_of_some hnullable, optional?_text hcomment]
  rfl

end Column

namespace Engine

theorem toJson_eq (engine : Engine) :
    engine.toJson = .obj (written [("kind", some (.str engine.kind)),
      ("sorting_key", textsField engine.sortingKey),
      ("partition_by", engine.partitionBy.map .str), ("ttl", engine.ttl.map .str),
      ("ver", engine.version.map .str)]) := by
  obtain ⟨kind, sortingKey, partitionBy, ttl, version⟩ := engine
  cases sortingKey <;> cases partitionBy <;> cases ttl <;> cases version <;> rfl

/-- An engine is read from its record. -/
theorem ofRecord?_eq {engine : Engine} {record : Json}
    (hrecord : record.SameMembers engine.toJson) : ofRecord? record = some engine := by
  rw [toJson_eq] at hrecord
  obtain ⟨members, rfl, hfields⟩ := exists_members hrecord (by simp)
  simp only [List.forall_mem_cons] at hfields
  obtain ⟨hkind, hsortingKey, hpartitionBy, httl, hversion, -⟩ := hfields
  have hrecord : RecordValue.fields? ["kind", "sorting_key", "partition_by", "ttl", "ver"]
      (Json.obj members) = some members := rfl
  rw [ofRecord?, hrecord, Option.bind_eq_bind, Option.bind_some, optional?_of_some hkind,
    optional?_texts hsortingKey, optional?_text hpartitionBy, optional?_text httl,
    optional?_text hversion]
  rfl

end Engine

namespace Parameter

theorem toJson_eq (parameter : Parameter) :
    parameter.toJson = .obj (written [("type", some (.str parameter.type.name)),
      ("required", some (.bool parameter.required)), ("default", parameter.default),
      ("enum", textsField parameter.allowed),
      ("description", parameter.description.map .str)]) := by
  obtain ⟨type, required, default, allowed, description⟩ := parameter
  cases default <;> cases allowed <;> cases description <;> rfl

/-- A parameter is read from its record, but for a default that stands for a date or a time. -/
theorem ofRecord?_eq {parameter : Parameter} {record : Json}
    (hrecord : record.SameMembers parameter.toJson) :
    ofRecord? record =
      some { parameter with default := parameter.default.map unwrapDatetime } := by
  rw [toJson_eq] at hrecord
  obtain ⟨members, rfl, hfields⟩ := exists_members hrecord (by simp)
  simp only [List.forall_mem_cons] at hfields
  obtain ⟨htype, hrequired, hdefault, hallowed, hdescription, -⟩ := hfields
  have hrecord : RecordValue.fields? ["type", "required", "default", "enum", "description"]
      (Json.obj members) = some members := rfl
  have hname : ParameterType.ofRecord? (Json.str parameter.type.name) = some parameter.type :=
    ParameterType.ofName?_eq_some_iff.mpr rfl
  have hvalue : optional? members "default" none (fun value =>
      (RecordValue.free? value).map fun free => some (unwrapDatetime free)) =
        some (parameter.default.map unwrapDatetime) := by
    rw [optional?, hdefault]
    cases parameter.default <;> rfl
  rw [ofRecord?, hrecord, Option.bind_eq_bind, Option.bind_some, required?_of_some htype, hname,
    optional?_of_some hrequired, hvalue, optional?_texts hallowed, optional?_text hdescription]
  rfl

theorem unwrapDatetime_ofDatetime (text : String) :
    unwrapDatetime (.ofDatetime text) = .str text := by
  rw [Json.ofDatetime, unwrapDatetime, if_pos rfl]

/-- Only a value that stands for a date or a time is read as another one. -/
theorem unwrapDatetime_eq_self_iff {value : Json} :
    unwrapDatetime value = value ↔ ∀ text, value ≠ .ofDatetime text := by
  constructor
  · rintro hself text rfl
    rw [unwrapDatetime_ofDatetime] at hself
    cases hself
  · intro hvalue
    fun_cases unwrapDatetime value with
    | case1 text => exact absurd rfl (hvalue text)
    | case2 => rfl
    | case3 => rfl

theorem map_unwrapDatetime_eq_self_iff {default : Option Json} :
    default.map unwrapDatetime = default ↔ ∀ text, default ≠ some (.ofDatetime text) := by
  cases default with
  | none => simp
  | some value => simp [unwrapDatetime_eq_self_iff]

/-- Defaults that are easily taken for one another, or for none. -/
def emptyDefaults : List (Option Json) :=
  [none, some .null, some (.bool false), some (.int 0), some (.str "")]

theorem nodup_emptyDefaults : emptyDefaults.Nodup := by
  simp [emptyDefaults]

theorem ne_ofDatetime_of_mem_emptyDefaults {default : Option Json}
    (hdefault : default ∈ emptyDefaults) (text : String) : default ≠ some (.ofDatetime text) := by
  rintro rfl
  simp [emptyDefaults, Json.ofDatetime] at hdefault

end Parameter

/-- **Definitions are read back from their records.**  Every column and every engine is read from
its record as it was, in whatever order the members of the record stand.  A parameter is so exactly
if its default is not an object that stands for a date or a time; in any case it is read as one of
the same type in placeholders that may be missing or not as before.  The absent default, `null`,
false, zero and the empty text are all told apart. -/
theorem records_read :
    (∀ (column : Column) (record : Json), record.SameMembers column.toJson →
      Column.ofRecord? record = some column) ∧
    (∀ (engine : Engine) (record : Json), record.SameMembers engine.toJson →
      Engine.ofRecord? record = some engine) ∧
    (∀ (parameter : Parameter) (record : Json), record.SameMembers parameter.toJson →
      (Parameter.ofRecord? record = some parameter ↔
        ∀ text, parameter.default ≠ some (.ofDatetime text)) ∧
      ∃ read : Parameter, Parameter.ofRecord? record = some read ∧
        read.isConditional = parameter.isConditional ∧ read.tokenType = parameter.tokenType) ∧
    (∀ parameter : Parameter, ∀ default ∈ Parameter.emptyDefaults, ∀ record : Json,
      record.SameMembers (Parameter.toJson { parameter with default }) →
        Parameter.ofRecord? record = some { parameter with default }) ∧
    Parameter.emptyDefaults.Nodup := by
  have hread {parameter : Parameter} {record : Json}
      (hrecord : record.SameMembers parameter.toJson) :
      Parameter.ofRecord? record = some parameter ↔
        ∀ text, parameter.default ≠ some (.ofDatetime text) := by
    rw [Parameter.ofRecord?_eq hrecord, ← Parameter.map_unwrapDatetime_eq_self_iff,
      Option.some.injEq]
    exact ⟨congrArg Parameter.default, fun hdefault => by rw [hdefault]⟩
  refine ⟨fun column record => Column.ofRecord?_eq, fun engine record => Engine.ofRecord?_eq,
    fun parameter record hrecord => ⟨hread hrecord, _, Parameter.ofRecord?_eq hrecord, ?_, rfl⟩,
    fun parameter default hdefault record hrecord => ?_, Parameter.nodup_emptyDefaults⟩
  · simp only [Parameter.isConditional, Option.isNone_map]
  · exact (hread hrecord).mpr (Parameter.ne_ofDatetime_of_mem_emptyDefaults hdefault)

/-- The record of a parameter with a default, its members in the order of their names. -/
def defaultRecord (default : Json) : Json :=
  .obj [("default", default), ("required", .bool false), ("type", .str "Date")]

theorem sameMembers_defaultRecord (default : Json) :
    (defaultRecord default).SameMembers
      (Parameter.toJson { type := .date, default := some default }) :=
  .obj (List.reverse_perm [_, _, _])

/-- Definitions with empty texts, and parameters whose defaults are objects with one member, of
which one stands for a date. -/
theorem records_read_reordered :
    Column.ofRecord? (Json.obj [("comment", .str ""), ("nullable", .bool false),
      ("type", .str "Date")]) = some { type := "Date", comment := some "" } ∧
    Engine.ofRecord? (Json.obj [("ttl", .str ""), ("kind", .str "")]) =
      some { kind := "", ttl := some "" } ∧
    Parameter.ofRecord? (defaultRecord (.obj [(Json.datetimeMember, .null)])) =
      some { type := .date, default := some (.obj [(Json.datetimeMember, .null)]) } ∧
    Parameter.ofRecord? (defaultRecord (.ofDatetime "2024-01-01")) ≠
      some { type := .date, default := some (.ofDatetime "2024-01-01") } ∧
    Parameter.ofRecord? (defaultRecord .null) = some { type := .date, default := some .null } := by
  obtain ⟨hcolumn, hengine, hparameter, hempty, -⟩ := records_read
  refine ⟨hcolumn _ _ (.obj (List.reverse_perm [_, _, _])),
    hengine _ _ (.obj (List.reverse_perm [_, _])),
    (hparameter _ _ (sameMembers_defaultRecord _)).1.mpr ?_, fun hread => ?_,
    hempty { type := .date } (some .null) ?_ _ (sameMembers_defaultRecord .null)⟩
  · simp [Json.ofDatetime]
  · exact (hparameter _ _ (sameMembers_defaultRecord _)).1.mp hread _ rfl
  · simp [Parameter.emptyDefaults]

end QueryArtifacts
