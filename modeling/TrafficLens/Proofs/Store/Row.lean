import TrafficLens.Proofs.Schema.Codec
import TrafficLens.Proofs.Traffic.Queue
import TrafficLens.Store.Row

/-!
# Rows of fields

A field is stored as a row that has a column for each of its parts, and what the database answers to
a query for fields are such rows. Whatever the fields hold, what is read out of their rows is the
fields (`Command.read_loadFields`), with their schemas.
-/

namespace TrafficLens

namespace Row

variable {α : Type} {row : Row} {name : String} {v : Json} {read : Json → Option α} {a : α}

theorem value?_of_find? (hfind : Dict.find? name row = some v) (hnull : v ≠ .null) :
    row.value? name = some v := by
  rw [value?, hfind]
  cases v with
  | null => exact absurd rfl hnull
  | _ => rfl

theorem read_of_find? (hfind : Dict.find? name row = some v) (hnull : v ≠ .null)
    (hread : read v = some a) : row.read name read = .ok a := by
  rw [Row.read, readAs, value?_of_find? hfind hnull, Option.bind_some, hread]

/-- A column that is left empty is read as absent. -/
theorem readOptional_of_find? {write : α → Json} {o : Option α}
    (hfind : Dict.find? name row = some (Statement.opt write o)) (hnull : ∀ a, write a ≠ .null)
    (hread : ∀ a, read (write a) = some a) : row.readOptional name read = .ok o := by
  cases o with
  | none =>
    have hvalue : row.value? name = none := by
      rw [value?, hfind]
      rfl
    rw [readOptional, hvalue]
  | some a =>
    rw [readOptional, value?_of_find? hfind (hnull a)]
    exact congrArg (Except.map some) (read_of_find? hfind (hnull a) (hread a))

end Row

namespace Field

/-- Samples are read as they were written. -/
theorem samplesOfJson?_samplesToJson (samples : List (String × List String)) :
    samplesOfJson? (samplesToJson samples) = some samples := by
  have htexts : ∀ texts, Json.asList? Json.asString? (Json.strings texts) = some texts :=
    Json.asList?_map Json.asString?_string
  rw [samplesOfJson?, samplesToJson, Json.asMap?, List.mapM_map]
  induction samples with
  | nil => rfl
  | cons e samples ih => simp [List.mapM_cons, htexts, ih]

/-- The row that is stored for a field: the values of the statement that stores it, in the columns
of a field. -/
def row (t : Tenant) (f : Field) : Row :=
  fieldNames.zip ((Command.upsertField f).statement t).values

/-- **A row is read as the field that it was stored for.** -/
theorem ofRow_row (t : Tenant) (f : Field) : ofRow (f.row t) = .ok f := by
  have htext : ∀ name {s}, Dict.find? name (f.row t) = some (.string s) →
      (f.row t).read name Json.asString? = .ok s := fun _ _ hfind =>
    Row.read_of_find? hfind nofun (Json.asString?_string _)
  have htexts : ∀ name {ss}, Dict.find? name (f.row t) = some (Json.strings ss) →
      (f.row t).read name (Json.asList? Json.asString?) = .ok ss := fun _ _ hfind =>
    Row.read_of_find? hfind nofun (Json.asList?_map Json.asString?_string _)
  have huuid : ∀ name {u : Uuid}, Dict.find? name (f.row t) = some u.toJson →
      (f.row t).read name Uuid.ofJson? = .ok u := fun _ _ hfind =>
    Row.read_of_find? hfind nofun (Uuid.ofJson?_toJson _)
  have htag : (f.row t).readOptional "data_tag" Json.asString? = .ok f.tag :=
    Row.readOptional_of_find? rfl (fun _ => nofun) Json.asString?_string
  have hsamples : (f.row t).read "matches" samplesOfJson? = .ok f.samples :=
    Row.read_of_find? rfl nofun (samplesOfJson?_samplesToJson _)
  have hschema : (f.row t).read "schema" Schema.ofJson? = .ok f.schema := by
    refine Row.read_of_find? rfl ?_ (Schema.ofJson?_toJson f.schema)
    rw [Schema.toJson_eq]
    exact nofun
  simp only [ofRow, huuid "id" rfl, htext "data_section" rfl, htext "data_path" rfl,
    huuid "endpoint_id" rfl, htext "data_type" rfl, htag, htexts "data_classes" rfl,
    htexts "scanner_identified" rfl, htexts "false_positives" rfl, hsamples, hschema]
  rfl

end Field

/-- Fields that were stored are what a query for fields answers. -/
theorem Command.read_loadFields (t : Tenant) (endpointId : Uuid) (fields : List Field) :
    Command.read { rows := fields.map (Field.row t) } (.loadFields endpointId) = .ok fields := by
  have hall : (fields.map (Field.row t)).mapM Field.ofRow = .ok fields := by
    induction fields with
    | nil => rfl
    | cons f fields ih =>
      rw [List.map_cons, List.mapM_cons, Field.ofRow_row, ih]
      rfl
  exact hall

end TrafficLens
