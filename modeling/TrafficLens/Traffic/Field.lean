import TrafficLens.Schema.Codec
import TrafficLens.Schema.Merge
import TrafficLens.Traffic.Trace

/-!
# Tracked fields

A `Field` is a place in the traffic of an endpoint where data was seen: a section of the exchange
and a path in it. It carries the schema of its values and the classes of sensitive data that were
found there, with a few samples of each. A class that a person has marked as a false positive stays
marked: it is not recorded at the field again, and it does not make the field sensitive.
-/

namespace TrafficLens

/-- The sections of an exchange that carry data. -/
inductive Section where
  | requestQuery | requestHeaders | requestBody | responseHeaders | responseBody
deriving DecidableEq, Repr, Inhabited

namespace Section

/-- The name of a section. -/
def name : Section → String
  | .requestQuery => "req.params"
  | .requestHeaders => "req.headers"
  | .requestBody => "req.body"
  | .responseHeaders => "res.headers"
  | .responseBody => "res.body"

/-- The place of a section in the order of sections. -/
def rank : Section → Nat
  | .requestQuery => 0
  | .requestHeaders => 1
  | .requestBody => 2
  | .responseHeaders => 3
  | .responseBody => 4

instance : Ord Section := ⟨fun a b => compare a.rank b.rank⟩

/-- Is the section part of the response? -/
def isResponse : Section → Bool
  | .responseHeaders => true
  | .responseBody => true
  | _ => false

end Section

/-- A place in the traffic of an endpoint: a section, by its name, and a path in it. Places are
ordered by section name and then by path. -/
structure Place where
  sectionName : String
  path : String
deriving DecidableEq, Repr, Inhabited

instance : Ord Place where
  compare a b := (compare a.sectionName b.sectionName).then (compare a.path b.path)

/-- The tag of fields that carry sensitive data. -/
def sensitiveTag : String := "PII"

/-- A place in the traffic of an endpoint. -/
structure Field where
  id : Uuid
  sectionName : String
  path : String
  endpointId : Uuid
  dataType : String := DataType.unknown.name
  tag : Option String := none
  /-- The classes that were found here and are not false positives. -/
  classes : List String := []
  /-- All classes that the scanner has ever found here. -/
  identified : List String := []
  /-- The classes that a person has marked as wrong here. -/
  falsePositives : List String := []
  /-- Samples of what was found, by class. -/
  samples : List (String × List String) := []
  schema : Schema := {}
deriving DecidableEq, Inhabited

namespace Field

/-- A field that was seen for the first time. -/
def new (id : Uuid) (sec : Section) (path : String) (endpointId : Uuid) : Field :=
  { id, sectionName := sec.name, path, endpointId }

/-- The place of the field: no two fields of an endpoint share it. -/
def place (f : Field) : Place := ⟨f.sectionName, f.path⟩

/-- Is there a class here that is not a false positive? -/
def isSensitive (f : Field) : Bool := f.classes.any fun c => !f.falsePositives.contains c

/-- The names of the fields, in the order of their declaration. -/
def fieldNames : List String :=
  ["id", "data_section", "data_path", "endpoint_id", "data_type", "data_tag", "data_classes",
   "scanner_identified", "false_positives", "matches", "schema"]

/-- The JSON form of the samples. -/
def samplesToJson (samples : List (String × List String)) : Json :=
  .object (samples.map fun e => (e.1, Json.strings e.2))

/-- Read samples. -/
def samplesOfJson? : Json → Option (List (String × List String)) :=
  Json.asMap? (Json.asList? Json.asString?)

/-- The JSON form of a field. -/
def toJson (f : Field) : Json :=
  .object
    [("data_classes", Json.strings f.classes),
     ("data_path", .string f.path),
     ("data_section", .string f.sectionName),
     ("data_tag", Json.orNull .string f.tag),
     ("data_type", .string f.dataType),
     ("endpoint_id", f.endpointId.toJson),
     ("false_positives", Json.strings f.falsePositives),
     ("id", f.id.toJson),
     ("matches", samplesToJson f.samples),
     ("scanner_identified", Json.strings f.identified),
     ("schema", f.schema.toJson)]

/-- Read a field. -/
def ofJson? (v : Json) : Option Field := do
  let r ← Json.Record.ofJson? fieldNames v
  let id ← r.required "id" Uuid.ofJson?
  let sectionName ← r.required "data_section" Json.asString?
  let path ← r.required "data_path" Json.asString?
  let endpointId ← r.required "endpoint_id" Uuid.ofJson?
  let dataType ← r.required "data_type" Json.asString?
  let tag ← r.optional "data_tag" Json.asString?
  let classes ← r.required "data_classes" (Json.asList? Json.asString?)
  let identified ← r.required "scanner_identified" (Json.asList? Json.asString?)
  let falsePositives ← r.required "false_positives" (Json.asList? Json.asString?)
  let samples ← r.required "matches" samplesOfJson?
  let schema ← r.required "schema" Schema.ofJson?
  pure
    { id, sectionName, path, endpointId, dataType, tag, classes, identified, falsePositives,
      samples, schema }

end Field

end TrafficLens
