import TrafficLens.Json.Record
import TrafficLens.Schema.Basic

/-!
# Schemas as JSON

`Schema.toJson` writes the parts that a schema has, and no others; `Schema.ofJson?` reads them
back. Reading follows the rules of records: members that are no parts are ignored, `null` is an
absent part, and the list of the parts in the order type, nullable, items, properties,
alternatives is read as well.
-/

namespace TrafficLens.Schema

mutual

/-- The JSON form of a schema. -/
def toJson : Schema → Json
  | ⟨type, nullable, items, properties, oneOf⟩ =>
    .object
      ((match items with | none => [] | some s => [("items", toJson s)]) ++
        (match nullable with | none => [] | some b => [("nullable", .bool b)]) ++
        (match oneOf with | none => [] | some ss => [("oneOf", .array (listToJson ss))]) ++
        (match properties with
         | none => []
         | some ps => [("properties", .object (propertiesToJson ps))]) ++
        (match type with | none => [] | some t => [("type", .string t.name)]))
termination_by structural s => s

/-- The JSON forms of properties. -/
def propertiesToJson : List (String × Schema) → List (String × Json)
  | [] => []
  | (k, s) :: rest => (k, toJson s) :: propertiesToJson rest
termination_by structural ps => ps

/-- The JSON forms of a list of schemas. -/
def listToJson : List Schema → List Json
  | [] => []
  | s :: rest => toJson s :: listToJson rest
termination_by structural ss => ss

end

/-- The parts of a schema, in order. -/
inductive Part where
  | type | nullable | items | properties | oneOf
deriving DecidableEq

/-- The part that a member of an object is. -/
def Part.ofName? : String → Option Part
  | "type" => some .type
  | "nullable" => some .nullable
  | "items" => some .items
  | "properties" => some .properties
  | "oneOf" => some .oneOf
  | _ => none

/-- The parts that follow in the list form. -/
def Part.all : List Part := [.type, .nullable, .items, .properties, .oneOf]

mutual

/-- Read a schema. -/
def ofJson? : Json → Option Schema
  | .object ms => ofMembers? ms
  | .array xs => ofParts? Part.all xs
  | _ => none
termination_by structural v => v

/-- Read a part and add it to a schema; the schema has nothing there yet. -/
def addPart? (part : Part) (s : Schema) : Json → Option Schema
  | .null => some s
  | .bool b => if part = .nullable then some { s with nullable := some b } else none
  | .number _ => none
  | .string name =>
    if part = .type then (DataType.ofName? name).map fun t => { s with type := some t } else none
  | .array xs =>
    match part with
    | .items => (ofParts? Part.all xs).map fun x => { s with items := some x }
    | .oneOf => (listOfJson? xs).map fun ss => { s with oneOf := some ss }
    | _ => none
  | .object ms =>
    match part with
    | .type => (Json.asName? DataType.ofName? (.object ms)).map fun t => { s with type := some t }
    | .items => (ofMembers? ms).map fun x => { s with items := some x }
    | .properties => (propertiesOfJson? ms).map fun ps => { s with properties := some ps }
    | _ => none
termination_by structural v => v

/-- Read the members of a schema. -/
def ofMembers? : List (String × Json) → Option Schema
  | [] => some empty
  | (k, v) :: rest =>
    match Part.ofName? k with
    | none => ofMembers? rest
    | some part => (ofMembers? rest).bind fun s => addPart? part s v
termination_by structural ms => ms

/-- Read the list form of a schema. -/
def ofParts? (parts : List Part) : List Json → Option Schema
  | [] => some empty
  | v :: rest =>
    match parts with
    | [] => none
    | part :: parts => (ofParts? parts rest).bind fun s => addPart? part s v
termination_by structural xs => xs

/-- Read a list of schemas. -/
def listOfJson? : List Json → Option (List Schema)
  | [] => some []
  | v :: rest => (ofJson? v).bind fun s => (listOfJson? rest).map (s :: ·)
termination_by structural xs => xs

/-- Read properties. -/
def propertiesOfJson? : List (String × Json) → Option (List (String × Schema))
  | [] => some []
  | (k, v) :: rest =>
    (ofJson? v).bind fun s => (propertiesOfJson? rest).map ((k, s) :: ·)
termination_by structural ms => ms

end

end TrafficLens.Schema
