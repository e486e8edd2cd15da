import TrafficLens.Json.Parser

/-!
# Schemas of observed values

A `Schema` says which JSON values have been seen at a place, in the vocabulary of OpenAPI: the type
of the value, whether it may be `null`, the properties of an object, the items of an array, and
alternatives for places that have carried types that do not go together. All parts are optional,
and the schema without parts says nothing.

`Schema.accepts` is the meaning of a schema. `TrafficLens.Schema.Merge` folds values into schemas.
-/

namespace TrafficLens

/-- The type of a value. `unknown` is the type of data without a recognizable shape, and of `null`. -/
inductive DataType where
  | string | integer | number | boolean | object | array | unknown
deriving DecidableEq, Repr, Inhabited

namespace DataType

/-- The type of a JSON value. -/
def of : Json → DataType
  | .null => .unknown
  | .bool _ => .boolean
  | .number (.int _) => .integer
  | .number (.float _) => .number
  | .string _ => .string
  | .array _ => .array
  | .object _ => .object

/-- The name of a type. -/
def name : DataType → String
  | .string => "string"
  | .integer => "integer"
  | .number => "number"
  | .boolean => "boolean"
  | .object => "object"
  | .array => "array"
  | .unknown => "unknown"

/-- The type with a name. -/
def ofName? : String → Option DataType
  | "string" => some .string
  | "integer" => some .integer
  | "number" => some .number
  | "boolean" => some .boolean
  | "object" => some .object
  | "array" => some .array
  | "unknown" => some .unknown
  | _ => none

/-- The narrowest type that covers both, if there is one: integers are numbers, and everything
covers the unknown type. -/
def join (a b : DataType) : Option DataType :=
  if a = b then some a
  else
    match a, b with
    | .integer, .number => some .number
    | .number, .integer => some .number
    | .unknown, t => some t
    | t, .unknown => some t
    | _, _ => none

end DataType

/-- What is known about the values at a place. -/
structure Schema where
  type : Option DataType := none
  nullable : Option Bool := none
  items : Option Schema := none
  properties : Option (List (String × Schema)) := none
  oneOf : Option (List Schema) := none
deriving Inhabited

namespace Schema

/-! ## Equality -/

mutual

/-- Compare two schemas. -/
def same : Schema → Schema → Bool
  | ⟨t, n, items, props, alts⟩, b =>
    decide (t = b.type) && decide (n = b.nullable) &&
      (match items, b.items with
       | none, none => true
       | some x, some y => same x y
       | _, _ => false) &&
      (match props, b.properties with
       | none, none => true
       | some x, some y => sameProperties x y
       | _, _ => false) &&
      (match alts, b.oneOf with
       | none, none => true
       | some x, some y => sameList x y
       | _, _ => false)
termination_by structural a => a

/-- Compare two lists of properties. -/
def sameProperties : List (String × Schema) → List (String × Schema) → Bool
  | [], ys => ys.isEmpty
  | (k, x) :: xs, ys =>
    match ys with
    | [] => false
    | (l, y) :: ys => decide (k = l) && same x y && sameProperties xs ys
termination_by structural a => a

/-- Compare two lists of schemas. -/
def sameList : List Schema → List Schema → Bool
  | [], ys => ys.isEmpty
  | x :: xs, ys => match ys with | [] => false | y :: ys => same x y && sameList xs ys
termination_by structural a => a

end

mutual

theorem same_iff : (a b : Schema) → (same a b = true ↔ a = b)
  | ⟨t, n, none, none, none⟩, ⟨_, _, i, p, o⟩ => by
    cases i <;> cases p <;> cases o <;> simp [same]
  | ⟨t, n, some x, none, none⟩, ⟨_, _, i, p, o⟩ => by
    cases i <;> cases p <;> cases o <;> simp [same, same_iff x, and_assoc]
  | ⟨t, n, none, some xs, none⟩, ⟨_, _, i, p, o⟩ => by
    cases i <;> cases p <;> cases o <;> simp [same, sameProperties_iff xs, and_assoc]
  | ⟨t, n, some x, some xs, none⟩, ⟨_, _, i, p, o⟩ => by
    cases i <;> cases p <;> cases o <;> simp [same, same_iff x, sameProperties_iff xs, and_assoc]
  | ⟨t, n, none, none, some ys⟩, ⟨_, _, i, p, o⟩ => by
    cases i <;> cases p <;> cases o <;> simp [same, sameList_iff ys, and_assoc]
  | ⟨t, n, some x, none, some ys⟩, ⟨_, _, i, p, o⟩ => by
    cases i <;> cases p <;> cases o <;> simp [same, same_iff x, sameList_iff ys, and_assoc]
  | ⟨t, n, none, some xs, some ys⟩, ⟨_, _, i, p, o⟩ => by
    cases i <;> cases p <;> cases o <;>
      simp [same, sameProperties_iff xs, sameList_iff ys, and_assoc]
  | ⟨t, n, some x, some xs, some ys⟩, ⟨_, _, i, p, o⟩ => by
    cases i <;> cases p <;> cases o <;>
      simp [same, same_iff x, sameProperties_iff xs, sameList_iff ys, and_assoc]

theorem sameProperties_iff :
    (xs ys : List (String × Schema)) → (sameProperties xs ys = true ↔ xs = ys)
  | [], ys => by cases ys <;> simp [sameProperties]
  | (k, x) :: xs, ys => by
    cases ys with
    | nil => simp [sameProperties]
    | cons y ys =>
      obtain ⟨l, y⟩ := y
      simp [sameProperties, same_iff x, sameProperties_iff xs]

theorem sameList_iff : (xs ys : List Schema) → (sameList xs ys = true ↔ xs = ys)
  | [], ys => by cases ys <;> simp [sameList]
  | x :: xs, ys => by cases ys <;> simp [sameList, same_iff x, sameList_iff xs]

end

instance : DecidableEq Schema := fun a b => decidable_of_iff (same a b = true) (same_iff a b)

/-! ## Meaning -/

/-- The schema that says nothing. -/
def empty : Schema := {}

/-- Does the schema say nothing? Properties and items without a type count for nothing. -/
def isEmpty (s : Schema) : Bool := s.type.isNone && s.oneOf.isNone && s.nullable.isNone

/-- The type that is reported for a place: its only type, or `unknown`. -/
def primaryType (s : Schema) : DataType :=
  match s.type, s.oneOf with
  | some t, none => t
  | _, _ => .unknown

mutual

/-- Does the schema describe the value? A schema that says nothing describes every value. -/
def accepts : Schema → Json → Bool
  | ⟨type, nullable, items, properties, oneOf⟩, value =>
    if type.isNone && oneOf.isNone && nullable.isNone then true
    else if value.isNull then nullable == some true || type == some .unknown
    else
      match oneOf with
      | some alternatives => anyAccepts alternatives value
      | none =>
        match type with
        | some .object =>
          match value with
          | .object members =>
            match properties with
            | some ps => members.all fun m => propertyAccepts ps m.1 m.2
            | none => members.isEmpty
          | _ => false
        | some .array =>
          match value with
          | .array xs =>
            match items with
            | some s => xs.all fun x => accepts s x
            | none => true
          | _ => false
        | some .number => DataType.of value == .number || DataType.of value == .integer
        | some t => t == DataType.of value
        | none => false
termination_by structural s => s

/-- Is there a property of this name, and does its schema describe the value? -/
def propertyAccepts : List (String × Schema) → String → Json → Bool
  | [], _, _ => false
  | (k, s) :: rest, key, value =>
    if k = key then accepts s value else propertyAccepts rest key value
termination_by structural ps => ps

/-- Does one of the schemas describe the value? -/
def anyAccepts : List Schema → Json → Bool
  | [], _ => false
  | s :: rest, value => accepts s value || anyAccepts rest value
termination_by structural ss => ss

end

end Schema

end TrafficLens
