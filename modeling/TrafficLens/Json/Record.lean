import TrafficLens.Json.Basic

/-!
# Reading records out of JSON

A record is written as an object with a member for each field. It may also be written as the array
of its fields in the order of their declaration; then fields may be missing at the end. Members
that are no fields are ignored.

A field is *required*, or has a *default*, or is *optional*. A default is taken when the field is
missing, while `null` counts as a value of the wrong kind. An optional field is absent when it is
missing or `null`; in the array form it may be missing only if it is also declared with a default.
-/

namespace TrafficLens.Json

/-- The fields of a record, with their names. -/
structure Record where
  entries : List (String × Json)
  /-- Was the record written as an array? -/
  listed : Bool

namespace Record

/-- The fields of a record with the given field names. -/
def ofJson? (names : List String) : Json → Option Record
  | .object members => some ⟨members, false⟩
  | .array items => if items.length ≤ names.length then some ⟨names.zip items, true⟩ else none
  | _ => none

/-- The value of a field. -/
def get? (r : Record) (name : String) : Option Json := Dict.find? name r.entries

variable {α : Type}

/-- Read a field that must be there. -/
def required (r : Record) (name : String) (read : Json → Option α) : Option α :=
  (r.get? name).bind read

/-- Read a field that has a default. -/
def withDefault (r : Record) (name : String) (read : Json → Option α) (default : α) : Option α :=
  match r.get? name with
  | none => some default
  | some v => read v

/-- Read an optional value. -/
def orAbsent (read : Json → Option α) : Json → Option (Option α)
  | .null => some none
  | v => (read v).map some

/-- Read an optional field. -/
def optional (r : Record) (name : String) (read : Json → Option α) : Option (Option α) :=
  match r.get? name with
  | none => if r.listed then none else some none
  | some v => orAbsent read v

/-- Read an optional field that is also declared with a default. -/
def optionalDefault (r : Record) (name : String) (read : Json → Option α) : Option (Option α) :=
  r.withDefault name (orAbsent read) none

end Record

/-- Read an integer between two bounds. -/
def asInt? (least greatest : Int) : Json → Option Int
  | .number (.int n) => if least ≤ n ∧ n ≤ greatest then some n else none
  | _ => none

/-- Read an integer with a sign that fits in so many bits. -/
def asSigned? (bits : Nat) : Json → Option Int := asInt? (-(Nat.pow 2 (bits - 1) : Int)) (Nat.pow 2 (bits - 1) - 1 : Int)

/-- Read a natural that fits in so many bits. -/
def asUnsigned? (bits : Nat) (v : Json) : Option Nat :=
  (asInt? 0 (Nat.pow 2 bits - 1 : Int) v).map Int.toNat

/-- Read a truth value. -/
def asBool? : Json → Option Bool
  | .bool b => some b
  | _ => none

/-- Read a text. -/
def asString? : Json → Option String
  | .string s => some s
  | _ => none

/-- Read a list. -/
def asList? {α : Type} (read : Json → Option α) : Json → Option (List α)
  | .array items => items.mapM read
  | _ => none

/-- Read a map from texts. -/
def asMap? {α : Type} (read : Json → Option α) : Json → Option (List (String × α))
  | .object members => members.mapM fun m => (read m.2).map fun v => (m.1, v)
  | _ => none

/-- Read one of several names: as a text, or as an object with that only member, which is `null`. -/
def asName? {α : Type} (ofName? : String → Option α) : Json → Option α
  | .string s => ofName? s
  | .object [(s, .null)] => ofName? s
  | _ => none

end TrafficLens.Json
