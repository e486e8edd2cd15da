import TrafficLens.Schema.Basic

/-!
# Folding values into schemas

`Schema.merge` widens a schema just enough to describe one more value. Properties are only ever
added, `integer` widens to `number`, `null` turns `nullable` on, and a type that does not go
together with the one that is there makes both into alternatives (`oneOf`). A value that the schema
has absorbed before leaves it as it is.

The recursion is on the value. A schema with alternatives passes the value on to the first
alternative whose type goes together with it (`routeTo`), and gets a new alternative if there is
none.
-/

namespace TrafficLens.Schema

/-- The schema after a `null`. -/
def mergeNull (s : Schema) : Schema :=
  if s.isEmpty then { type := some .unknown, nullable := some true }
  else { s with nullable := some true }

/-- The schema after data of no recognizable shape: only a schema that says nothing changes. -/
def mergeUnknown (s : Schema) : Schema :=
  if s.isEmpty then { type := some .unknown } else s

/-- Does a schema of this type take values of the type `observed`? A schema without a type takes
none. -/
def takes (observed : DataType) (s : Schema) : Bool := (s.type.bind (·.join observed)).isSome

mutual

/-- Change the place in a schema that takes values of the type `observed`: the schema itself if it
has no alternatives, else the first alternative that takes them, or a new one. -/
def routeTo (observed : DataType) (change : Schema → Schema) : Schema → Schema
  | ⟨type, nullable, items, properties, oneOf⟩ =>
    match oneOf with
    | some alternatives =>
      ⟨type, nullable, items, properties, some (routeList observed change alternatives)⟩
    | none => change ⟨type, nullable, items, properties, none⟩
termination_by structural s => s

/-- Change the first of the alternatives that takes values of the type `observed`, or add one. -/
def routeList (observed : DataType) (change : Schema → Schema) : List Schema → List Schema
  | [] => [change empty]
  | s :: rest =>
    if s.takes observed then routeTo observed change s :: rest
    else s :: routeList observed change rest
termination_by structural ss => ss

end

/-- Change a schema without alternatives for a value of the type `observed`. `widen` gets the
joined type and does the change when the types go together; if not, the schema and what `widen`
makes of the empty schema become alternatives. -/
def joinAt (observed : DataType) (widen : DataType → Schema → Schema) (s : Schema) : Schema :=
  match (match s.type with | none => some observed | some t => t.join observed) with
  | some t => widen t s
  | none => { oneOf := some [{ s with nullable := none }, widen observed empty],
              nullable := s.nullable }

/-- The schema after a value that has no parts. -/
def mergeScalar (observed : DataType) (s : Schema) : Schema :=
  routeTo observed (joinAt observed fun t s => { s with type := some t }) s

mutual

/-- The schema after one more value. -/
def merge (s : Schema) : Json → Schema
  | .null => mergeNull s
  | .bool _ => mergeScalar .boolean s
  | .number (.int _) => mergeScalar .integer s
  | .number (.float _) => mergeScalar .number s
  | .string _ => mergeScalar .string s
  | .array xs =>
    routeTo .array (joinAt .array fun _ s =>
      { s with type := some .array, items := some (mergeItems (s.items.getD empty) xs),
               oneOf := none }) s
  | .object ms =>
    routeTo .object (joinAt .object fun _ s =>
      { s with type := some .object,
               properties := some (mergeMembers (s.properties.getD []) ms),
               oneOf := none }) s
termination_by structural v => v

/-- The schema of items after some more of them. -/
def mergeItems (s : Schema) : List Json → Schema
  | [] => s
  | x :: xs => mergeItems (merge s x) xs
termination_by structural xs => xs

/-- The properties after some more members. -/
def mergeMembers (ps : List (String × Schema)) : List (String × Json) → List (String × Schema)
  | [] => ps
  | (k, x) :: ms => mergeMembers (Dict.alter k (fun s => merge (s.getD empty) x) ps) ms
termination_by structural ms => ms

end

/-- The schema of a list of values. -/
def ofValues (values : List Json) : Schema := values.foldl merge empty

end TrafficLens.Schema

namespace TrafficLens.Json

/-- Read a text as JSON; a text that is no JSON is taken for a string. -/
def ofTextOrString (raw : String) : Json := (parse? raw).getD (.string raw)

end TrafficLens.Json
