import TrafficLens.Traffic.Field

/-!
# What a trace shows

`Trace.observations` lists every value that a trace carries, with the place where it stands:
query parameters, headers, and the leaves of the two bodies. A body is taken apart when it is
JSON: the path of a leaf joins the keys on the way with dots, and all items of an array share the
step `[]`. Empty arrays and objects are leaves too. A body that is no JSON is one observation at
the empty path, marked as malformed.
-/

namespace TrafficLens

/-- A value at a place of a trace. -/
structure Observation where
  sec : Section
  path : String
  value : Json
  /-- The body could not be read; the value is its text. -/
  malformed : Bool := false
deriving DecidableEq

namespace Observation

/-- The place of an observation, as fields have it. -/
def place (o : Observation) : Place := ⟨o.sec.name, o.path⟩

/-- The path of a member of an object at a path. -/
def memberPath (path key : String) : String := if path.isEmpty then key else path ++ "." ++ key

mutual

/-- The leaves of a body, with their paths. -/
def leaves (sec : Section) (path : String) : Json → List Observation
  | .object (m :: ms) => memberLeaves sec path (m :: ms)
  | .array (x :: xs) => itemLeaves sec (path ++ "[]") (x :: xs)
  | .object [] => [{ sec, path, value := .object [] }]
  | .array [] => [{ sec, path, value := .array [] }]
  | .null => [{ sec, path, value := .null }]
  | .bool b => [{ sec, path, value := .bool b }]
  | .number n => [{ sec, path, value := .number n }]
  | .string s => [{ sec, path, value := .string s }]
termination_by structural v => v

/-- The leaves of the members of an object. -/
def memberLeaves (sec : Section) (path : String) : List (String × Json) → List Observation
  | [] => []
  | (k, v) :: rest => leaves sec (memberPath path k) v ++ memberLeaves sec path rest
termination_by structural ms => ms

/-- The leaves of the items of an array. -/
def itemLeaves (sec : Section) (path : String) : List Json → List Observation
  | [] => []
  | v :: rest => leaves sec path v ++ itemLeaves sec path rest
termination_by structural xs => xs

end

/-- What a body shows. -/
def ofBody (sec : Section) (raw : String) : List Observation :=
  if raw.isEmpty then []
  else
    match Json.parse? raw with
    | some v => leaves sec "" v
    | none => [{ sec, path := "", value := .string raw, malformed := true }]

/-- What a parameter of the query shows. Its value is read as JSON, but not taken apart. -/
def ofParameter (p : Pair) : Observation :=
  { sec := .requestQuery, path := p.name, value := Json.ofTextOrString p.value }

/-- What a header shows. -/
def ofHeader (sec : Section) (p : Pair) : Observation :=
  { sec, path := p.name.toLower, value := .string p.value }

/-- The text in which sensitive data is looked for, if the value has one. -/
def text? (o : Observation) : Option String :=
  match o.value with
  | .string s => if s.isEmpty then none else some s
  | .number n => some n.toText
  | _ => none

end Observation

/-- Every value that a trace carries. -/
def Trace.observations (t : Trace) : List Observation :=
  t.requestParameters.map .ofParameter ++
    t.requestHeaders.map (.ofHeader .requestHeaders) ++
    Observation.ofBody .requestBody t.requestBody ++
    t.responseHeaders.map (.ofHeader .responseHeaders) ++
    Observation.ofBody .responseBody t.responseBody

end TrafficLens
