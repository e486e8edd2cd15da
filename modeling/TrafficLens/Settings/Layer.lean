import TrafficLens.Json.Basic
import TrafficLens.Text.Lowercase
import TrafficLens.Text.Split

/-!
# Layers of settings

Settings come in layers: a file, and over it the variables of the environment. A `Layer` is a list
of named values, and a value is laid over what is there: tables are joined name by name, and
anything else takes the place of what was there. Names do not depend on case and are kept in lower
case. The name of a value may be a path with dots, which leads through tables.

A variable of the environment is a setting when its name begins with `variableStart`; in the rest
of its name two underscores stand for a dot.
-/

namespace TrafficLens.Settings

/-- Named values. -/
abbrev Layer : Type := List (String × Json)

mutual

/-- A value over an old one. -/
def layOver (old : Option Json) : Json → Json
  | .object members => membersOver (old.getD (.object [])) members
  | v => v
termination_by structural v => v

/-- Named values over the members of an old value; an old value without members is dropped. -/
def membersOver (old : Json) : List (String × Json) → Json
  | [] => old
  | (name, v) :: rest =>
    let members := old.members?.getD []
    let key := Text.lowercase name
    membersOver (.object (Dict.insert key (layOver (Dict.find? key members) v) members)) rest
termination_by structural members => members

end

/-- May the character stand in a path? -/
def isPathChar (c : Char) : Bool := c.isAlphanum || c == ' ' || c == '_' || c == '-'

/-- The names that a path leads through. What is no path is one name. -/
def pathOf (name : String) : List String :=
  let parts := Text.pieces '.' name.toList
  if parts.all fun p => !p.isEmpty && p.all isPathChar then parts.map String.ofList else [name]

/-- A value at the end of a path. -/
def atPath (v : Json) (path : List String) : Json :=
  path.foldr (fun name v => .object [(name, v)]) v

/-- Lay a layer over a value. -/
def overlay (old : Json) (layer : Layer) : Json :=
  layer.foldl (fun old e => layOver (some old) (atPath e.2 (pathOf e.1))) old

/-- The value of all layers, the lowest one first. -/
def ofLayers (layers : List Layer) : Json := layers.foldl overlay (.object [])

/-- The beginning of the names of variables that are settings. -/
def variableStart : String := "apiscope__"

/-- Every pair of underscores as a dot. -/
def dotted : List Char → List Char
  | '_' :: '_' :: rest => '.' :: dotted rest
  | c :: rest => c :: dotted rest
  | [] => []

/-- The setting that a variable of the environment gives. -/
def ofVariable? (name value : String) : Option (String × Json) :=
  (Text.dropStart? variableStart.toList (Text.lowercase name).toList).map fun rest =>
    (String.ofList (dotted rest), .string value)

/-- The layer of the environment. -/
def ofEnvironment (environment : List (String × String)) : Layer :=
  environment.filterMap fun v => ofVariable? v.1 v.2

end TrafficLens.Settings
