import TrafficLens.Json.Record
import TrafficLens.Path.Basic
import TrafficLens.Path.Identifier
import TrafficLens.Pattern.Basic

/-!
# Templates of paths

`infer` turns the path of one request into the template of all requests for the same kind of thing:
segments that look like identifiers become `{param1}`, `{param2}` and so on, and the pattern of the
template has `[^/]+` in their places. All other segments are literal. The pattern is anchored at both
ends and accepts any number of slashes at the end.

A path whose last segment is one of the GraphQL suffixes, whatever its case, is never taken apart: its
template is the path itself, without slashes at the end. The empty path has no template.
-/

namespace TrafficLens

/-- The template of a path. -/
structure PathTemplate where
  /-- The path with its placeholders. -/
  path : String
  /-- The text of a pattern that matches the paths of the template. -/
  pattern : String
  /-- The number of placeholders. -/
  paramCount : Nat
  isGraphql : Bool
deriving DecidableEq

namespace PathTemplate

/-- The pattern of one position that takes any segment. -/
def paramPattern : String := "[^/]+"

/-- The end of every pattern: any number of slashes, and nothing behind them. -/
def patternEnd : String := "(/)*$"

/-- The name of the placeholder with a number. -/
def placeholder (n : Nat) : String := "\x7bparam" ++ toString n ++ "\x7d"

/-- The JSON form of a template. -/
def toJson (t : PathTemplate) : Json :=
  .object
    [("is_graphql", .bool t.isGraphql), ("param_count", .nat t.paramCount),
     ("path", .string t.path), ("pattern", .string t.pattern)]

/-- Read a template. -/
def ofJson? (v : Json) : Option PathTemplate := do
  let r ← Json.Record.ofJson? ["path", "pattern", "param_count", "is_graphql"] v
  pure
    { path := ← r.required "path" Json.asString?
      pattern := ← r.required "pattern" Json.asString?
      paramCount := ← r.required "param_count" (Json.asUnsigned? 64)
      isGraphql := ← r.required "is_graphql" Json.asBool? }

end PathTemplate

namespace IdentifierPolicy

open PathTemplate

/-- Is the last segment of the path a GraphQL suffix? -/
def isGraphql (policy : IdentifierPolicy) (path : String) : Bool :=
  match (Path.segments path).getLast? with
  | some last => policy.graphqlSuffixes.any fun s => s.toLower == last.toLower
  | none => false

/-- The path and the pattern of a list of segments, each with its slash. `count` placeholders came
before; the last component counts those of the whole list. -/
def assemble (policy : IdentifierPolicy) : (count : Nat) → List String → String × String × Nat
  | count, [] => ("", "", count)
  | count, s :: rest =>
    if policy.isIdentifier s then
      let (path, pattern, total) := assemble policy (count + 1) rest
      ("/" ++ placeholder (count + 1) ++ path, "/" ++ paramPattern ++ pattern, total)
    else
      let (path, pattern, total) := assemble policy count rest
      ("/" ++ s ++ path, "/" ++ Pattern.escape s ++ pattern, total)

/-- The template of a GraphQL path. -/
def wholeTemplate (path : String) : PathTemplate :=
  let trimmed := String.ofList (Text.trimEndChar '/' path.toList)
  ⟨trimmed, "^" ++ Pattern.escape trimmed ++ patternEnd, 0, true⟩

/-- The template of a path that is taken apart. -/
def segmentTemplate (policy : IdentifierPolicy) (path : String) : PathTemplate :=
  match Path.segments path with
  | [] => ⟨"/", "^/" ++ patternEnd, 0, false⟩
  | segments =>
    let (path, pattern, count) := policy.assemble 0 segments
    ⟨path, "^" ++ pattern ++ patternEnd, count, false⟩

/-- The template of a path; the empty path has none. -/
def infer (policy : IdentifierPolicy) (path : String) : Option PathTemplate :=
  let path := Path.normalize path
  if path.isEmpty then none
  else if policy.isGraphql path then some (wholeTemplate path)
  else some (policy.segmentTemplate path)

end IdentifierPolicy

end TrafficLens
