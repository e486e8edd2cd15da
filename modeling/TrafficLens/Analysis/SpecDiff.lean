import TrafficLens.Path.Basic
import TrafficLens.Text.Blank
import TrafficLens.Traffic.Trace
import TrafficLens.Schema.Merge

/-!
# Traffic that a document does not describe

`SpecDiff.diff` compares a trace with an OpenAPI document: it lists the operation, the query
parameters, the status and the properties of bodies that the traffic shows and the document does
not describe. The list is in order and free of repetitions.

Local references (`$ref`) are followed for at most `maxReferences` steps. A path of the document
describes a template if it has as many segments, the same literal ones, and placeholders where the
template has them; the names of placeholders do not matter. An object schema without properties
describes every object.
-/

namespace TrafficLens

/-- What the document does not describe. -/
inductive SpecDiffKind where
  | operation | queryParameter | requestProperty | status | responseProperty
deriving DecidableEq, Repr

namespace SpecDiffKind

/-- The name of a kind. -/
def name : SpecDiffKind → String
  | .operation => "undocumented_operation"
  | .queryParameter => "undocumented_query_parameter"
  | .requestProperty => "undocumented_request_property"
  | .status => "undocumented_status"
  | .responseProperty => "undocumented_response_property"

/-- The place of a kind in the order of kinds. -/
def rank : SpecDiffKind → Nat
  | .operation => 0
  | .queryParameter => 1
  | .requestProperty => 2
  | .status => 3
  | .responseProperty => 4

/-- The kind in words. -/
def title : SpecDiffKind → String
  | .operation => "Operation not documented"
  | .queryParameter => "Query parameter not documented"
  | .requestProperty => "Request body property not documented"
  | .status => "Response status not documented"
  | .responseProperty => "Response body property not documented"

instance : Ord SpecDiffKind := ⟨fun a b => compare a.rank b.rank⟩

end SpecDiffKind

/-- Something that the document does not describe, and where it stands in the traffic. -/
structure SpecDiff where
  kind : SpecDiffKind
  location : String
deriving DecidableEq, Repr

namespace SpecDiff

instance : Ord SpecDiff where
  compare a b := (compare a.kind b.kind).then (compare a.location b.location)

/-- The identity of a difference. -/
def key (d : SpecDiff) : String := d.kind.name ++ ":" ++ d.location

/-- A difference in words. -/
def text (d : SpecDiff) : String := d.kind.title ++ ": " ++ d.location

/-! ## References -/

/-- The steps that are followed from a reference to the next. -/
def maxReferences : Nat := 32

/-- A step of a pointer with its escapes undone. -/
def unescapeStep : List Char → List Char
  | '~' :: '1' :: r => '/' :: unescapeStep r
  | '~' :: '0' :: r => '~' :: unescapeStep r
  | c :: r => c :: unescapeStep r
  | [] => []

/-- The index that a step names: digits without a sign and without a leading zero. -/
def index? (step : String) : Option Nat :=
  match step.toList with
  | [] => none
  | ['0'] => some 0
  | '0' :: _ => none
  | ds => if ds.all Char.isDigit then some (ds.foldl (fun n c => n * 10 + (c.toNat - 48)) 0) else none

/-- Follow the steps of a pointer. -/
def follow : Json → List String → Option Json
  | v, [] => some v
  | .object members, step :: rest =>
    match Dict.find? step members with
    | some v => follow v rest
    | none => none
  | .array items, step :: rest =>
    match (index? step).bind fun i => items[i]? with
    | some v => follow v rest
    | none => none
  | _, _ :: _ => none

/-- The value that a pointer names: the empty pointer names the document, and every other one
begins with a slash. -/
def pointer? (doc : Json) (pointer : List Char) : Option Json :=
  match pointer with
  | [] => some doc
  | '/' :: rest =>
    follow doc ((Text.pieces '/' rest).map fun p => String.ofList (unescapeStep p))
  | _ => none

/-- Follow local references from a node, at most so many. -/
def resolveWithin (doc : Json) : (steps : Nat) → Json → Json
  | 0, node => node
  | steps + 1, node =>
    match (node.member? "$ref").bind Json.string? with
    | none => node
    | some reference =>
      match reference.toList with
      | '#' :: pointer =>
        match pointer? doc pointer with
        | some target => resolveWithin doc steps target
        | none => node
      | _ => node

/-- The node behind the references of a node. -/
def resolve (doc node : Json) : Json := resolveWithin doc maxReferences node

/-! ## Looking up -/

/-- Do two paths have the same shape? -/
def sameShape (a b : List String) : Bool :=
  a.length == b.length &&
    (a.zip b).all fun s => (Path.isPlaceholder s.1 && Path.isPlaceholder s.2) || s.1 == s.2

/-- The path item and the operation of a method on a template. -/
def findOperation (doc : Json) (path method : String) : Option (Json × Json) := do
  let paths ← (doc.member? "paths").bind Json.members?
  paths.findSome? fun e =>
    if sameShape (Path.segments e.1) (Path.segments path) then
      let item := resolve doc e.2
      (item.member? method.toLower).map fun operation => (item, operation)
    else none

/-- The names of the query parameters that a path item or an operation describes. -/
def queryNames (doc node : Json) : List String :=
  (((node.member? "parameters").bind Json.items?).getD []).filterMap fun p =>
    let p := resolve doc p
    if (p.member? "in").bind Json.string? = some "query" then
      (p.member? "name").bind Json.string?
    else none

/-- The media type that a content type begins with. -/
def mediaType (contentType : String) : String :=
  Text.trim (String.ofList (contentType.toList.takeWhile (· ≠ ';')))

/-- The schema of a body among the media types of its content: that of the content type, else that
of all types, else the first one. -/
def mediaSchema? (doc content : Json) (contentType : Option String) : Option Json := do
  let members ← content.members?
  let wanted := (contentType.map mediaType).getD "*/*"
  let media ←
    ((Dict.find? wanted members).or (Dict.find? "*/*" members)).or (members.head?.map Prod.snd)
  (media.member? "schema").map (resolve doc)

/-! ## Comparing -/

mutual

/-- The places of a body whose properties the schema does not describe. -/
def undescribed (doc schema : Json) (location : String) : Json → List String
  | .object members =>
    match ((resolve doc schema).member? "properties").bind Json.members? with
    | none => []
    | some properties => undescribedMembers doc properties location members
  | .array items =>
    match (resolve doc schema).member? "items" with
    | none => []
    | some itemSchema => undescribedItems doc itemSchema (location ++ "[]") items
  | _ => []
termination_by structural v => v

/-- The places of the members of an object that its properties do not describe. -/
def undescribedMembers (doc : Json) (properties : List (String × Json)) (location : String) :
    List (String × Json) → List String
  | [] => []
  | (key, v) :: rest =>
    (match Dict.find? key properties with
      | some schema => undescribed doc schema (location ++ "." ++ key) v
      | none => [location ++ "." ++ key]) ++
      undescribedMembers doc properties location rest
termination_by structural ms => ms

/-- The places of the items of an array that the schema of items does not describe. -/
def undescribedItems (doc schema : Json) (location : String) : List Json → List String
  | [] => []
  | v :: rest => undescribed doc schema location v ++ undescribedItems doc schema location rest
termination_by structural xs => xs

end

/-- The differences of a body from the schema for its content type. -/
def bodyDiffs (doc : Json) (content : Option Json) (contentType : Option String) (raw : String)
    (location : String) (kind : SpecDiffKind) : List SpecDiff :=
  if raw.isEmpty then []
  else
    match content.bind fun c => mediaSchema? doc c contentType with
    | none => []
    | some schema =>
      (undescribed doc schema location (Json.ofTextOrString raw)).map fun l => ⟨kind, l⟩

/-- The differences of the query parameters. -/
def parameterDiffs (doc item operation : Json) (trace : Trace) : List SpecDiff :=
  let known := queryNames doc item ++ queryNames doc operation
  (trace.requestParameters.filter fun p => !known.contains p.name).map fun p =>
    ⟨.queryParameter, "query." ++ p.name⟩

/-- The differences of the request body. -/
def requestDiffs (doc operation : Json) (trace : Trace) : List SpecDiff :=
  let content := ((operation.member? "requestBody").map (resolve doc)).bind (Json.member? "content")
  bodyDiffs doc content trace.requestContentType trace.requestBody "req.body" .requestProperty

/-- The differences of the response. -/
def responseDiffs (doc operation : Json) (trace : Trace) : List SpecDiff :=
  let status := toString trace.responseStatus
  let responses := ((operation.member? "responses").bind Json.members?).getD []
  match (Dict.find? status responses).or (Dict.find? "default" responses) with
  | none => [⟨.status, "status." ++ status⟩]
  | some response =>
    bodyDiffs doc ((resolve doc response).member? "content") trace.responseContentType
      trace.responseBody ("res.body." ++ status) .responseProperty

/-- What a trace of a method on a template shows and the document does not describe. -/
def diff (doc : Json) (path method : String) (trace : Trace) : List SpecDiff :=
  match findOperation doc path method with
  | none => [⟨.operation, method.toUpper ++ " " ++ path⟩]
  | some (item, operation) =>
    sortDistinct
      (parameterDiffs doc item operation trace ++ requestDiffs doc operation trace ++
        responseDiffs doc operation trace)

end SpecDiff

end TrafficLens
