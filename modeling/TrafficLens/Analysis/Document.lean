import TrafficLens.Schema.Codec
import TrafficLens.Schema.Merge
import TrafficLens.Text.Blank
import TrafficLens.Traffic.Endpoint

/-!
# Documents that are generated from traffic

A `Document` is an OpenAPI document with what the library knows about it. Documents for a host can
be generated: `Document.generated` is the empty one, and `mergeTrace` folds a trace of an endpoint
into the JSON tree of a document.

The tree is taken as it comes. A node that is missing, or is not an object where one is needed, is
replaced by an empty object. Every parameter, header and media type holds a schema, which absorbs
the values; a schema that cannot be read counts as empty. Parameters are told apart by name and
location, bodies by media type and responses by status.
-/

namespace TrafficLens

/-- A stored document. -/
structure Document where
  name : String
  spec : Json
  isGenerated : Bool
  hosts : List String
  extension : String
  updatedAt : Option Instant
deriving DecidableEq

namespace Document

/-- The name of the generated document of a host. -/
def generatedName (host : String) : String := host ++ "-generated"

/-- The generated document of a host before any trace. -/
def generated (host : String) : Document where
  name := generatedName host
  spec :=
    .object
      [("info", .object
          [("description", .string "An auto-generated OpenAPI 3.0 specification."),
           ("title", .string "OpenAPI 3.0 Spec"),
           ("version", .string "1.0.0")]),
       ("openapi", .string "3.0.0"),
       ("paths", .object []),
       ("servers", .array [.object [("url", .string host)]])]
  isGenerated := true
  hosts := [host]
  extension := "json"
  updatedAt := none

/-- The JSON form of a document. -/
def toJson (d : Document) : Json :=
  .object
    [("extension", .string d.extension),
     ("hosts", Json.strings d.hosts),
     ("is_auto_generated", .bool d.isGenerated),
     ("name", .string d.name),
     ("spec", d.spec),
     ("updated_at", Json.orNull Instant.toJson d.updatedAt)]

/-! ## Merging -/

/-- The members of an object. -/
abbrev Members : Type := List (String × Json)

/-- The members of a value that should be an object; nothing else has any. -/
def membersOf (v : Option Json) : Members := (v.bind Json.members?).getD []

/-- Change the object under a key, which is made first if there is none. -/
def inChild (key : String) (change : Members → Members) (members : Members) : Members :=
  Dict.alter key (fun old => .object (change (membersOf old))) members

/-- The media type of a content type, without parameters; any type if there is none. -/
def mediaType (contentType : Option String) : String :=
  match contentType with
  | none => "*/*"
  | some ct =>
    let name := Text.trim (String.ofList (ct.toList.takeWhile (· ≠ ';')))
    if name.isEmpty then "*/*" else name

/-- The schema that is written at a place. One that is missing or cannot be read says nothing. -/
def schemaOf (v : Option Json) : Schema := (v.bind Schema.ofJson?).getD Schema.empty

/-- Change the schema that a node holds. -/
def changeSchema (change : Schema → Schema) (holder : Members) : Members :=
  Dict.alter "schema" (fun old => (change (schemaOf old)).toJson) holder

/-- Let the schema of a node absorb a value. -/
def absorbValue (value : Json) : Members → Members := changeSchema (·.merge value)

/-- Let the schema of a node absorb a body. A body that is no JSON is data of no known shape. -/
def absorbBody (raw : String) : Members → Members :=
  changeSchema fun s =>
    match Json.parse? raw with
    | some v => s.merge v
    | none => s.mergeUnknown

/-- Is this the parameter with the name and the location? -/
def isParameter (name location : String) (p : Json) : Bool :=
  (p.member? "name").bind Json.string? == some name &&
    (p.member? "in").bind Json.string? == some location

/-- A parameter without a schema. -/
def newParameter (name location : String) : Members :=
  ("in", .string location) :: ("name", .string name) ::
    (if location = "path" then [("required", .bool true)] else [])

/-- Change the parameter with a name and a location. It is added at the end if there is none. -/
def changeParameter (name location : String) (change : Members → Members) : List Json → List Json
  | [] => [.object (change (newParameter name location))]
  | p :: rest =>
    if isParameter name location p then
      (match p with | .object members => .object (change members) | other => other) :: rest
    else p :: changeParameter name location change rest

/-- Merge a value of a parameter into an operation. -/
def mergeParameter (name location : String) (value : Json) (operation : Members) : Members :=
  Dict.alter "parameters"
    (fun old =>
      .array
        (changeParameter name location (absorbValue value) ((old.bind Json.items?).getD [])))
    operation

/-- The name of a placeholder, without its braces. -/
def slotName (slot : String) : String :=
  String.ofList (Text.trimEndChar '\x7d' (slot.toList.dropWhile (· == '\x7b')))

/-- The parameters that a trace gives to an operation: name, location and value. The segments of
the path count only if there are as many as in the template. -/
def parametersOf (endpoint : Endpoint) (trace : Trace) : List (String × String × Json) :=
  let template := Path.segments endpoint.path
  let observed := Path.segments trace.path
  (if template.length = observed.length then
    ((template.zip observed).filter fun s => Path.isPlaceholder s.1).map fun s =>
      (slotName s.1, "path", Json.ofTextOrString s.2)
  else []) ++
    (trace.requestParameters.map fun p => (p.name, "query", Json.ofTextOrString p.value)) ++
    trace.requestHeaders.map fun h => (h.name.toLower, "header", .string h.value)

/-- Merge a body into the content of a node. -/
def mergeContent (contentType : Option String) (raw : String) (node : Members) : Members :=
  if raw.isEmpty then node
  else inChild "content" (inChild (mediaType contentType) (absorbBody raw)) node

/-- Merge the headers of a response. -/
def mergeHeaders (headers : List Pair) (response : Members) : Members :=
  if headers.isEmpty then response
  else
    inChild "headers"
      (fun node =>
        headers.foldl
          (fun node h => inChild h.name.toLower (absorbValue (.string h.value)) node) node)
      response

/-- Merge the response of a trace into the node of its status. -/
def mergeResponse (trace : Trace) (response : Members) : Members :=
  let described :=
    Dict.alter "description"
      (fun old => old.getD (.string (toString trace.responseStatus ++ " description"))) response
  mergeContent trace.responseContentType trace.responseBody
    (mergeHeaders trace.responseHeaders described)

/-- Merge a trace into its operation. -/
def mergeOperation (endpoint : Endpoint) (trace : Trace) (operation : Members) : Members :=
  let withParameters :=
    (parametersOf endpoint trace).foldl (fun op p => mergeParameter p.1 p.2.1 p.2.2 op) operation
  let withRequest :=
    if trace.requestBody.isEmpty then withParameters
    else
      inChild "requestBody" (mergeContent trace.requestContentType trace.requestBody)
        withParameters
  inChild "responses" (inChild (toString trace.responseStatus) (mergeResponse trace)) withRequest

/-- Fold a trace of an endpoint into a document. A document that is no object is left alone, and
the answer says so. -/
def mergeTrace (doc : Json) (endpoint : Endpoint) (trace : Trace) : Bool × Json :=
  match doc with
  | .object members =>
    (true, .object
      (inChild "paths"
        (inChild endpoint.path (inChild endpoint.method.toLower (mergeOperation endpoint trace)))
        members))
  | other => (false, other)

end Document

end TrafficLens
