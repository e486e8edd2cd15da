import TrafficLens.Store.Command

/-!
# Rows

A `Row` is one line of what a query answers. `DatabaseReply` is everything that the database sends
back to a statement: the rows of a query, or the number of rows that were changed. `Command.read`
says what a reply means as the answer to a command. Columns are read in the order of the record's
fields, and the first one that does not hold a value of its type decides the failure.
-/

namespace TrafficLens

/-- The columns of a row by name. A column that is not listed is empty. -/
abbrev Row : Type := List (String × Json)

/-- What the database sends back to a statement. -/
structure DatabaseReply where
  rows : List Row := []
  /-- The number of rows that were changed. -/
  changed : Nat := 0

namespace Row

variable {α : Type}

/-- The value of a column, unless the column is empty. -/
def value? (row : Row) (name : String) : Option Json :=
  match Dict.find? name row with
  | some .null => none
  | v => v

/-- Read a column; failures call it by a label. -/
def readAs (label : String) (row : Row) (name : String) (read : Json → Option α) :
    Except DatabaseError α :=
  match (row.value? name).bind read with
  | some a => .ok a
  | none => .error (.columnDecode label)

/-- Read a column that is not empty. -/
def read (row : Row) (name : String) (read : Json → Option α) : Except DatabaseError α :=
  row.readAs name name read

/-- Read a column that may be empty. -/
def readOptional (row : Row) (name : String) (read : Json → Option α) :
    Except DatabaseError (Option α) :=
  match row.value? name with
  | none => .ok none
  | some _ => (row.read name read).map some

/-- Read the only column of a row. -/
def readOnly (name : String) (read : Json → Option α) (row : Row) : Except DatabaseError α :=
  row.readAs "0" name read

end Row

/-- Read a time out of a column. -/
def Instant.ofColumn? (v : Json) : Option Instant := (Instant.ofJson? v).map Instant.toColumn

/-- Read an endpoint. -/
def Endpoint.ofRow (row : Row) : Except DatabaseError Endpoint := do
  let id ← row.read "id" Uuid.ofJson?
  let host ← row.read "host" Json.asString?
  let method ← row.read "method" Json.asString?
  let path ← row.read "path" Json.asString?
  let pathPattern ← row.read "path_regex" Json.asString?
  let numberParams ← row.read "number_params" (Json.asSigned? 32)
  let firstDetected ← row.readOptional "first_detected" Instant.ofColumn?
  let lastActive ← row.readOptional "last_active" Instant.ofColumn?
  let riskScore ← row.read "risk_score" (Json.asSigned? 16)
  let documentName ← row.readOptional "openapi_spec_name" Json.asString?
  let isGraphql ← row.read "is_graphql" Json.asBool?
  let isAuthenticated ← row.readOptional "is_authenticated_detected" Json.asBool?
  let documentGenerated ← row.readOptional "spec_auto_generated" Json.asBool?
  pure
    { id, host, method, path, pathPattern, numberParams, firstDetected, lastActive, riskScore,
      documentName, isGraphql, isAuthenticated, documentGenerated }

/-- Read a trace. -/
def Trace.ofRow (row : Row) : Except DatabaseError Trace := do
  let id ← row.read "id" Uuid.ofJson?
  let host ← row.read "host" Json.asString?
  let path ← row.read "path" Json.asString?
  let method ← row.read "method" Json.asString?
  let requestParameters ← row.read "request_parameters" Pair.listOfJson?
  let requestHeaders ← row.read "request_headers" Pair.listOfJson?
  let requestBody ← row.read "request_body" Json.asString?
  let responseStatus ← row.read "response_status" (Json.asSigned? 32)
  let responseHeaders ← row.read "response_headers" Pair.listOfJson?
  let responseBody ← row.read "response_body" Json.asString?
  let extra ← row.read "meta" some
  let session ← row.read "session_meta" Session.ofJson?
  let createdAt ← row.read "created_at" Instant.ofColumn?
  let endpointId ← row.readOptional "endpoint_id" Uuid.ofJson?
  let analyzed ← row.read "analyzed" Json.asBool?
  pure
    { id, host, path, method, requestParameters, requestHeaders, requestBody, responseStatus,
      responseHeaders, responseBody, extra, session, createdAt, endpointId, analyzed }

/-- Read a field. -/
def Field.ofRow (row : Row) : Except DatabaseError Field := do
  let texts := Json.asList? Json.asString?
  let id ← row.read "id" Uuid.ofJson?
  let sectionName ← row.read "data_section" Json.asString?
  let path ← row.read "data_path" Json.asString?
  let endpointId ← row.read "endpoint_id" Uuid.ofJson?
  let dataType ← row.read "data_type" Json.asString?
  let tag ← row.readOptional "data_tag" Json.asString?
  let classes ← row.read "data_classes" texts
  let identified ← row.read "scanner_identified" texts
  let falsePositives ← row.read "false_positives" texts
  let samples ← row.read "matches" Field.samplesOfJson?
  let schema ← row.read "schema" Schema.ofJson?
  pure
    { id, sectionName, path, endpointId, dataType, tag, classes, identified, falsePositives,
      samples, schema }

/-- Read a document. -/
def Document.ofRow (row : Row) : Except DatabaseError Document := do
  let name ← row.read "name" Json.asString?
  let spec ← row.read "spec" some
  let isGenerated ← row.read "is_auto_generated" Json.asBool?
  let hosts ← row.read "hosts" (Json.asList? Json.asString?)
  let extension ← row.read "extension" Json.asString?
  let updatedAt ← row.readOptional "updated_at" Instant.ofColumn?
  pure { name, spec, isGenerated, hosts, extension, updatedAt }

namespace DatabaseReply

variable {α : Type}

/-- Read all rows. -/
def all (read : Row → Except DatabaseError α) (reply : DatabaseReply) :
    Except DatabaseError (List α) := reply.rows.mapM read

/-- Read the first row, if there is one. -/
def first? (read : Row → Except DatabaseError α) (reply : DatabaseReply) :
    Except DatabaseError (Option α) :=
  match reply.rows with
  | [] => .ok none
  | row :: _ => (read row).map some

/-- Read the first row, which must be there. -/
def first (read : Row → Except DatabaseError α) (reply : DatabaseReply) :
    Except DatabaseError α :=
  match reply.rows with
  | [] => .error .rowNotFound
  | row :: _ => read row

/-- Read a count of rows. -/
def count (reply : DatabaseReply) : Except DatabaseError Int :=
  reply.first (Row.readOnly "count" (Json.asSigned? 64))

end DatabaseReply

/-- What a reply means as the answer to a command. -/
def Command.read (reply : DatabaseReply) : (c : Command) → Except DatabaseError c.Answer
  | findMatch .. | findExact .. | findById .. => reply.first? Endpoint.ofRow
  | lockEndpoint .. | freezeView => .ok ()
  | loadFields .. => reply.all Field.ofRow
  | loadUploaded .. => reply.first? (Row.readOnly "spec" some)
  | fetchUnlinked .. | fetchUnanalyzed .. | fetchSince .. | latestTraces => reply.all Trace.ofRow
  | listUndocumented | listEndpoints => reply.all Endpoint.ofRow
  | loadDocument .. => reply.first? Document.ofRow
  | countRollable .. => reply.count
  | insertEndpoint .. | insertTrace .. | markAnalyzed .. | upsertField .. | insertAlert ..
  | updateEndpoint .. | linkTraces .. | widenDates .. | saveDocument .. | linkDocument ..
  | rollMinutes .. | rollHours .. | deleteRolled .. => .ok reply.changed

/-- What a reply means as the answer to a shared command. -/
def SharedCommand.read (reply : DatabaseReply) : (c : SharedCommand) → Except DatabaseError c.Answer
  | pushTrace .. => .ok reply.changed
  | popTrace => reply.first? (Row.readOnly "payload" some)
  | countQueued => reply.count
  | serverVersion => reply.first (Row.readOnly "version" Json.asString?)
  | listSchemas => reply.all (Row.readOnly "nspname" Json.asString?)

end TrafficLens
