import TrafficLens.Analysis.Alert
import TrafficLens.Analysis.Document
import TrafficLens.Store.Statement
import TrafficLens.Tenant

/-!
# Commands

A `Command` is one thing that the library asks of a tenant's tables, with everything that it
depends on, and `Command.Answer` is the type of what comes back. `Command.statement` says how the
command is put to the database of a tenant: the tenant enters a statement only through the names
of its tables. A `SharedCommand` concerns what tenants share: the queue, and the database itself.

Commands that change rows answer how many they have changed. The conditions of these statements
are part of what they mean: fields and alerts that are already there are merged or left alone,
endpoints are widened and never narrowed, and a generated document never replaces an uploaded one.
-/

namespace TrafficLens

/-- A place in a listing of traces by time and identifier: the last trace before it. -/
abbrev Cursor : Type := Instant × Uuid

/-- What an analysis teaches about its endpoint. -/
structure EndpointUpdate where
  id : Uuid
  seenAt : Instant
  risk : Risk
  /-- What the trace says about authentication, if anything. -/
  authenticated : Option Bool
deriving DecidableEq

/-- What the library asks of a tenant's tables. -/
inductive Command where
  /-- The endpoint of a host and a method whose pattern matches a path; of several, one with the
  fewest placeholders. -/
  | findMatch (host method path : String)
  /-- The endpoint with a template. -/
  | findExact (host method template : String)
  | findById (id : Uuid)
  | insertEndpoint (endpoint : Endpoint)
  /-- Keep other analyses of an endpoint out until the end of the transaction. -/
  | lockEndpoint (id : Uuid)
  | loadFields (endpointId : Uuid)
  /-- The uploaded document of a name. -/
  | loadUploaded (name : String)
  /-- Store a trace, unless there is one with its identifier. -/
  | insertTrace (trace : Trace) (endpointId : Option Uuid) (analyzed : Bool)
  | markAnalyzed (traceId endpointId : Uuid)
  | upsertField (field : Field)
  /-- Store an alert, unless there is one with its trigger. -/
  | insertAlert (alert : Alert)
  | updateEndpoint (update : EndpointUpdate)
  /-- The next traces without an endpoint. -/
  | fetchUnlinked (cutoff : Instant) (after : Option Cursor) (limit : Int)
  | linkTraces (endpointId : Uuid) (traceIds : List Uuid)
  | widenDates (endpointId : Uuid) (first last : Instant)
  /-- The next traces that have an endpoint and wait for their analysis. -/
  | fetchUnanalyzed (cutoff : Instant) (after : Option Cursor) (limit : Int)
  /-- The endpoints without an uploaded document. -/
  | listUndocumented
  | loadDocument (name : String)
  /-- The traces of an endpoint after one time and up to another. -/
  | fetchSince (endpointId : Uuid) (since : Option Instant) (cutoff : Instant)
  /-- Store a generated document, unless an uploaded one has its name. -/
  | saveDocument (document : Document)
  /-- Link the endpoints of a host to a document. -/
  | linkDocument (name host : String)
  /-- Let the transaction see one state of the database throughout. -/
  | freezeView
  | countRollable (boundary : Instant)
  | rollMinutes (boundary : Instant)
  | rollHours (boundary : Instant)
  | deleteRolled (boundary : Instant)
  | listEndpoints
  /-- The latest trace of every endpoint that has one. -/
  | latestTraces
deriving DecidableEq

namespace Command

/-- What comes back. Commands that change rows answer their number. -/
def Answer : Command → Type
  | findMatch .. | findExact .. | findById .. => Option Endpoint
  | lockEndpoint .. | freezeView => Unit
  | loadFields .. => List Field
  | loadUploaded .. => Option Json
  | fetchUnlinked .. | fetchUnanalyzed .. | fetchSince .. | latestTraces => List Trace
  | listUndocumented | listEndpoints => List Endpoint
  | loadDocument .. => Option Document
  | countRollable .. => Int
  | insertEndpoint .. | insertTrace .. | markAnalyzed .. | upsertField .. | insertAlert ..
  | updateEndpoint .. | linkTraces .. | widenDates .. | saveDocument .. | linkDocument ..
  | rollMinutes .. | rollHours .. | deleteRolled .. => Nat

/-! ## Parts of statements -/

/-- The columns of an endpoint and of its document. -/
def endpointColumns : String :=
  "e.id, e.host, e.method, e.path, e.path_regex, e.number_params, e.first_detected, " ++
    "e.last_active, e.risk_score, e.openapi_spec_name, e.is_graphql, " ++
    "e.is_authenticated_detected, s.is_auto_generated AS spec_auto_generated"

/-- The endpoints with their documents. -/
def selectEndpoints (t : Tenant) : String :=
  "SELECT " ++ endpointColumns ++ " FROM " ++ t.table "endpoint" ++ " e LEFT JOIN " ++
    t.table "open_api_spec" ++ " s ON e.openapi_spec_name = s.name"

/-- The columns of a trace. -/
def traceColumns : String :=
  "id, host, path, method, request_parameters, request_headers, request_body, " ++
    "response_status, response_headers, response_body, meta, session_meta, created_at, " ++
    "endpoint_id, analyzed"

/-- The traces. -/
def selectTraces (t : Tenant) : String := "SELECT " ++ traceColumns ++ " FROM " ++ t.table "trace"

/-- The part of a listing of traces behind a cursor, in the second and third hole. -/
def paging : String :=
  " AND created_at <= $1 AND ($2::timestamptz IS NULL OR " ++
    "(created_at, id) > ($2::timestamptz, $3::uuid)) ORDER BY created_at, id LIMIT $4"

/-- The values of a page of traces. -/
def pageValues (cutoff : Instant) (after : Option Cursor) (limit : Int) : List Json :=
  [Statement.time cutoff, Statement.opt Statement.time (after.map Prod.fst),
   Statement.opt Statement.uuid (after.map Prod.snd), .int limit]

/-- The traces that can be rolled up: analyzed, and older than the boundary. -/
def rollable : String := "endpoint_id IS NOT NULL AND analyzed = TRUE AND created_at < $1"

/-- Count the calls of each endpoint in each unit of time, and add the counts to a table. -/
def rollInto (t : Tenant) (unit column table constraint : String) : String :=
  "INSERT INTO " ++ t.table table ++ " AS a (endpoint_id, " ++ column ++ ", num_calls) " ++
    "SELECT endpoint_id, date_trunc('" ++ unit ++ "', created_at AT TIME ZONE 'UTC') " ++
    "AT TIME ZONE 'UTC', COUNT(*) FROM " ++ t.table "trace" ++ " WHERE " ++ rollable ++
    " GROUP BY 1, 2 ON CONFLICT ON CONSTRAINT " ++ constraint ++
    " DO UPDATE SET num_calls = a.num_calls + EXCLUDED.num_calls"

/-- The values of a trace, in the order of its columns. -/
def traceValues (trace : Trace) (endpointId : Option Uuid) (analyzed : Bool) : List Json :=
  [Statement.uuid trace.id, .string trace.host, .string trace.path, .string trace.method,
   Pair.listToJson trace.requestParameters, Pair.listToJson trace.requestHeaders,
   .string trace.requestBody, .int trace.responseStatus, Pair.listToJson trace.responseHeaders,
   .string trace.responseBody, trace.extra, trace.session.toJson, Statement.time trace.createdAt,
   Statement.opt Statement.uuid endpointId, .bool analyzed]

/-- Merge a field into the one at its place. Classes are united, less the false positives. -/
def upsertFieldText (t : Tenant) : String :=
  "INSERT INTO " ++ t.table "data_field" ++
    " AS f (id, data_section, data_path, endpoint_id, data_type, data_tag, data_classes, " ++
    "scanner_identified, false_positives, matches, schema) " ++
    "VALUES ($1, $2, $3, $4, $5, $6, $7, $8, $9, $10, $11) " ++
    "ON CONFLICT ON CONSTRAINT unique_data_field_section_path_endpoint DO UPDATE SET " ++
    "data_classes = ARRAY( SELECT DISTINCT c FROM " ++
    "unnest(f.data_classes || EXCLUDED.data_classes) AS c " ++
    "WHERE NOT (c = ANY(f.false_positives)) ), " ++
    "scanner_identified = ARRAY( SELECT DISTINCT c FROM " ++
    "unnest(f.scanner_identified || EXCLUDED.scanner_identified) AS c ), " ++
    "data_type = EXCLUDED.data_type, data_tag = COALESCE(EXCLUDED.data_tag, f.data_tag), " ++
    "matches = f.matches || EXCLUDED.matches, schema = EXCLUDED.schema, updated_at = now()"

/-- Widen an endpoint by what an analysis has seen. -/
def updateEndpointText (t : Tenant) : String :=
  "UPDATE " ++ t.table "endpoint" ++
    " SET first_detected = LEAST(COALESCE(first_detected, $2), $2), " ++
    "last_active = GREATEST(COALESCE(last_active, $2), $2), " ++
    "risk_score = GREATEST(risk_score, $3), is_authenticated_detected = CASE " ++
    "WHEN $4::BOOLEAN IS NULL THEN is_authenticated_detected " ++
    "ELSE COALESCE(is_authenticated_detected, TRUE) AND $4::BOOLEAN END, " ++
    "updated_at = now() WHERE id = $1"

/-- The statement of a command to the tables of a tenant. -/
def statement (t : Tenant) : Command → Statement
  | findMatch host method path =>
    ⟨selectEndpoints t ++ " WHERE $1 ~ e.path_regex AND e.method = $2 AND e.host = $3 " ++
      "ORDER BY e.number_params ASC LIMIT 1", [.string path, .string method, .string host]⟩
  | findExact host method template =>
    ⟨selectEndpoints t ++ " WHERE e.host = $1 AND e.method = $2 AND e.path = $3",
      [.string host, .string method, .string template]⟩
  | findById id => ⟨selectEndpoints t ++ " WHERE e.id = $1", [Statement.uuid id]⟩
  | insertEndpoint e =>
    ⟨"INSERT INTO " ++ t.table "endpoint" ++
      " (id, host, method, path, path_regex, number_params, first_detected, last_active, " ++
      "risk_score, is_graphql) VALUES ($1, $2, $3, $4, $5, $6, $7, $8, $9, $10)",
      [Statement.uuid e.id, .string e.host, .string e.method, .string e.path,
       .string e.pathPattern, .int e.numberParams, Statement.opt Statement.time e.firstDetected,
       Statement.opt Statement.time e.lastActive, .int e.riskScore, .bool e.isGraphql]⟩
  | lockEndpoint id =>
    ⟨"SELECT id FROM " ++ t.table "endpoint" ++ " WHERE id = $1 FOR NO KEY UPDATE",
      [Statement.uuid id]⟩
  | loadFields endpointId =>
    ⟨"SELECT id, data_section, data_path, endpoint_id, data_type, data_tag, data_classes, " ++
      "scanner_identified, false_positives, matches, schema FROM " ++ t.table "data_field" ++
      " WHERE endpoint_id = $1", [Statement.uuid endpointId]⟩
  | loadUploaded name =>
    ⟨"SELECT spec FROM " ++ t.table "open_api_spec" ++
      " WHERE name = $1 AND is_auto_generated = FALSE", [.string name]⟩
  | insertTrace trace endpointId analyzed =>
    ⟨"INSERT INTO " ++ t.table "trace" ++ " (" ++ traceColumns ++
      ") VALUES ($1, $2, $3, $4, $5, $6, $7, $8, $9, $10, $11, $12, $13, $14, $15) " ++
      "ON CONFLICT (id) DO NOTHING", traceValues trace endpointId analyzed⟩
  | markAnalyzed traceId endpointId =>
    ⟨"UPDATE " ++ t.table "trace" ++ " SET analyzed = TRUE, endpoint_id = $2 WHERE id = $1",
      [Statement.uuid traceId, Statement.uuid endpointId]⟩
  | upsertField f =>
    ⟨upsertFieldText t,
      [Statement.uuid f.id, .string f.sectionName, .string f.path, Statement.uuid f.endpointId,
       .string f.dataType, Statement.opt .string f.tag, Json.strings f.classes,
       Json.strings f.identified, Json.strings f.falsePositives, Field.samplesToJson f.samples,
       f.schema.toJson]⟩
  | insertAlert a =>
    ⟨"INSERT INTO " ++ t.table "alert" ++
      " (id, alert_type, risk_score, endpoint_id, trace_id, dedup_key, description, context, " ++
      "status, created_at, updated_at) VALUES ($1, $2, $3, $4, $5, $6, $7, $8, $9, $10, $10) " ++
      "ON CONFLICT ON CONSTRAINT unique_alert_type_endpoint_key DO NOTHING",
      [Statement.uuid a.id, .string a.kind.name, .nat a.risk.rank, Statement.uuid a.endpointId,
       Statement.opt Statement.uuid a.traceId, .string a.key, .string a.description, a.context,
       .string a.status.name, Statement.time a.createdAt]⟩
  | updateEndpoint u =>
    ⟨updateEndpointText t,
      [Statement.uuid u.id, Statement.time u.seenAt, .nat u.risk.rank,
       Statement.opt .bool u.authenticated]⟩
  | fetchUnlinked cutoff after limit =>
    ⟨selectTraces t ++ " WHERE endpoint_id IS NULL" ++ paging, pageValues cutoff after limit⟩
  | linkTraces endpointId traceIds =>
    ⟨"UPDATE " ++ t.table "trace" ++
      " SET endpoint_id = $1 WHERE id = ANY($2) AND endpoint_id IS NULL",
      [Statement.uuid endpointId, .array (traceIds.map Statement.uuid)]⟩
  | widenDates endpointId first last =>
    ⟨"UPDATE " ++ t.table "endpoint" ++
      " SET first_detected = LEAST(COALESCE(first_detected, $2), $2), " ++
      "last_active = GREATEST(COALESCE(last_active, $3), $3), updated_at = now() WHERE id = $1",
      [Statement.uuid endpointId, Statement.time first, Statement.time last]⟩
  | fetchUnanalyzed cutoff after limit =>
    ⟨selectTraces t ++ " WHERE endpoint_id IS NOT NULL AND analyzed = FALSE" ++ paging,
      pageValues cutoff after limit⟩
  | listUndocumented =>
    ⟨selectEndpoints t ++ " WHERE e.openapi_spec_name IS NULL OR s.is_auto_generated = TRUE " ++
      "ORDER BY e.host, e.path", []⟩
  | loadDocument name =>
    ⟨"SELECT name, spec, is_auto_generated, hosts, extension, updated_at FROM " ++
      t.table "open_api_spec" ++ " WHERE name = $1", [.string name]⟩
  | fetchSince endpointId since cutoff =>
    ⟨selectTraces t ++ " WHERE endpoint_id = $1 AND " ++
      "($2::timestamptz IS NULL OR created_at > $2::timestamptz) AND created_at <= $3 " ++
      "ORDER BY created_at, id",
      [Statement.uuid endpointId, Statement.opt Statement.time since, Statement.time cutoff]⟩
  | saveDocument d =>
    ⟨"INSERT INTO " ++ t.table "open_api_spec" ++
      " AS s (name, spec, is_auto_generated, hosts, extension, updated_at) " ++
      "VALUES ($1, $2, TRUE, $3, $4, $5) ON CONFLICT (name) DO UPDATE SET " ++
      "spec = EXCLUDED.spec, updated_at = EXCLUDED.updated_at WHERE s.is_auto_generated",
      [.string d.name, d.spec, Json.strings d.hosts, .string d.extension,
       Statement.opt Statement.time d.updatedAt]⟩
  | linkDocument name host =>
    ⟨"UPDATE " ++ t.table "endpoint" ++ " SET openapi_spec_name = $1, updated_at = now() " ++
      "WHERE host = $2 AND (openapi_spec_name IS NULL OR openapi_spec_name = $1)",
      [.string name, .string host]⟩
  | freezeView => ⟨"SET TRANSACTION ISOLATION LEVEL REPEATABLE READ", []⟩
  | countRollable boundary =>
    ⟨"SELECT COUNT(*) FROM " ++ t.table "trace" ++ " WHERE " ++ rollable,
      [Statement.time boundary]⟩
  | rollMinutes boundary =>
    ⟨rollInto t "minute" "minute" "aggregate_trace_data_minutely" "unique_constraint_minutely",
      [Statement.time boundary]⟩
  | rollHours boundary =>
    ⟨rollInto t "hour" "hour" "aggregate_trace_data_hourly" "unique_constraint_hourly",
      [Statement.time boundary]⟩
  | deleteRolled boundary =>
    ⟨"DELETE FROM " ++ t.table "trace" ++ " WHERE " ++ rollable, [Statement.time boundary]⟩
  | listEndpoints => ⟨selectEndpoints t, []⟩
  | latestTraces =>
    ⟨"SELECT DISTINCT ON (endpoint_id) " ++ traceColumns ++ " FROM " ++ t.table "trace" ++
      " WHERE endpoint_id IS NOT NULL ORDER BY endpoint_id, created_at DESC", []⟩

end Command

/-- What the library asks of the parts of the database that tenants share. -/
inductive SharedCommand where
  | pushTrace (item : QueuedTrace)
  /-- Take the oldest item off the queue that nobody else is taking. -/
  | popTrace
  | countQueued
  | serverVersion
  /-- The schemas that hold the tables of a tenant, by name. -/
  | listSchemas
deriving DecidableEq

namespace SharedCommand

/-- What comes back. -/
def Answer : SharedCommand → Type
  | pushTrace .. => Nat
  | popTrace => Option Json
  | countQueued => Int
  | serverVersion => String
  | listSchemas => List String

/-- A condition of the catalogue: the schema has a table of this name. -/
def hasTable (name : String) : String :=
  "EXISTS (SELECT 1 FROM pg_class c WHERE c.relnamespace = n.oid AND c.relname = '" ++ name ++
    "' AND c.relkind = 'r')"

/-- The statement of a command. -/
def statement : SharedCommand → Statement
  | pushTrace item => ⟨"INSERT INTO public.trace_queue (payload) VALUES ($1)", [item.toJson]⟩
  | popTrace =>
    ⟨"DELETE FROM public.trace_queue WHERE id = ( SELECT id FROM public.trace_queue " ++
      "ORDER BY id FOR UPDATE SKIP LOCKED LIMIT 1 ) RETURNING payload", []⟩
  | countQueued => ⟨"SELECT COUNT(*) FROM public.trace_queue", []⟩
  | serverVersion => ⟨"SELECT version()", []⟩
  | listSchemas =>
    ⟨"SELECT n.nspname::TEXT FROM pg_namespace n WHERE " ++ hasTable "endpoint" ++ " AND " ++
      hasTable "trace" ++ " ORDER BY n.nspname", []⟩

end SharedCommand

end TrafficLens
