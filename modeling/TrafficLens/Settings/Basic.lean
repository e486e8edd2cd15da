import TrafficLens.Analysis.Scanner
import TrafficLens.Json.Record
import TrafficLens.Path.Identifier

/-!
# Settings

The settings of the service, by section. Every setting but the address of the database has a
default. The sections are records, and so they are read like all records: names that are no
settings are ignored, and a section may be missing.
-/

namespace TrafficLens

/-- The service as a whole. -/
structure ServiceSettings where
  logLevel : String := "info"
  /-- The schema of traces that come without one. -/
  defaultSchema : String := "public"
deriving DecidableEq

/-- The database. -/
structure DatabaseSettings where
  url : String
  maxConnections : Nat := 16
deriving DecidableEq

/-- The workers that take traces off the queue. -/
structure WorkerSettings where
  /-- The number of workers; `none` leaves it to the machine. -/
  concurrency : Option Nat := none
  idleSleepMillis : Nat := 50
deriving DecidableEq

/-- How often and how fast a failed step is tried again. -/
structure RetrySettings where
  attempts : Nat := 5
  baseDelayMillis : Nat := 10
  maxDelayMillis : Nat := 500
deriving DecidableEq

/-- The jobs that run on a schedule. -/
structure JobSettings where
  enabled : Bool := true
  backfillIntervalMinutes : Nat := 5
  backfillBatchSize : Int := 1000
  sweepIntervalMinutes : Nat := 5
  sweepBatchSize : Int := 5000
  openapiIntervalMinutes : Nat := 60
  rollupIntervalMinutes : Nat := 60
  hstsIntervalMinutes : Nat := 1440
  probeTimeoutSeconds : Nat := 10
  probeScheme : String := "http"
  /-- Jobs look after the schemas whose names begin so. -/
  schemaStart : String := ""
deriving DecidableEq

/-- Which alerts are raised from traffic. -/
structure AlertSettings where
  hstsFromTraffic : Bool := true
deriving DecidableEq

/-- The interface over HTTP. -/
structure HttpSettings where
  enabled : Bool := true
  host : String := "127.0.0.1"
  port : Nat := 8081
deriving DecidableEq

/-- All settings. -/
structure Settings where
  service : ServiceSettings := {}
  database : DatabaseSettings
  worker : WorkerSettings := {}
  retry : RetrySettings := {}
  jobs : JobSettings := {}
  scanner : ScannerSettings := {}
  policy : IdentifierPolicy := {}
  alerts : AlertSettings := {}
  http : HttpSettings := {}
deriving DecidableEq

/-- How single settings are read out of JSON. Formats differ in how freely they take one kind of
value for another. -/
structure ScalarReader where
  text : Json → Option String
  truth : Json → Option Bool
  /-- A natural that fits in so many bits. -/
  natural : Nat → Json → Option Nat
  /-- An integer with a sign that fits in so many bits. -/
  integer : Nat → Json → Option Int

/-- Every value is of its own kind. -/
def ScalarReader.strict : ScalarReader where
  text := Json.asString?
  truth := Json.asBool?
  natural := Json.asUnsigned?
  integer := Json.asSigned?

namespace ServiceSettings

/-- Read the section. -/
def ofJson? (s : ScalarReader) (v : Json) : Option ServiceSettings := do
  let d : ServiceSettings := {}
  let r ← Json.Record.ofJson? ["log_level", "default_schema"] v
  pure
    { logLevel := ← r.withDefault "log_level" s.text d.logLevel
      defaultSchema := ← r.withDefault "default_schema" s.text d.defaultSchema }

end ServiceSettings

namespace DatabaseSettings

/-- Read the section. -/
def ofJson? (s : ScalarReader) (v : Json) : Option DatabaseSettings := do
  let r ← Json.Record.ofJson? ["url", "max_connections"] v
  let url ← r.required "url" s.text
  pure { url, maxConnections := ← r.withDefault "max_connections" (s.natural 32) 16 }

end DatabaseSettings

namespace WorkerSettings

/-- Read the section. -/
def ofJson? (s : ScalarReader) (v : Json) : Option WorkerSettings := do
  let d : WorkerSettings := {}
  let r ← Json.Record.ofJson? ["concurrency", "idle_sleep_ms"] v
  pure
    { concurrency := ← r.withDefault "concurrency" (fun x => (s.natural 64 x).map some) none
      idleSleepMillis := ← r.withDefault "idle_sleep_ms" (s.natural 64) d.idleSleepMillis }

end WorkerSettings

namespace RetrySettings

/-- Read the section. -/
def ofJson? (s : ScalarReader) (v : Json) : Option RetrySettings := do
  let d : RetrySettings := {}
  let r ← Json.Record.ofJson? ["attempts", "base_delay_ms", "max_delay_ms"] v
  pure
    { attempts := ← r.withDefault "attempts" (s.natural 64) d.attempts
      baseDelayMillis := ← r.withDefault "base_delay_ms" (s.natural 64) d.baseDelayMillis
      maxDelayMillis := ← r.withDefault "max_delay_ms" (s.natural 64) d.maxDelayMillis }

end RetrySettings

namespace JobSettings

/-- The names of the settings, in the order of their declaration. -/
def names : List String :=
  ["enabled", "backfill_interval_minutes", "backfill_batch_size", "sweep_interval_minutes",
   "sweep_batch_size", "openapi_interval_minutes", "rollup_interval_minutes",
   "hsts_interval_minutes", "probe_timeout_secs", "probe_scheme", "schema_prefix"]

/-- Read the section. -/
def ofJson? (s : ScalarReader) (v : Json) : Option JobSettings := do
  let d : JobSettings := {}
  let r ← Json.Record.ofJson? names v
  let nat := fun name => r.withDefault name (s.natural 64)
  let int := fun name => r.withDefault name (s.integer 64)
  pure
    { enabled := ← r.withDefault "enabled" s.truth d.enabled
      backfillIntervalMinutes := ← nat "backfill_interval_minutes" d.backfillIntervalMinutes
      backfillBatchSize := ← int "backfill_batch_size" d.backfillBatchSize
      sweepIntervalMinutes := ← nat "sweep_interval_minutes" d.sweepIntervalMinutes
      sweepBatchSize := ← int "sweep_batch_size" d.sweepBatchSize
      openapiIntervalMinutes := ← nat "openapi_interval_minutes" d.openapiIntervalMinutes
      rollupIntervalMinutes := ← nat "rollup_interval_minutes" d.rollupIntervalMinutes
      hstsIntervalMinutes := ← nat "hsts_interval_minutes" d.hstsIntervalMinutes
      probeTimeoutSeconds := ← nat "probe_timeout_secs" d.probeTimeoutSeconds
      probeScheme := ← r.withDefault "probe_scheme" s.text d.probeScheme
      schemaStart := ← r.withDefault "schema_prefix" s.text d.schemaStart }

end JobSettings

namespace ScannerSettings

/-- Read the section. -/
def ofJson? (s : ScalarReader) (v : Json) : Option ScannerSettings := do
  let r ← Json.Record.ofJson? ["patterns", "risk"] v
  pure
    { patterns := ← r.withDefault "patterns" (Json.asMap? s.text) []
      risks := ← r.withDefault "risk" (Json.asMap? s.text) [] }

end ScannerSettings

namespace IdentifierPolicy

/-- Read the section. -/
def ofJson? (s : ScalarReader) (v : Json) : Option IdentifierPolicy := do
  let d : IdentifierPolicy := {}
  let r ← Json.Record.ofJson? ["min_hex_id_len", "min_mixed_token_len", "graphql_suffixes"] v
  pure
    { minHexLength := ← r.withDefault "min_hex_id_len" (s.natural 64) d.minHexLength
      minMixedLength := ← r.withDefault "min_mixed_token_len" (s.natural 64) d.minMixedLength
      graphqlSuffixes :=
        ← r.withDefault "graphql_suffixes" (Json.asList? s.text) d.graphqlSuffixes }

end IdentifierPolicy

namespace AlertSettings

/-- Read the section. -/
def ofJson? (s : ScalarReader) (v : Json) : Option AlertSettings := do
  let d : AlertSettings := {}
  let r ← Json.Record.ofJson? ["hsts_from_traffic"] v
  pure { hstsFromTraffic := ← r.withDefault "hsts_from_traffic" s.truth d.hstsFromTraffic }

end AlertSettings

namespace HttpSettings

/-- Read the section. -/
def ofJson? (s : ScalarReader) (v : Json) : Option HttpSettings := do
  let d : HttpSettings := {}
  let r ← Json.Record.ofJson? ["enabled", "host", "port"] v
  pure
    { enabled := ← r.withDefault "enabled" s.truth d.enabled
      host := ← r.withDefault "host" s.text d.host
      port := ← r.withDefault "port" (s.natural 16) d.port }

end HttpSettings

namespace Settings

/-- The names of the sections, in the order of their declaration. -/
def sections : List String :=
  ["service", "database", "worker", "retry", "jobs", "scanner", "policy", "alerts", "http"]

/-- Read all settings. -/
def ofJson? (s : ScalarReader) (v : Json) : Option Settings := do
  let r ← Json.Record.ofJson? sections v
  pure
    { service := ← r.withDefault "service" (ServiceSettings.ofJson? s) {}
      database := ← r.required "database" (DatabaseSettings.ofJson? s)
      worker := ← r.withDefault "worker" (WorkerSettings.ofJson? s) {}
      retry := ← r.withDefault "retry" (RetrySettings.ofJson? s) {}
      jobs := ← r.withDefault "jobs" (JobSettings.ofJson? s) {}
      scanner := ← r.withDefault "scanner" (ScannerSettings.ofJson? s) {}
      policy := ← r.withDefault "policy" (IdentifierPolicy.ofJson? s) {}
      alerts := ← r.withDefault "alerts" (AlertSettings.ofJson? s) {}
      http := ← r.withDefault "http" (HttpSettings.ofJson? s) {} }

/-- The JSON form of all settings, by section. -/
def toJson (s : Settings) : Json :=
  let texts := fun (entries : List (String × String)) =>
    Json.object (entries.map fun e => (e.1, .string e.2))
  .object
    [("alerts", .object [("hsts_from_traffic", .bool s.alerts.hstsFromTraffic)]),
     ("database", .object
        [("max_connections", .nat s.database.maxConnections), ("url", .string s.database.url)]),
     ("http", .object
        [("enabled", .bool s.http.enabled), ("host", .string s.http.host),
         ("port", .nat s.http.port)]),
     ("jobs", .object
        [("backfill_batch_size", .int s.jobs.backfillBatchSize),
         ("backfill_interval_minutes", .nat s.jobs.backfillIntervalMinutes),
         ("enabled", .bool s.jobs.enabled),
         ("hsts_interval_minutes", .nat s.jobs.hstsIntervalMinutes),
         ("openapi_interval_minutes", .nat s.jobs.openapiIntervalMinutes),
         ("probe_scheme", .string s.jobs.probeScheme),
         ("probe_timeout_secs", .nat s.jobs.probeTimeoutSeconds),
         ("rollup_interval_minutes", .nat s.jobs.rollupIntervalMinutes),
         ("schema_prefix", .string s.jobs.schemaStart),
         ("sweep_batch_size", .int s.jobs.sweepBatchSize),
         ("sweep_interval_minutes", .nat s.jobs.sweepIntervalMinutes)]),
     ("policy", .object
        [("graphql_suffixes", Json.strings s.policy.graphqlSuffixes),
         ("min_hex_id_len", .nat s.policy.minHexLength),
         ("min_mixed_token_len", .nat s.policy.minMixedLength)]),
     ("retry", .object
        [("attempts", .nat s.retry.attempts), ("base_delay_ms", .nat s.retry.baseDelayMillis),
         ("max_delay_ms", .nat s.retry.maxDelayMillis)]),
     ("scanner", .object
        [("patterns", texts s.scanner.patterns), ("risk", texts s.scanner.risks)]),
     ("service", .object
        [("default_schema", .string s.service.defaultSchema),
         ("log_level", .string s.service.logLevel)]),
     ("worker", .object
        [("concurrency", Json.orNull .nat s.worker.concurrency),
         ("idle_sleep_ms", .nat s.worker.idleSleepMillis)])]

end Settings

end TrafficLens
