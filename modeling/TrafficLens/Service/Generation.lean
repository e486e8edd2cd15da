import TrafficLens.Service.Processing

/-!
# Generating documents

Every host whose endpoints have no uploaded document gets a generated one. A run folds the traces
into it that are newer than the document and not newer than the beginning of the run, stores it
with that time, and links the endpoints of the host to it. An uploaded document that has the name
of the generated one is left alone, and so is a document that there is no news for.
-/

namespace TrafficLens

/-- What a run of the generation did. -/
structure GenerationReport where
  hostsScanned : Nat := 0
  hostsSkipped : Nat := 0
  documentsUpdated : Nat := 0
  tracesMerged : Nat := 0
deriving DecidableEq

/-- The JSON form of a report. -/
def GenerationReport.toJson (r : GenerationReport) : Json :=
  .object
    [("hosts_scanned", .nat r.hostsScanned), ("hosts_skipped", .nat r.hostsSkipped),
     ("specs_updated", .nat r.documentsUpdated), ("traces_merged", .nat r.tracesMerged)]

/-- The endpoints by host. -/
def endpointsByHost (endpoints : List Endpoint) : List (String × List Endpoint) :=
  endpoints.foldl (fun acc e => Dict.alter e.host (fun old => old.getD [] ++ [e]) acc) []

namespace Service

/-- Fold the new traces of some endpoints into a tree, and count them. -/
def mergeEndpoints (c : ConnectionId) (t : Tenant) (since : Option Instant) (cutoff : Instant) :
    (tree : Json) → (merged : Nat) → List Endpoint → Attempt (Json × Nat)
  | tree, merged, [] => pure (tree, merged)
  | tree, merged, e :: rest => do
    let traces : List Trace ← send (.held c) t (.fetchSince e.id since cutoff)
    let tree := traces.foldl (fun doc trace => (Document.mergeTrace doc e trace).2) tree
    mergeEndpoints c t since cutoff tree (merged + traces.length) rest

/-- Store a document and link the endpoints of its host to it. -/
def saveDocument (s : Service) (c : ConnectionId) (t : Tenant) (document : Document)
    (host : String) : Attempt Unit :=
  transaction c do
    s.step c t (.saveDocument document)
    s.step c t (.linkDocument document.name host)

/-- Bring the document of a host up to date. -/
def generateHost (s : Service) (c : ConnectionId) (t : Tenant) (cutoff : Instant)
    (report : GenerationReport) (host : String) (endpoints : List Endpoint) :
    Attempt GenerationReport := do
  let report := { report with hostsScanned := report.hostsScanned + 1 }
  let stored : Option Document ← send (.held c) t (.loadDocument (Document.generatedName host))
  if stored.any fun d => !d.isGenerated then
    pure { report with hostsSkipped := report.hostsSkipped + 1 }
  else
    let document := stored.getD (Document.generated host)
    let (tree, merged) ←
      mergeEndpoints c t document.updatedAt cutoff document.spec 0 endpoints
    if merged = 0 && stored.isSome then pure report
    else
      s.saveDocument c t { document with spec := tree, updatedAt := some cutoff } host
      pure
        { report with
          tracesMerged := report.tracesMerged + merged
          documentsUpdated := report.documentsUpdated + 1 }

/-- Bring the documents of some hosts up to date. -/
def generateHosts (s : Service) (c : ConnectionId) (t : Tenant) (cutoff : Instant) :
    GenerationReport → List (String × List Endpoint) → Attempt GenerationReport
  | report, [] => pure report
  | report, (host, endpoints) :: rest => do
    let report ← s.generateHost c t cutoff report host endpoints
    generateHosts s c t cutoff report rest

/-- Bring the generated documents up to date. -/
def generate (s : Service) (t : Tenant) : Attempt GenerationReport := do
  let cutoff ← currentTime
  withConnection fun c => do
    let endpoints : List Endpoint ← send (.held c) t .listUndocumented
    s.generateHosts c t cutoff {} (endpointsByHost endpoints)

end Service

end TrafficLens
