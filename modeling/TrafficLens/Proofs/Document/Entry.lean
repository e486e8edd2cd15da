import TrafficLens.Proofs.Document.Edit
import TrafficLens.Proofs.Schema.Routing

/-!
# What a trace says to a document

Merging a trace rewrites one operation of a document at many places. `entriesOf` lists what the
trace has to say, `Entry.keys` where it says it and `Entry.write` what is made of the value there,
and to merge the trace is to run these edits one after the other (`run_editsOf`). So merging traffic
is one run of edits over the document (`run_editsOfAll`), whatever the document holds, and no place
is on the way to another one (`Entry.keys_eq_of_begins`).
-/

namespace TrafficLens.Document

/-! ## Entries -/

/-- A place of an operation that holds a schema. -/
inductive Spot where
  | request (media : String)
  | header (status name : String)
  | response (status media : String)
deriving DecidableEq

/-- The keys that lead to the schema. -/
def Spot.keys : Spot → List String
  | .request media => ["requestBody", "content", media, "schema"]
  | .header status name => ["responses", status, "headers", name, "schema"]
  | .response status media => ["responses", status, "content", media, "schema"]

/-- One thing that is said to an operation. -/
inductive Entry where
  | parameter (name location : String) (value : Json)
  | sighting (spot : Spot) (x : Sighting)
  | status (status : String)
deriving DecidableEq

/-- What a sighting makes of the schema that is written at a place. -/
def seeAt (x : Sighting) (old : Option Json) : Json := ((schemaOf old).see x).toJson

/-- The items of a value that should be an array; nothing else has any. -/
def itemsOf (v : Option Json) : List Json := (v.bind Json.items?).getD []

namespace Entry

/-- The keys that lead to what an entry changes. -/
def keys : Entry → List String
  | parameter _ _ _ => ["parameters"]
  | sighting spot _ => spot.keys
  | status s => ["responses", s, "description"]

/-- What an entry makes of the value at its place. -/
def write : Entry → Option Json → Json
  | parameter name location value, old =>
    .array (changeParameter name location (absorbValue value) (itemsOf old))
  | sighting _ x, old => seeAt x old
  | status s, old => old.getD (.string (s ++ " description"))

theorem keys_ne_nil (e : Entry) : e.keys ≠ [] := by
  cases e with
  | parameter _ _ _ => exact List.cons_ne_nil _ _
  | sighting spot _ => cases spot <;> exact List.cons_ne_nil _ _
  | status _ => exact List.cons_ne_nil _ _

theorem length_keys_le (e : Entry) : e.keys.length ≤ 5 := by
  rcases e with _ | ⟨_ | _ | _, _⟩ | _ <;> simp [keys, Spot.keys]

/-- No place is on the way to another one. -/
theorem keys_eq_of_begins {a b : Entry} (h : a.keys <+: b.keys) : a.keys = b.keys := by
  rcases a with _ | ⟨_ | _ | _, _⟩ | _ <;> rcases b with _ | ⟨_ | _ | _, _⟩ | _ <;>
    simp_all [keys, Spot.keys, List.cons_prefix_cons]

theorem keys_eq_parameters {e : Entry} :
    e.keys = ["parameters"] ↔ ∃ name location value, e = .parameter name location value := by
  rcases e with _ | ⟨_ | _ | _, _⟩ | _ <;> simp [keys, Spot.keys]

theorem keys_eq_spot {e : Entry} {spot : Spot} :
    e.keys = spot.keys ↔ ∃ x, e = .sighting spot x := by
  rcases e with _ | ⟨_ | _ | _, _⟩ | _ <;> rcases spot with _ | _ | _ <;> simp [keys, Spot.keys]

theorem keys_eq_description {e : Entry} {s : String} :
    e.keys = ["responses", s, "description"] ↔ e = .status s := by
  rcases e with _ | ⟨_ | _ | _, _⟩ | _ <;> simp [keys, Spot.keys]

section Ended

variable {d : List String × Entry} {spot : Spot} {s : String}

/-- An edit that ends at the list of parameters is a parameter. -/
theorem exists_eq_parameter (hpath : d.1 = []) (hkeys : d.2.keys = ["parameters"]) :
    ∃ name location value, d = ([], parameter name location value) := by
  obtain ⟨name, location, value, he⟩ := keys_eq_parameters.1 hkeys
  exact ⟨name, location, value, Prod.ext hpath he⟩

/-- An edit that ends at a schema is a sighting. -/
theorem exists_eq_sighting (hpath : d.1 = []) (hkeys : d.2.keys = spot.keys) :
    ∃ x, d = ([], sighting spot x) := by
  obtain ⟨x, he⟩ := keys_eq_spot.1 hkeys
  exact ⟨x, Prod.ext hpath he⟩

/-- An edit that ends at a description is a status. -/
theorem eq_status (hpath : d.1 = []) (hkeys : d.2.keys = ["responses", s, "description"]) :
    d = ([], status s) :=
  Prod.ext hpath (keys_eq_description.1 hkeys)

end Ended

end Entry

/-! ## The entries of a trace -/

/-- What the text of a body shows. -/
def bodySighting (raw : String) : Sighting :=
  match Json.parse? raw with
  | some v => .value v
  | none => .shapeless

/-- The parameters of a trace, as entries. -/
def parameterEntries (endpoint : Endpoint) (trace : Trace) : List Entry :=
  (parametersOf endpoint trace).map fun p => .parameter p.1 p.2.1 p.2.2

/-- A body at a place, as entries; an empty one says nothing. -/
def bodyEntries (spot : Spot) (raw : String) : List Entry :=
  if raw.isEmpty then [] else [.sighting spot (bodySighting raw)]

/-- The headers of a response, as entries. -/
def headerEntries (status : String) (headers : List Pair) : List Entry :=
  headers.map fun h => .sighting (.header status h.name.toLower) (.value (.string h.value))

/-- The request body of a trace, as entries. -/
def requestEntries (trace : Trace) : List Entry :=
  bodyEntries (.request (mediaType trace.requestContentType)) trace.requestBody

/-- The response of a trace, as entries. -/
def responseEntries (trace : Trace) : List Entry :=
  let status := toString trace.responseStatus
  .status status :: (headerEntries status trace.responseHeaders ++
    bodyEntries (.response status (mediaType trace.responseContentType)) trace.responseBody)

/-- What a trace says to the operation of an endpoint, in order. -/
def entriesOf (endpoint : Endpoint) (trace : Trace) : List Entry :=
  parameterEntries endpoint trace ++ (requestEntries trace ++ responseEntries trace)

/-- A body that is not empty is said. -/
theorem mem_bodyEntries {spot : Spot} {raw : String} (h : ¬ raw.isEmpty) :
    Entry.sighting spot (bodySighting raw) ∈ bodyEntries spot raw := by
  rw [bodyEntries, if_neg h]
  exact List.mem_singleton_self _

theorem requestBody_mem_entriesOf (endpoint : Endpoint) {trace : Trace}
    (h : ¬ trace.requestBody.isEmpty) :
    Entry.sighting (.request (mediaType trace.requestContentType))
      (bodySighting trace.requestBody) ∈ entriesOf endpoint trace :=
  List.mem_append_right _ (List.mem_append_left _ (mem_bodyEntries h))

theorem responseBody_mem_entriesOf (endpoint : Endpoint) {trace : Trace}
    (h : ¬ trace.responseBody.isEmpty) :
    Entry.sighting (.response (toString trace.responseStatus) (mediaType trace.responseContentType))
      (bodySighting trace.responseBody) ∈ entriesOf endpoint trace := by
  have hresponse : _ ∈ responseEntries trace :=
    List.mem_cons_of_mem _ (List.mem_append_right _ (mem_bodyEntries h))
  exact List.mem_append_right _ (List.mem_append_right _ hresponse)

/-- The keys that lead to the operation of an endpoint. -/
def operationKeys (endpoint : Endpoint) : List String :=
  ["paths", endpoint.path, endpoint.method.toLower]

/-- The entries as edits of an operation. -/
def asEdits (entries : List Entry) : List (List String × Entry) := entries.map fun e => (e.keys, e)

/-- The edits of a document that merging a trace comes to. -/
def editsOf (endpoint : Endpoint) (trace : Trace) : List (List String × Entry) :=
  (entriesOf endpoint trace).map fun e => (operationKeys endpoint ++ e.keys, e)

/-! ## Merging is editing -/

theorem asEdits_append (xs ys : List Entry) : asEdits (xs ++ ys) = asEdits xs ++ asEdits ys :=
  List.map_append

theorem forall_asEdits (entries : List Entry) : ∀ e ∈ asEdits entries, e.1 ≠ [] := by
  intro e he
  obtain ⟨a, -, rfl⟩ := List.mem_map.1 he
  exact a.keys_ne_nil

theorem absorbBody_eq (raw : String) :
    absorbBody raw = Dict.alter "schema" (seeAt (bodySighting raw)) := by
  unfold absorbBody bodySighting
  cases Json.parse? raw <;> rfl

/-- A sighting of a schema that a node holds. -/
theorem performs_sighting (spot : Spot) (x : Sighting) :
    Performs Entry.write [(["schema"], Entry.sighting spot x)] (Dict.alter "schema" (seeAt x)) :=
  performs_singleton "schema" (Entry.sighting spot x)

/-- A body is merged below the node that has the content. -/
theorem performs_mergeContent (spot : Spot) (contentType : Option String) (raw : String) :
    Performs Entry.write
      ((bodyEntries spot raw).map fun e => (["content", mediaType contentType, "schema"], e))
      (mergeContent contentType raw) := by
  by_cases h : raw.isEmpty
  · have hchange : mergeContent contentType raw = id := by
      funext node
      rw [mergeContent, if_pos h]
      rfl
    rw [bodyEntries, if_pos h, hchange]
    exact performs_nil
  · have hschema := performs_sighting spot (bodySighting raw)
    rw [← absorbBody_eq] at hschema
    have hmedia := hschema.inChild (mediaType contentType) (by simp) (by simp)
    have hcontent := hmedia.inChild "content" (by simp [pushed]) (by simp [pushed])
    have hchange : mergeContent contentType raw =
        inChild "content" (inChild (mediaType contentType) (absorbBody raw)) := by
      funext node
      rw [mergeContent, if_neg h]
    rw [bodyEntries, if_neg h, hchange]
    exact hcontent

/-- The headers are merged below the node of the response. -/
theorem performs_mergeHeaders (status : String) (headers : List Pair) :
    Performs Entry.write
      (headers.map fun h => (["headers", h.name.toLower, "schema"],
        Entry.sighting (.header status h.name.toLower) (.value (.string h.value))))
      (mergeHeaders headers) := by
  cases headers with
  | nil => exact performs_nil
  | cons first rest =>
    set headers := first :: rest
    have hone : ∀ h : Pair, Performs Entry.write
        [([h.name.toLower, "schema"],
          Entry.sighting (.header status h.name.toLower) (.value (.string h.value)))]
        (inChild h.name.toLower (absorbValue (.string h.value))) := by
      intro h
      exact (performs_sighting (.header status h.name.toLower) (.value (.string h.value))).inChild
        h.name.toLower (by simp) (by simp)
    have hall := (performs_flatMap hone headers).inChild "headers" (by simp [headers])
      (by simp +contextual)
    rw [← List.map_eq_flatMap, pushed, List.map_map] at hall
    exact hall

/-- The response of a trace is merged by its entries. -/
theorem performs_response (trace : Trace) :
    Performs Entry.write (asEdits (responseEntries trace))
      (inChild "responses" (inChild (toString trace.responseStatus) (mergeResponse trace))) := by
  set status := toString trace.responseStatus with hstatus
  have hdescription : Performs Entry.write [(["description"], Entry.status status)]
      (Dict.alter "description" fun old => old.getD (.string (status ++ " description"))) :=
    performs_singleton "description" (Entry.status status)
  have hnode := (hdescription.append (performs_mergeHeaders status trace.responseHeaders)).append
    (performs_mergeContent (.response status (mediaType trace.responseContentType))
      trace.responseContentType trace.responseBody)
  have hkeys : ∀ e ∈ [(["description"], Entry.status status)] ++
      (trace.responseHeaders.map fun h => (["headers", h.name.toLower, "schema"],
        Entry.sighting (.header status h.name.toLower) (.value (.string h.value)))) ++
      (bodyEntries (.response status (mediaType trace.responseContentType))
        trace.responseBody).map fun e =>
          (["content", mediaType trace.responseContentType, "schema"], e), e.1 ≠ [] := by
    simp only [List.forall_mem_append, List.forall_mem_map]
    exact ⟨⟨by simp, by simp⟩, by simp⟩
  have hall := (hnode.inChild status (by simp) hkeys).inChild "responses"
    (pushed_ne_nil (by simp)) (forall_pushed _ _)
  have hedits : asEdits (responseEntries trace) = pushed "responses" (pushed status
      ([(["description"], Entry.status status)] ++
        (trace.responseHeaders.map fun h => (["headers", h.name.toLower, "schema"],
          Entry.sighting (.header status h.name.toLower) (.value (.string h.value)))) ++
        (bodyEntries (.response status (mediaType trace.responseContentType))
          trace.responseBody).map fun e =>
            (["content", mediaType trace.responseContentType, "schema"], e))) := by
    unfold responseEntries bodyEntries
    split <;>
      simp [headerEntries, asEdits, pushed, Entry.keys, Spot.keys, Function.comp_def, ← hstatus]
  rw [hedits]
  exact hall

/-- The request body of a trace is merged by its entries. -/
theorem performs_request (trace : Trace) :
    Performs Entry.write (asEdits (requestEntries trace))
      (fun operation =>
        if trace.requestBody.isEmpty then operation
        else
          inChild "requestBody" (mergeContent trace.requestContentType trace.requestBody)
            operation) := by
  have hcontent := performs_mergeContent (.request (mediaType trace.requestContentType))
    trace.requestContentType trace.requestBody
  unfold requestEntries
  unfold bodyEntries at hcontent ⊢
  split
  · exact performs_nil
  · next h =>
    rw [if_neg h] at hcontent
    exact hcontent.inChild "requestBody" (by simp) (by simp)

/-- The parameters of a trace are merged by their entries. -/
theorem performs_parameters (endpoint : Endpoint) (trace : Trace) :
    Performs Entry.write (asEdits (parameterEntries endpoint trace))
      (fun operation =>
        (parametersOf endpoint trace).foldl (fun op p => mergeParameter p.1 p.2.1 p.2.2 op)
          operation) := by
  have hone : ∀ p : String × String × Json, Performs Entry.write
      [(["parameters"], Entry.parameter p.1 p.2.1 p.2.2)] (mergeParameter p.1 p.2.1 p.2.2) :=
    fun p => performs_singleton "parameters" (Entry.parameter p.1 p.2.1 p.2.2)
  have hall := performs_flatMap hone (parametersOf endpoint trace)
  rw [← List.map_eq_flatMap] at hall
  unfold parameterEntries asEdits
  rw [List.map_map]
  exact hall

/-- The entries of a trace merge it into its operation. -/
theorem performs_mergeOperation (endpoint : Endpoint) (trace : Trace) :
    Performs Entry.write (asEdits (entriesOf endpoint trace)) (mergeOperation endpoint trace) := by
  unfold entriesOf
  rw [asEdits_append, asEdits_append, ← List.append_assoc]
  exact ((performs_parameters endpoint trace).append (performs_request trace)).append
    (performs_response trace)

theorem editsOf_eq (endpoint : Endpoint) (trace : Trace) :
    editsOf endpoint trace =
      pushed "paths" (pushed endpoint.path (pushed endpoint.method.toLower
        (asEdits (entriesOf endpoint trace)))) := by
  simp [editsOf, pushed, asEdits, operationKeys]

theorem entriesOf_ne_nil (endpoint : Endpoint) (trace : Trace) : entriesOf endpoint trace ≠ [] := by
  simp [entriesOf, responseEntries]

/-- **To merge a trace is to run its edits.** -/
theorem run_editsOf (members : Members) (endpoint : Endpoint) (trace : Trace) :
    run Entry.write (editsOf endpoint trace) (some (.object members)) =
      some (mergeTrace (.object members) endpoint trace).2 := by
  have hne : asEdits (entriesOf endpoint trace) ≠ [] := by
    simp [asEdits, entriesOf_ne_nil]
  have hmethod := (performs_mergeOperation endpoint trace).inChild endpoint.method.toLower hne
    (forall_asEdits _)
  have hpath := hmethod.inChild endpoint.path (pushed_ne_nil hne) (forall_pushed _ _)
  have hpaths := hpath.inChild "paths" (pushed_ne_nil (pushed_ne_nil hne)) (forall_pushed _ _)
  rw [editsOf_eq]
  exact hpaths members

/-! ## Traffic -/

/-- A document after some traffic. -/
def mergeAll (doc : Json) (traffic : List (Endpoint × Trace)) : Json :=
  traffic.foldl (fun doc p => (mergeTrace doc p.1 p.2).2) doc

/-- The edits that merging traffic comes to. -/
def editsOfAll (traffic : List (Endpoint × Trace)) : List (List String × Entry) :=
  traffic.flatMap fun p => editsOf p.1 p.2

theorem exists_mergeAll_eq_object (members : Members) (traffic : List (Endpoint × Trace)) :
    ∃ ms, mergeAll (.object members) traffic = .object ms := by
  induction traffic generalizing members with
  | nil => exact ⟨members, rfl⟩
  | cons p traffic ih => exact ih _

/-- **To merge traffic is to run its edits.** -/
theorem run_editsOfAll (members : Members) (traffic : List (Endpoint × Trace)) :
    run Entry.write (editsOfAll traffic) (some (.object members)) =
      some (mergeAll (.object members) traffic) := by
  induction traffic generalizing members with
  | nil => rfl
  | cons p traffic ih =>
    have hedits : editsOfAll (p :: traffic) = editsOf p.1 p.2 ++ editsOfAll traffic := rfl
    rw [hedits, run_append, run_editsOf]
    exact ih _

theorem mem_editsOfAll {traffic : List (Endpoint × Trace)} {path : List String} {a : Entry} :
    (path, a) ∈ editsOfAll traffic ↔
      ∃ p ∈ traffic, a ∈ entriesOf p.1 p.2 ∧ path = operationKeys p.1 ++ a.keys := by
  simp only [editsOfAll, editsOf, List.mem_flatMap, List.mem_map, Prod.mk.injEq]
  constructor
  · rintro ⟨p, hp, b, hb, rfl, rfl⟩
    exact ⟨p, hp, hb, rfl⟩
  · rintro ⟨p, hp, ha, rfl⟩
    exact ⟨p, hp, a, ha, rfl, rfl⟩

theorem exists_operation_of_mem_editsOfAll {traffic : List (Endpoint × Trace)} :
    ∀ d ∈ editsOfAll traffic, ∃ endpoint, d.1 = operationKeys endpoint ++ d.2.keys := by
  intro d hd
  obtain ⟨p, -, -, hpath⟩ := mem_editsOfAll.1 hd
  exact ⟨p.1, hpath⟩

/-- A place lies on the way to another one only if both are in one operation. -/
theorem operationKeys_append_prefix {e f : Endpoint} {p q : List String} :
    operationKeys e ++ p <+: operationKeys f ++ q ↔
      operationKeys e = operationKeys f ∧ p <+: q := by
  simp [operationKeys, List.cons_prefix_cons, and_assoc]

/-- No place of a document is on the way to another one. -/
theorem places_eq_of_begins {e f : Endpoint} {a b : Entry}
    (h : operationKeys e ++ a.keys <+: operationKeys f ++ b.keys) :
    operationKeys e = operationKeys f ∧ a.keys = b.keys := by
  obtain ⟨hoperation, hkeys⟩ := operationKeys_append_prefix.1 h
  exact ⟨hoperation, Entry.keys_eq_of_begins hkeys⟩

end TrafficLens.Document
