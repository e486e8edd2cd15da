import Mathlib.Data.List.Nodup
import TrafficLens.Proofs.Document.Coverage

/-!
# Generated documents are well formed

A reader of a document asks four things of an operation: that no two of its parameters have one
name and one location, that every placeholder of its path is a required parameter, that every
response is described, and that everything that should hold a schema holds one. A generated document
has all of them, whatever names, media types and repetitions the traffic has, if the paths of the
traces fit those of their endpoints (`wellFormed_generatedFrom`). Apart from its paths it is the
document that was there before any trace.

The argument goes from a node of the document to the edit that put it there
(`exists_said_of_valueAt`): what stands in a document was said by a trace, and a trace that says one
thing of a response says the status as well.
-/

namespace TrafficLens.Document

/-! ## Operations and what they hold -/

/-- The node is the operation of a document under a path and a method. -/
def IsOperation (doc : Json) (path method : String) (operation : Json) : Prop :=
  ∃ item, (path, item) ∈ membersOf (doc.member? "paths") ∧
    (method, operation) ∈ membersOf (some item)

/-- The parameters of an operation. -/
def parametersIn (operation : Json) : List Json := itemsOf (operation.member? "parameters")

/-- The responses of an operation, under their statuses. -/
def responsesIn (operation : Json) : Members := membersOf (operation.member? "responses")

/-- The nodes of an operation that have to hold a schema. -/
inductive IsHolder (operation : Json) : Json → Prop where
  | parameter {p : Json} : p ∈ parametersIn operation → IsHolder operation p
  | request {body m : Json} {media : String} : operation.member? "requestBody" = some body →
      (media, m) ∈ membersOf (body.member? "content") → IsHolder operation m
  | header {status name : String} {r h : Json} : (status, r) ∈ responsesIn operation →
      (name, h) ∈ membersOf (r.member? "headers") → IsHolder operation h
  | response {status media : String} {r m : Json} : (status, r) ∈ responsesIn operation →
      (media, m) ∈ membersOf (r.member? "content") → IsHolder operation m

/-- The parameter is a required one of the path, with this name. -/
def isSlotParameter (name : String) (p : Json) : Bool :=
  isParameter name "path" p && p.member? "required" == some (.bool true)

/-- What a reader asks of an operation under a path. -/
structure WellFormed (path : String) (operation : Json) : Prop where
  distinct : ((parametersIn operation).map fun p => (p.member? "name", p.member? "in")).Nodup
  slots : ∀ s ∈ Path.segments path, Path.isPlaceholder s →
    (parametersIn operation).countP (isSlotParameter (slotName s)) = 1
  described : ∀ r ∈ responsesIn operation, ∃ text, r.2.member? "description" = some (.string text)
  schemas : ∀ holder, IsHolder operation holder →
    ∃ node s, holder.member? "schema" = some node ∧ Schema.ofJson? node = some s

/-! ## From a node to what was said -/

/-- The keys that lead to the node that holds the schema. -/
def Spot.holderKeys : Spot → List String
  | .request media => ["requestBody", "content", media]
  | .header status name => ["responses", status, "headers", name]
  | .response status media => ["responses", status, "content", media]

theorem Spot.holderKeys_append (spot : Spot) : spot.holderKeys ++ ["schema"] = spot.keys := by
  cases spot <;> rfl

/-- Below a holder nothing is said but its schema. -/
theorem Entry.eq_sighting_of_begins {a : Entry} {spot : Spot} (h : spot.holderKeys <+: a.keys) :
    ∃ x, a = .sighting spot x := by
  rcases a with _ | ⟨_ | _ | _, x⟩ | _ <;> rcases spot with _ | _ | _ <;>
    simp_all [Entry.keys, Spot.keys, Spot.holderKeys, List.cons_prefix_cons]

theorem Entry.not_begins_holder (a : Entry) (spot : Spot) : ¬ a.keys <+: spot.holderKeys := by
  rcases a with _ | ⟨_ | _ | _, x⟩ | _ <;> rcases spot with _ | _ | _ <;>
    simp [Entry.keys, Spot.keys, Spot.holderKeys, List.cons_prefix_cons]

section Generated

variable {host : String} {traffic : List (Endpoint × Trace)} {endpoint : Endpoint}
  {operation : Json}

/-- The members of a node of a generated document are what stands one key further. -/
theorem mem_membersOf_generatedFrom {path : List String} {key : String} {x : Json} :
    (key, x) ∈ membersOf (valueAt path (some (generatedFrom host traffic))) ↔
      valueAt (path ++ [key]) (some (generatedFrom host traffic)) = some x := by
  have hdocument : ∀ v ∈ some (generatedFrom host traffic), v.Ordered := ordered_generatedFrom
  have hlawful := lawful_valueAt hdocument path
  have hordered :
      Dict.Ordered (membersOf (valueAt path (some (generatedFrom host traffic)))) := by
    rcases hv : valueAt path (some (generatedFrom host traffic)) with _ | _ | _ | _ | _ | _ | ms
    case some.object => exact (Json.lawful_object_iff.1 (hlawful _ hv)).1
    all_goals exact Dict.ordered_nil
  rw [hordered.mem_iff, valueAt_append]
  rfl

theorem isOperation_iff_valueAt {path method : String} :
    IsOperation (generatedFrom host traffic) path method operation ↔
      valueAt ["paths", path, method] (some (generatedFrom host traffic)) = some operation := by
  have hself : valueAt [] (some (generatedFrom host traffic)) = some (generatedFrom host traffic) :=
    rfl
  unfold IsOperation
  rw [member?_generatedFrom hself]
  simp only [mem_membersOf_generatedFrom]
  constructor
  · rintro ⟨item, hitem, hoperation⟩
    rw [← hitem, mem_membersOf_generatedFrom] at hoperation
    exact hoperation
  · intro h
    obtain ⟨ms, hitem⟩ := exists_object_of_valueAt (p := ["paths", path]) h
    exact ⟨.object ms, hitem, hitem ▸ mem_membersOf_generatedFrom.2 h⟩

/-- Every endpoint with traffic has an operation. -/
theorem exists_isOperation (host : String) {p : Endpoint × Trace} (hp : p ∈ traffic) :
    ∃ operation, IsOperation (generatedFrom host traffic) p.1.path p.1.method.toLower
      operation := by
  have hstatus : Said traffic p.1 (.status (toString p.2.responseStatus)) :=
    said_of_mem hp (by simp [entriesOf, responseEntries])
  obtain ⟨v, hv⟩ := exists_valueAt_of_said host hstatus
  obtain ⟨ms, hms⟩ := exists_object_of_valueAt (p := operationKeys p.1) hv
  exact ⟨.object ms, isOperation_iff_valueAt.2 hms⟩

/-- Every operation of a generated document is that of an endpoint. -/
theorem exists_endpoint_of_isOperation {path method : String}
    (h : IsOperation (generatedFrom host traffic) path method operation) :
    ∃ p ∈ traffic, p.1.path = path ∧
      valueAt (operationKeys p.1) (some (generatedFrom host traffic)) = some operation := by
  have hclear : ∀ d ∈ editsOfAll traffic, ¬ d.1 <+: ["paths", path, method] :=
    not_prefix_of_length (by simp)
  have hvalue := isOperation_iff_valueAt.1 h
  obtain ⟨q, a, hd⟩ := exists_edit_of_valueAt (fun d hd hp => absurd hp (hclear d hd)) hvalue
  obtain ⟨p, hp, -, hpath⟩ := mem_editsOfAll.1 hd
  simp only [operationKeys, List.cons_append, List.nil_append, List.cons.injEq] at hpath
  obtain ⟨-, rfl, rfl, -⟩ := hpath
  exact ⟨p, hp, rfl, hvalue⟩

/-- What stands in an operation was said to it. -/
theorem exists_said_of_valueAt {keys : List String} {v : Json}
    (hkeys : ∀ a : Entry, a.keys <+: keys → a.keys = keys)
    (hv : valueAt (operationKeys endpoint ++ keys) (some (generatedFrom host traffic)) = some v) :
    ∃ a, Said traffic endpoint a ∧ keys <+: a.keys := by
  have hends : ∀ d ∈ editsOfAll traffic, d.1 <+: operationKeys endpoint ++ keys →
      d.1 = operationKeys endpoint ++ keys := by
    intro d hd hbegins
    obtain ⟨e, hpath⟩ := exists_operation_of_mem_editsOfAll d hd
    rw [hpath, operationKeys_append_prefix] at hbegins
    rw [hpath, hbegins.1, hkeys d.2 hbegins.2]
  obtain ⟨q, a, hd⟩ := exists_edit_of_valueAt hends hv
  obtain ⟨p, hp, ha, hpath⟩ := mem_editsOfAll.1 hd
  have hbegins : operationKeys endpoint ++ keys <+: operationKeys p.1 ++ a.keys := ⟨q, hpath⟩
  obtain ⟨hoperation, hbegins⟩ := operationKeys_append_prefix.1 hbegins
  exact ⟨a, ⟨p, hp, hoperation.symm, ha⟩, hbegins⟩

/-! ## Schemas and descriptions -/

/-- A node that is there to hold a schema holds one. -/
theorem exists_schema_of_holder {spot : Spot} {holder : Json}
    (h : valueAt (operationKeys endpoint ++ spot.holderKeys) (some (generatedFrom host traffic)) =
      some holder) : ∃ s : Schema, holder.member? "schema" = some s.toJson := by
  obtain ⟨a, hsaid, hbegins⟩ :=
    exists_said_of_valueAt (fun a ha => absurd ha (a.not_begins_holder spot)) h
  obtain ⟨x, rfl⟩ := Entry.eq_sighting_of_begins hbegins
  obtain ⟨xs, hschema, -⟩ := exists_sightings host hsaid
  refine ⟨Schema.empty.seeAll xs, ?_⟩
  rw [member?_generatedFrom h, List.append_assoc, spot.holderKeys_append, hschema]

/-- A trace that says something about a response says its status. -/
theorem said_status_of_begins {status : String} {a : Entry} (h : Said traffic endpoint a)
    (hbegins : ["responses", status] <+: a.keys) : Said traffic endpoint (.status status) := by
  obtain ⟨p, hp, hoperation, ha⟩ := h
  refine ⟨p, hp, hoperation, ?_⟩
  have hstatus : toString p.2.responseStatus = status := by
    simp only [entriesOf, parameterEntries, requestEntries, responseEntries, headerEntries,
      bodyEntries, List.mem_append, List.mem_map, List.mem_cons] at ha
    obtain ⟨_, -, rfl⟩ | ha | rfl | ⟨_, -, rfl⟩ | ha := ha
    · simp [Entry.keys, List.cons_prefix_cons] at hbegins
    · split at ha
      · cases ha
      · obtain rfl := List.mem_singleton.1 ha
        simp [Entry.keys, Spot.keys, List.cons_prefix_cons] at hbegins
    · simpa [Entry.keys, List.cons_prefix_cons, eq_comm] using hbegins
    · simpa [Entry.keys, Spot.keys, List.cons_prefix_cons, eq_comm] using hbegins
    · split at ha
      · cases ha
      · obtain rfl := List.mem_singleton.1 ha
        simpa [Entry.keys, Spot.keys, List.cons_prefix_cons, eq_comm] using hbegins
  simp [entriesOf, responseEntries, hstatus]

theorem exists_description {status : String} {response : Json}
    (h : valueAt (operationKeys endpoint ++ ["responses", status])
      (some (generatedFrom host traffic)) = some response) :
    response.member? "description" = some (.string (status ++ " description")) := by
  have hkeys : ∀ a : Entry, ¬ a.keys <+: ["responses", status] := by
    rintro (_ | ⟨_ | _ | _, _⟩ | _) <;> simp [Entry.keys, Spot.keys, List.cons_prefix_cons]
  obtain ⟨a, hsaid, hbegins⟩ := exists_said_of_valueAt (fun a ha => absurd ha (hkeys a)) h
  rw [member?_generatedFrom h, List.append_assoc]
  exact valueAt_description host (said_status_of_begins hsaid hbegins)

/-! ## Parameters -/

/-- The parameters of an operation, whether there are any or not. -/
theorem exists_parametersIn
    (h : valueAt (operationKeys endpoint) (some (generatedFrom host traffic)) = some operation) :
    ∃ (entries : List Entry) (ps : List ((String × String) × Schema)),
      parametersIn operation = ps.map parameterJson ∧ Collects entries ps ∧
        ∀ n l v, Entry.parameter n l v ∈ entries ↔ Said traffic endpoint (.parameter n l v) := by
  rw [parametersIn, member?_generatedFrom h]
  by_cases hsaid : ∃ n l v, Said traffic endpoint (.parameter n l v)
  · obtain ⟨n, l, v, hsaid⟩ := hsaid
    obtain ⟨entries, ps, hps, hcollects, hentries⟩ := exists_parameters host hsaid
    exact ⟨entries, ps, by rw [hps]; rfl, hcollects, hentries⟩
  · have hnone : valueAt (operationKeys endpoint ++ ["parameters"])
        (some (generatedFrom host traffic)) = none := by
      rw [Option.eq_none_iff_forall_ne_some]
      intro v hv
      obtain ⟨a, ha, hbegins⟩ := exists_said_of_valueAt
        (fun a => Entry.keys_eq_of_begins (b := .parameter "" "" .null)) hv
      have hkeys : a.keys = ["parameters"] :=
        (Entry.keys_eq_of_begins (a := .parameter "" "" .null) hbegins).symm
      obtain ⟨n, l, w, rfl⟩ := Entry.keys_eq_parameters.1 hkeys
      exact hsaid ⟨n, l, w, ha⟩
    refine ⟨[], [], by rw [hnone]; rfl, ⟨List.nodup_nil, by simp, by simp⟩, fun n l v => ?_⟩
    simpa using fun hv => hsaid ⟨n, l, v, hv⟩

end Generated

theorem name_parameterJson (p : (String × String) × Schema) :
    (parameterJson p).member? "name" = some (.string p.1.1) := by
  rw [find?_parameterJson (by decide)]
  rfl

theorem in_parameterJson (p : (String × String) × Schema) :
    (parameterJson p).member? "in" = some (.string p.1.2) := by
  rw [find?_parameterJson (by decide)]
  rfl

theorem schema_parameterJson (p : (String × String) × Schema) :
    (parameterJson p).member? "schema" = some p.2.toJson :=
  Dict.find?_of_seek? (Dict.seek?_alter_self "schema" _ _)

theorem isSlotParameter_parameterJson (name : String) (p : (String × String) × Schema) :
    isSlotParameter name (parameterJson p) = (p.1 == (name, "path")) := by
  rw [Bool.eq_iff_iff, beq_iff_eq, isSlotParameter, Bool.and_eq_true, isParameter_parameterJson,
    find?_parameterJson (by decide)]
  refine and_iff_left_of_imp fun hp => ?_
  rw [hp]
  rfl

/-- A placeholder of the path of an endpoint is said by every trace that fits. -/
theorem exists_parameter_of_slot {endpoint : Endpoint} {trace : Trace}
    (hfits : (Path.segments trace.path).length = (Path.segments endpoint.path).length) {s : String}
    (hs : s ∈ Path.segments endpoint.path) (hslot : Path.isPlaceholder s) :
    ∃ v, Entry.parameter (slotName s) "path" v ∈ entriesOf endpoint trace := by
  have hzip : ((Path.segments endpoint.path).zip (Path.segments trace.path)).map Prod.fst =
      Path.segments endpoint.path := List.map_fst_zip (Nat.le_of_eq hfits.symm)
  rw [← hzip] at hs
  obtain ⟨pair, hpair, rfl⟩ := List.mem_map.1 hs
  have hslots : pair ∈ ((Path.segments endpoint.path).zip (Path.segments trace.path)).filter
      fun s => Path.isPlaceholder s.1 := List.mem_filter.2 ⟨hpair, hslot⟩
  refine ⟨Json.ofTextOrString pair.2, List.mem_append_left _ ?_⟩
  rw [parameterEntries, parametersOf, if_pos hfits.symm]
  simp only [List.map_append, List.map_map, List.mem_append, List.mem_map]
  exact .inl (.inl ⟨pair, hslots, rfl⟩)

/-! ## Documents -/

/-- Merging traffic changes nothing but the paths. -/
theorem filter_mergeAll (members : Members) (traffic : List (Endpoint × Trace)) :
    (membersOf (some (mergeAll (.object members) traffic))).filter (fun m => m.1 ≠ "paths") =
      members.filter fun m => m.1 ≠ "paths" := by
  induction traffic generalizing members with
  | nil => rfl
  | cons p traffic ih =>
    have hstep : mergeAll (.object members) (p :: traffic) =
        mergeAll (mergeTrace (.object members) p.1 p.2).2 traffic := rfl
    rw [hstep, mergeTrace, ih, inChild, Dict.filter_alter]

/-- Every operation of a generated document is well formed. -/
theorem IsOperation.wellFormed {host : String} {traffic : List (Endpoint × Trace)}
    (hfits : ∀ p ∈ traffic,
      (Path.segments p.2.path).length = (Path.segments p.1.path).length)
    {path method : String} {operation : Json}
    (h : IsOperation (generatedFrom host traffic) path method operation) :
    WellFormed path operation := by
  obtain ⟨⟨endpoint, trace⟩, hmem, rfl, hoperation⟩ := exists_endpoint_of_isOperation h
  obtain ⟨entries, ps, hps, hcollects, hentries⟩ := exists_parametersIn hoperation
  have hresponse : ∀ r ∈ responsesIn operation,
      valueAt (operationKeys endpoint ++ ["responses", r.1])
        (some (generatedFrom host traffic)) = some r.2 := by
    intro r hr
    rw [responsesIn, member?_generatedFrom hoperation, mem_membersOf_generatedFrom] at hr
    simpa using hr
  refine ⟨?distinct, ?slots, ?described, ?schemas⟩
  case distinct =>
    have hkeys : ((parametersIn operation).map fun p => (p.member? "name", p.member? "in")) =
        (Dict.keys ps).map fun k => (some (.string k.1), some (.string k.2)) := by
      rw [hps, Dict.keys, List.map_map, List.map_map]
      refine List.map_congr_left fun p _ => ?_
      exact Prod.ext (name_parameterJson p) (in_parameterJson p)
    rw [hkeys]
    refine hcollects.nodup.map fun k l hkl => ?_
    simpa [Prod.ext_iff] using hkl
  case slots =>
    intro s hs hslot
    obtain ⟨v, hv⟩ := exists_parameter_of_slot (hfits _ hmem) hs hslot
    have hkey : (slotName s, "path") ∈ Dict.keys ps :=
      hcollects.complete _ _ _ ((hentries _ _ _).2 (said_of_mem hmem hv))
    calc (parametersIn operation).countP (isSlotParameter (slotName s))
        = (Dict.keys ps).count (slotName s, "path") := by
          rw [hps, Dict.keys, List.countP_map, List.count, List.countP_map]
          exact List.countP_congr fun p _ => by
            rw [Function.comp_apply, isSlotParameter_parameterJson]
            rfl
      _ = 1 := List.count_eq_one_of_mem hcollects.nodup hkey
  case described =>
    intro r hr
    exact ⟨_, exists_description (hresponse r hr)⟩
  case schemas =>
    have hspot : ∀ (spot : Spot) (holder : Json),
        valueAt (operationKeys endpoint ++ spot.holderKeys) (some (generatedFrom host traffic)) =
          some holder → ∃ node s, holder.member? "schema" = some node ∧
            Schema.ofJson? node = some s := by
      intro spot holder hholder
      obtain ⟨s, hs⟩ := exists_schema_of_holder hholder
      exact ⟨_, s, hs, Schema.ofJson?_toJson s⟩
    intro holder hholder
    cases hholder with
    | parameter hp =>
      rw [hps] at hp
      obtain ⟨p, -, rfl⟩ := List.mem_map.1 hp
      exact ⟨_, p.2, schema_parameterJson p, Schema.ofJson?_toJson p.2⟩
    | @request body _ media hbody hm =>
      rw [member?_generatedFrom hoperation] at hbody
      rw [member?_generatedFrom hbody, mem_membersOf_generatedFrom] at hm
      exact hspot (.request media) _ (by simpa [Spot.holderKeys] using hm)
    | @header status name r _ hr hh =>
      rw [member?_generatedFrom (hresponse _ hr), mem_membersOf_generatedFrom] at hh
      exact hspot (.header status name) _ (by simpa [Spot.holderKeys] using hh)
    | @response status media r _ hr hm =>
      rw [member?_generatedFrom (hresponse _ hr), mem_membersOf_generatedFrom] at hm
      exact hspot (.response status media) _ (by simpa [Spot.holderKeys] using hm)

/-- **Generated documents are well formed.** Every operation of a document that is generated from
traffic is well formed if every trace has as many segments as the path of its endpoint, and what the
document has beside its paths is what it had before any trace. -/
theorem wellFormed_generatedFrom (host : String) {traffic : List (Endpoint × Trace)}
    (hfits : ∀ p ∈ traffic,
      (Path.segments p.2.path).length = (Path.segments p.1.path).length) :
    (∀ path method operation, IsOperation (generatedFrom host traffic) path method operation →
      WellFormed path operation) ∧
    (membersOf (some (generatedFrom host traffic))).filter (fun m => m.1 ≠ "paths") =
      (membersOf (some (generated host).spec)).filter fun m => m.1 ≠ "paths" :=
  ⟨fun _ _ _ h => h.wellFormed hfits, filter_mergeAll _ traffic⟩

/-- A header that comes twice, in two cases and with a name that is also that of the placeholder,
and a response without a body after one that is no JSON. -/
theorem wellFormed_generatedFrom_users :
    let t : PathTemplate := ⟨"/users/\x7bparam1\x7d", "^/users/[^/]+(/)*$", 1, false⟩
    let endpoint := Endpoint.ofTemplate (.ofNat 1) "h" "POST" t
    let trace := Trace.bare (.ofNat 2) ⟨0, 0⟩ "h" "POST" "/users/42" 200
    let traffic :=
      [(endpoint, { trace with
          requestHeaders := [⟨"Param1", "a"⟩, ⟨"PARAM1", "b"⟩], responseBody := "[1" }),
       (endpoint, { trace with path := "users//x/", responseHeaders := [⟨"X-A", "1"⟩] })]
    IdentifierPolicy.infer {} "/users/42" = some t ∧
      (∀ p ∈ traffic, (Path.segments p.2.path).length = (Path.segments p.1.path).length) ∧
      ∃ operation, IsOperation (generatedFrom "h" traffic) t.path "post" operation ∧
        WellFormed t.path operation := by
  intro t endpoint trace traffic
  have hinfer : IdentifierPolicy.infer {} "/users/42" = some t := by decide +kernel
  have hfits : ∀ p ∈ traffic,
      (Path.segments p.2.path).length = (Path.segments p.1.path).length := by decide +kernel
  have hmethod : endpoint.method.toLower = "post" := by decide +kernel
  have hfirst : ∃ operation, IsOperation (generatedFrom "h" traffic) endpoint.path
      endpoint.method.toLower operation := exists_isOperation "h" List.mem_cons_self
  obtain ⟨operation, hoperation⟩ := hfirst
  rw [hmethod] at hoperation
  exact ⟨hinfer, hfits, operation, hoperation,
    (wellFormed_generatedFrom "h" hfits).1 t.path "post" operation hoperation⟩

end TrafficLens.Document
