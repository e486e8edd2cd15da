import Mathlib.Logic.Relation
import TrafficLens.Analysis.SpecDiff
import TrafficLens.Proofs.Increasing

/-!
# What a comparison with a document lists

`diff_lists` says what the differences of a trace from a document are, for all documents, also those
whose references go round in circles or nowhere. The list increases, and it does not depend on the
order of query parameters. If no operation is found then that is all that is listed. Otherwise each
kind of difference is listed exactly where the trace shows something that the operation found does
not describe (`Lists`).

For bodies this is about walks. A `Spot` is a part of a body together with the schema that is left
for it, and a spot leads to another one by a step that the document describes, to a member whose key
is among the properties or to an item. A key is listed if a spot that can be reached has it and its
schema has properties, but none of that name (`mem_undescribed`).
-/

namespace TrafficLens

open Std

/-! ## Differences in order -/

theorem SpecDiffKind.rank_injective : Function.Injective SpecDiffKind.rank := by
  intro a b h
  cases a <;> cases b <;> simp_all [rank]

instance : TransOrd SpecDiffKind := inferInstanceAs (TransCmp (compareOn SpecDiffKind.rank))

instance : LawfulEqOrd SpecDiffKind where
  eq_of_compare {_ _} h := SpecDiffKind.rank_injective (LawfulEqOrd.eq_of_compare h)

instance : TransOrd SpecDiff :=
  inferInstanceAs (TransCmp (compareLex (compareOn SpecDiff.kind) (compareOn SpecDiff.location)))

instance : LawfulEqOrd SpecDiff where
  eq_of_compare {a b} h := by
    obtain ⟨k, l⟩ := a
    obtain ⟨k', l'⟩ := b
    have h : (compare k k').then (compare l l') = .eq := h
    rw [Ordering.then_eq_eq] at h
    rw [LawfulEqOrd.eq_of_compare h.1, LawfulEqOrd.eq_of_compare h.2]

namespace SpecDiff

/-! ## Walks through a body -/

/-- The properties that a schema describes behind its references. -/
def properties? (doc schema : Json) : Option (List (String × Json)) :=
  ((resolve doc schema).member? "properties").bind Json.members?

/-- A part of a body, with its location and the schema for it. -/
structure Spot where
  schema : Json
  location : String
  body : Json

/-- A step into a part of the body that the document describes. -/
inductive Leads (doc : Json) : Spot → Spot → Prop
  | property {schema sub value : Json} {location key : String}
    {members properties : List (String × Json)} (hproperties : properties? doc schema = some properties)
    (hsub : Dict.find? key properties = some sub) (hvalue : (key, value) ∈ members) :
    Leads doc ⟨schema, location, .object members⟩ ⟨sub, location ++ "." ++ key, value⟩
  | item {schema sub value : Json} {location : String} {items : List Json}
    (hsub : (resolve doc schema).member? "items" = some sub) (hvalue : value ∈ items) :
    Leads doc ⟨schema, location, .array items⟩ ⟨sub, location ++ "[]", value⟩

/-- The spot has a key that is not among the properties of its schema, and this is where. -/
inductive Misses (doc : Json) : Spot → String → Prop
  | key {schema value : Json} {location key : String} {members properties : List (String × Json)}
    (hproperties : properties? doc schema = some properties)
    (hnone : Dict.find? key properties = none) (hvalue : (key, value) ∈ members) :
    Misses doc ⟨schema, location, .object members⟩ (location ++ "." ++ key)

/-- A key is missed at the place, at a spot to which described steps lead. -/
def Undescribed (doc : Json) (spot : Spot) (place : String) : Prop :=
  ∃ spot', Relation.ReflTransGen (Leads doc) spot spot' ∧ Misses doc spot' place

variable {doc : Json}

/-- What is missed is missed at once, or after a step. -/
theorem undescribed_iff {spot : Spot} {place : String} : Undescribed doc spot place ↔
    Misses doc spot place ∨ ∃ spot', Leads doc spot spot' ∧ Undescribed doc spot' place := by
  constructor
  · rintro ⟨last, hwalk, hmisses⟩
    obtain rfl | ⟨next, hstep, hrest⟩ := hwalk.cases_head
    · exact .inl hmisses
    · exact .inr ⟨next, hstep, last, hrest, hmisses⟩
  · rintro (hmisses | ⟨next, hstep, last, hrest, hmisses⟩)
    · exact ⟨spot, .refl, hmisses⟩
    · exact ⟨last, .head hstep hrest, hmisses⟩

/-- A body without parts has nothing that a schema could miss. -/
theorem not_undescribed {schema body : Json} {location place : String}
    (hobject : ∀ members, body ≠ .object members) (harray : ∀ items, body ≠ .array items) :
    ¬ Undescribed doc ⟨schema, location, body⟩ place := by
  rw [undescribed_iff]
  rintro (hmisses | ⟨_, hstep, -⟩)
  · cases hmisses with
    | key => exact hobject _ rfl
  · cases hstep with
    | property => exact hobject _ rfl
    | item => exact harray _ rfl

theorem undescribed_array_iff {schema : Json} {location place : String} {items : List Json} :
    Undescribed doc ⟨schema, location, .array items⟩ place ↔
      ∃ sub, (resolve doc schema).member? "items" = some sub ∧
        ∃ value ∈ items, Undescribed doc ⟨sub, location ++ "[]", value⟩ place := by
  rw [undescribed_iff]
  constructor
  · rintro (hmisses | ⟨_, hstep, hrest⟩)
    · cases hmisses
    · cases hstep with
      | item hsub hvalue => exact ⟨_, hsub, _, hvalue, hrest⟩
  · rintro ⟨sub, hsub, value, hvalue, hrest⟩
    exact .inr ⟨_, .item hsub hvalue, hrest⟩

theorem undescribed_object_iff {schema : Json} {location place : String}
    {members : List (String × Json)} :
    Undescribed doc ⟨schema, location, .object members⟩ place ↔
      ∃ properties, properties? doc schema = some properties ∧ ∃ m ∈ members,
        (Dict.find? m.1 properties = none ∧ place = location ++ "." ++ m.1) ∨
          ∃ sub, Dict.find? m.1 properties = some sub ∧
            Undescribed doc ⟨sub, location ++ "." ++ m.1, m.2⟩ place := by
  rw [undescribed_iff]
  constructor
  · rintro (hmisses | ⟨_, hstep, hrest⟩)
    · cases hmisses with
      | key hproperties hnone hvalue =>
        exact ⟨_, hproperties, _, hvalue, .inl ⟨hnone, rfl⟩⟩
    · cases hstep with
      | property hproperties hsub hvalue =>
        exact ⟨_, hproperties, _, hvalue, .inr ⟨_, hsub, hrest⟩⟩
  · rintro ⟨properties, hproperties, ⟨key, value⟩, hvalue, ⟨hnone, rfl⟩ | ⟨sub, hsub, hrest⟩⟩
    · exact .inl (.key hproperties hnone hvalue)
    · exact .inr ⟨_, .property hproperties hsub hvalue, hrest⟩

mutual

/-- **The places that are listed for a body** are those where a key is missed after described
steps. -/
theorem mem_undescribed : (body : Json) → ∀ {schema : Json} {location place : String},
    place ∈ undescribed doc schema location body ↔
      Undescribed doc ⟨schema, location, body⟩ place
  | .null, _, _, _ => iff_of_false List.not_mem_nil (not_undescribed nofun nofun)
  | .bool _, _, _, _ => iff_of_false List.not_mem_nil (not_undescribed nofun nofun)
  | .number _, _, _, _ => iff_of_false List.not_mem_nil (not_undescribed nofun nofun)
  | .string _, _, _, _ => iff_of_false List.not_mem_nil (not_undescribed nofun nofun)
  | .array items, schema, location, place => by
    rw [undescribed, undescribed_array_iff]
    cases hsub : (resolve doc schema).member? "items" with
    | none => simp
    | some sub => simp [mem_undescribedItems items]
  | .object members, schema, location, place => by
    rw [undescribed, undescribed_object_iff, ← properties?]
    cases hproperties : properties? doc schema with
    | none => simp
    | some properties => simp [mem_undescribedMembers members]

theorem mem_undescribedItems : (items : List Json) → ∀ {schema : Json} {location place : String},
    place ∈ undescribedItems doc schema location items ↔
      ∃ value ∈ items, Undescribed doc ⟨schema, location, value⟩ place
  | [], _, _, _ => by simp [undescribedItems]
  | value :: rest, schema, location, place => by
    rw [undescribedItems, List.mem_append, mem_undescribed value, mem_undescribedItems rest]
    simp only [List.mem_cons, exists_eq_or_imp]

theorem mem_undescribedMembers : (members : List (String × Json)) →
    ∀ {properties : List (String × Json)} {location place : String},
      place ∈ undescribedMembers doc properties location members ↔ ∃ m ∈ members,
        (Dict.find? m.1 properties = none ∧ place = location ++ "." ++ m.1) ∨
          ∃ sub, Dict.find? m.1 properties = some sub ∧
            Undescribed doc ⟨sub, location ++ "." ++ m.1, m.2⟩ place
  | [], _, _, _ => by simp [undescribedMembers]
  | (key, value) :: rest, properties, location, place => by
    rw [undescribedMembers, List.mem_append, mem_undescribedMembers rest]
    simp only [List.mem_cons, exists_eq_or_imp]
    cases hsub : Dict.find? key properties with
    | none => simp
    | some sub => simp [mem_undescribed value]

end

/-! ## What an operation describes -/

/-- The document has the method on a path with the shape of the template. -/
def Offers (doc : Json) (path method : String) : Prop :=
  ∃ paths, doc.member? "paths" = some (.object paths) ∧ ∃ e ∈ paths,
    sameShape (Path.segments e.1) (Path.segments path) ∧
      ((resolve doc e.2).member? method.toLower).isSome

theorem isSome_findOperation_iff {path method : String} :
    (findOperation doc path method).isSome ↔ Offers doc path method := by
  unfold findOperation Offers
  cases hpaths : doc.member? "paths" with
  | none => simp
  | some value =>
    cases value with
    | object paths =>
      simp only [Option.bind_some, Json.members?, Option.some.injEq, Json.object.injEq,
        exists_eq_left']
      refine (List.findSome?_isSome_iff).trans (exists_congr fun e => and_congr_right fun _ => ?_)
      split <;> simp_all
    | _ => simp [Json.members?]

/-- A path item or an operation describes a query parameter. -/
def DescribesQuery (doc node : Json) (name : String) : Prop :=
  ∃ parameters, node.member? "parameters" = some (.array parameters) ∧ ∃ p ∈ parameters,
    (resolve doc p).member? "in" = some (.string "query") ∧
      (resolve doc p).member? "name" = some (.string name)

theorem bind_string?_eq_some {v : Option Json} {s : String} :
    v.bind Json.string? = some s ↔ v = some (.string s) := by
  rcases v with _ | v
  · simp
  · cases v <;> simp [Json.string?]

theorem mem_queryNames_iff {node : Json} {name : String} :
    name ∈ queryNames doc node ↔ DescribesQuery doc node name := by
  unfold queryNames DescribesQuery
  cases hparameters : node.member? "parameters" with
  | none => simp
  | some value =>
    cases value with
    | array parameters =>
      simp only [Option.bind_some, Json.items?, Option.getD_some, List.mem_filterMap,
        Option.some.injEq, Json.array.injEq, exists_eq_left', bind_string?_eq_some]
      refine exists_congr fun p => and_congr_right fun _ => ?_
      split <;> simp_all [bind_string?_eq_some]
    | _ => simp [Json.items?]

/-- The schema for the body of the request. -/
def requestSchema? (doc operation : Json) (trace : Trace) : Option Json := do
  let body ← operation.member? "requestBody"
  let content ← (resolve doc body).member? "content"
  mediaSchema? doc content trace.requestContentType

/-- The response that an operation describes for the status, or else for all others. -/
def response? (operation : Json) (status : String) : Option Json :=
  let responses := ((operation.member? "responses").bind Json.members?).getD []
  (Dict.find? status responses).or (Dict.find? "default" responses)

/-- The schema for the body of the response. -/
def responseSchema? (doc operation : Json) (trace : Trace) : Option Json := do
  let response ← response? operation (toString trace.responseStatus)
  let content ← (resolve doc response).member? "content"
  mediaSchema? doc content trace.responseContentType

/-- The differences of a trace from an operation are listed, and nothing else is. -/
structure Lists (doc item operation : Json) (trace : Trace) (diffs : List SpecDiff) : Prop where
  /-- The operation itself is described. -/
  offered (place : String) : ⟨.operation, place⟩ ∉ diffs
  /-- A query parameter is listed if neither the path item nor the operation describes it. -/
  query (place : String) : ⟨.queryParameter, place⟩ ∈ diffs ↔
    ∃ p ∈ trace.requestParameters, place = "query." ++ p.name ∧
      ¬ DescribesQuery doc item p.name ∧ ¬ DescribesQuery doc operation p.name
  /-- A place of the request body is listed if a key is missed there. -/
  request (place : String) : ⟨.requestProperty, place⟩ ∈ diffs ↔
    ∃ schema, requestSchema? doc operation trace = some schema ∧
      Undescribed doc ⟨schema, "req.body", Json.ofTextOrString trace.requestBody⟩ place
  /-- The status is listed if there is no response for it. -/
  status (place : String) : ⟨.status, place⟩ ∈ diffs ↔
    place = "status." ++ toString trace.responseStatus ∧
      response? operation (toString trace.responseStatus) = none
  /-- A place of the response body is listed if a key is missed there. -/
  response (place : String) : ⟨.responseProperty, place⟩ ∈ diffs ↔
    ∃ schema, responseSchema? doc operation trace = some schema ∧
      Undescribed doc ⟨schema, "res.body." ++ toString trace.responseStatus,
        Json.ofTextOrString trace.responseBody⟩ place

/-! ## The parts of the list -/

theorem mem_parameterDiffs {item operation : Json} {trace : Trace} {d : SpecDiff} :
    d ∈ parameterDiffs doc item operation trace ↔
      ∃ p ∈ trace.requestParameters, d = ⟨.queryParameter, "query." ++ p.name⟩ ∧
        ¬ DescribesQuery doc item p.name ∧ ¬ DescribesQuery doc operation p.name := by
  simp only [parameterDiffs, List.mem_map, List.mem_filter, List.contains_eq_mem,
    Bool.not_eq_true', decide_eq_false_iff_not, List.mem_append, mem_queryNames_iff, not_or]
  constructor
  · rintro ⟨p, ⟨hp, hnot⟩, rfl⟩
    exact ⟨p, hp, rfl, hnot⟩
  · rintro ⟨p, hp, rfl, hnot⟩
    exact ⟨p, ⟨hp, hnot⟩, rfl⟩

/-- Nothing is missed in a body without text. -/
theorem not_undescribed_empty {schema : Json} {location place : String} :
    ¬ Undescribed doc ⟨schema, location, Json.ofTextOrString ""⟩ place := by
  have hvalue : Json.ofTextOrString "" = .string "" := by decide +kernel
  rw [hvalue]
  exact not_undescribed nofun nofun

theorem mem_bodyDiffs {content : Option Json} {contentType : Option String} {raw location : String}
    {kind : SpecDiffKind} {d : SpecDiff} :
    d ∈ bodyDiffs doc content contentType raw location kind ↔
      ∃ place, d = ⟨kind, place⟩ ∧ ∃ schema,
        (content.bind fun c => mediaSchema? doc c contentType) = some schema ∧
          Undescribed doc ⟨schema, location, Json.ofTextOrString raw⟩ place := by
  unfold bodyDiffs
  by_cases hraw : raw = ""
  · subst hraw
    simp [not_undescribed_empty]
  · rw [if_neg (by simpa using hraw)]
    cases hschema : content.bind fun c => mediaSchema? doc c contentType with
    | none => simp
    | some schema => simp [mem_undescribed, and_comm, eq_comm]

theorem mem_requestDiffs {operation : Json} {trace : Trace} {d : SpecDiff} :
    d ∈ requestDiffs doc operation trace ↔
      ∃ place, d = ⟨.requestProperty, place⟩ ∧ ∃ schema,
        requestSchema? doc operation trace = some schema ∧
          Undescribed doc ⟨schema, "req.body", Json.ofTextOrString trace.requestBody⟩ place := by
  have hschema : requestSchema? doc operation trace =
      ((((operation.member? "requestBody").map (resolve doc)).bind (Json.member? "content")).bind
        fun c => mediaSchema? doc c trace.requestContentType) := by
    unfold requestSchema?
    cases operation.member? "requestBody" <;> rfl
  rw [requestDiffs, mem_bodyDiffs, hschema]

theorem mem_responseDiffs {operation : Json} {trace : Trace} {d : SpecDiff} :
    d ∈ responseDiffs doc operation trace ↔
      (d = ⟨.status, "status." ++ toString trace.responseStatus⟩ ∧
        response? operation (toString trace.responseStatus) = none) ∨
      ∃ place, d = ⟨.responseProperty, place⟩ ∧ ∃ schema,
        responseSchema? doc operation trace = some schema ∧
          Undescribed doc ⟨schema, "res.body." ++ toString trace.responseStatus,
            Json.ofTextOrString trace.responseBody⟩ place := by
  unfold responseSchema?
  cases hresponse : response? operation (toString trace.responseStatus) with
  | none =>
    have hdiffs : responseDiffs doc operation trace =
        [⟨.status, "status." ++ toString trace.responseStatus⟩] := by
      simp only [response?] at hresponse
      simp only [responseDiffs, hresponse]
    simp [hdiffs]
  | some response =>
    have hdiffs : responseDiffs doc operation trace =
        bodyDiffs doc ((resolve doc response).member? "content") trace.responseContentType
          trace.responseBody ("res.body." ++ toString trace.responseStatus) .responseProperty := by
      simp only [response?] at hresponse
      simp only [responseDiffs, hresponse]
    simp [hdiffs, mem_bodyDiffs]

/-- What is listed once an operation was found. -/
theorem mem_diff_of_found {path method : String} {trace : Trace} {item operation : Json}
    (h : findOperation doc path method = some (item, operation)) {d : SpecDiff} :
    d ∈ diff doc path method trace ↔ d ∈ parameterDiffs doc item operation trace ∨
      d ∈ requestDiffs doc operation trace ∨ d ∈ responseDiffs doc operation trace := by
  rw [diff, h]
  simp only [mem_sortDistinct, List.mem_append, or_assoc]

theorem lists_of_found {path method : String} {trace : Trace} {item operation : Json}
    (h : findOperation doc path method = some (item, operation)) :
    Lists doc item operation trace (diff doc path method trace) := by
  constructor <;> intro place <;>
    simp [mem_diff_of_found h, mem_parameterDiffs, mem_requestDiffs, mem_responseDiffs]

/-! ## The whole list -/

theorem increasing_diff (doc : Json) (path method : String) (trace : Trace) :
    Increasing (diff doc path method trace) := by
  unfold diff
  split
  · exact List.pairwise_singleton _ _
  · exact increasing_sortDistinct _

/-- The order of query parameters does not matter. -/
theorem diff_perm (doc : Json) (path method : String) (trace : Trace) {parameters : List Pair}
    (h : parameters.Perm trace.requestParameters) :
    diff doc path method { trace with requestParameters := parameters } =
      diff doc path method trace := by
  cases hfound : findOperation doc path method with
  | none => rw [diff, diff, hfound]
  | some found =>
    refine (increasing_diff ..).ext (increasing_diff ..) fun d => ?_
    rw [mem_diff_of_found hfound, mem_diff_of_found hfound, mem_parameterDiffs, mem_parameterDiffs]
    simp only [h.mem_iff]
    rfl

/-- **What a comparison lists.** The differences of a trace from a document increase and do not depend
on the order of the query parameters. If the document does not offer the operation then that is the
only one, and only then. Otherwise they are the differences from the operation that is found. -/
theorem diff_lists (doc : Json) (path method : String) (trace : Trace) :
    Increasing (diff doc path method trace) ∧
      (∀ parameters : List Pair, parameters.Perm trace.requestParameters →
        diff doc path method { trace with requestParameters := parameters } =
          diff doc path method trace) ∧
      (diff doc path method trace = [⟨.operation, method.toUpper ++ " " ++ path⟩] ↔
        ¬ Offers doc path method) ∧
      (Offers doc path method → ∃ item operation,
        findOperation doc path method = some (item, operation) ∧
          Lists doc item operation trace (diff doc path method trace)) := by
  refine ⟨increasing_diff .., fun _ h => diff_perm doc path method trace h, ?_⟩
  rw [← isSome_findOperation_iff]
  cases hfound : findOperation doc path method with
  | none => exact ⟨iff_of_true (by rw [diff, hfound]) nofun, nofun⟩
  | some found =>
    have hlists : Lists doc found.1 found.2 trace (diff doc path method trace) :=
      lists_of_found hfound
    refine ⟨iff_of_false (fun hdiff => ?_) (by simp), fun _ => ⟨_, _, rfl, hlists⟩⟩
    exact hlists.offered _ (hdiff ▸ List.mem_singleton_self _)

/-- A document with a list whose nodes are described by a schema that refers to itself, and a response
without a target for its reference. -/
def listDocument : Json :=
  let node : Json := .object [("properties", .object
    [("next", .object [("$ref", .string "#/schemas/Node")]), ("tags", .object [])])]
  .object
    [("parameters", .object
        [("page", .object [("in", .string "query"), ("name", .string "page")])]),
      ("paths", .object [("/lists/\x7bid\x7d", .object [("get", .object
        [("parameters", .array [.object [("$ref", .string "#/parameters/page")]]),
          ("responses", .object
            [("200", .object [("content", .object
              [("application/json", .object
                [("schema", .object [("$ref", .string "#/schemas/Node")])])])]),
              ("404", .object [("$ref", .string "#/responses/gone")])])])])]),
      ("schemas", .object [("Loop", .object [("$ref", .string "#/schemas/Loop")]), ("Node", node)])]

/-- A list of two nodes, the inner one with a member more. -/
def listTrace : Trace :=
  { Trace.bare (.ofNat 1) ⟨0, 0⟩ "api.local" "GET" "/lists/7" 200 with
    requestParameters := [⟨"sort", "up"⟩, ⟨"page", "2"⟩, ⟨"sort", "down"⟩]
    responseBody := "\x7b\"next\":\x7b\"size\":1,\"tags\":[\x7b\"k\":1\x7d]\x7d\x7d" }

/-- References in a circle are followed as long as there is a body. -/
theorem diff_lists_list :
    Offers listDocument "/lists/\x7bparam1\x7d" "GET" ∧
      diff listDocument "/lists/\x7bparam1\x7d" "GET" listTrace =
        [⟨.queryParameter, "query.sort"⟩, ⟨.responseProperty, "res.body.200.next.size"⟩] ∧
      ∃ item operation,
        findOperation listDocument "/lists/\x7bparam1\x7d" "GET" = some (item, operation) ∧
          Lists listDocument item operation listTrace
            [⟨.queryParameter, "query.sort"⟩, ⟨.responseProperty, "res.body.200.next.size"⟩] := by
  have hoffers : Offers listDocument "/lists/\x7bparam1\x7d" "GET" :=
    isSome_findOperation_iff.1 (by decide +kernel)
  have hdiff : diff listDocument "/lists/\x7bparam1\x7d" "GET" listTrace =
      [⟨.queryParameter, "query.sort"⟩, ⟨.responseProperty, "res.body.200.next.size"⟩] := by
    decide +kernel
  have hlists := (diff_lists listDocument "/lists/\x7bparam1\x7d" "GET" listTrace).2.2.2 hoffers
  rw [hdiff] at hlists
  exact ⟨hoffers, hdiff, hlists⟩

end SpecDiff

end TrafficLens
