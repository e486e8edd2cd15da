import TrafficLens.Analysis.SpecDiff
import TrafficLens.Proofs.Document.Generated

/-!
# A generated document describes its traffic

The generator and the comparison of a trace with a document are written apart from each other. They
agree: no trace that a generated document was made of shows anything that the document does not
describe (`diff_generated`).

The two meet at three points. A schema that was made of values describes the places of each of them
(`undescribed_eq_nil`): if there are alternatives it has neither properties nor items, and if not,
the properties are those of all the objects that were seen. The path item of an endpoint is the only
one that is found for it, if no other path has its shape (`findOperation_generated`). And the media
type under which a body was filed is the one that it is looked for under, though the two sides cut
it from the content type in different ways (`bodyDiffs_eq_nil`).
-/

namespace TrafficLens

/-- The segments of a path without the names of placeholders. -/
def Path.shape (path : String) : List (Option String) :=
  (Path.segments path).map fun s => if Path.isPlaceholder s then none else some s

namespace Document

open SpecDiff Schema Evidence

/-! ## Schemas describe the values they are made of -/

/-- A schema of some objects has the properties of all of them, or alternatives instead. -/
theorem properties_assemble (n : Option Bool) (seen : Bool) {vs : List Json}
    {ms : List (String × Json)} (h : .object ms ∈ vs) :
    (assemble n seen (alternatives vs)).properties = none ∨
      (assemble n seen (alternatives vs)).properties = some (mergeMembers [] (allMembers vs)) := by
  have hkind : DataType.object ∈ kinds vs := mem_kinds.2 ⟨_, h, by simp, rfl⟩
  unfold alternatives
  rcases hks : kinds vs with _ | ⟨k, _ | ⟨l, rest⟩⟩
  · rw [hks] at hkind
    cases hkind
  · rw [hks] at hkind
    obtain rfl := List.mem_singleton.1 hkind
    exact .inr rfl
  · exact .inl rfl

/-- A schema of some arrays has the items of all of them, or alternatives instead. -/
theorem items_assemble (n : Option Bool) (seen : Bool) {vs xs : List Json} (h : .array xs ∈ vs) :
    (assemble n seen (alternatives vs)).items = none ∨
      (assemble n seen (alternatives vs)).items = some (ofValues (allItems vs)) := by
  have hkind : DataType.array ∈ kinds vs := mem_kinds.2 ⟨_, h, by simp, rfl⟩
  unfold alternatives
  rcases hks : kinds vs with _ | ⟨k, _ | ⟨l, rest⟩⟩
  · rw [hks] at hkind
    cases hkind
  · rw [hks] at hkind
    obtain rfl := List.mem_singleton.1 hkind
    exact .inr rfl
  · exact .inl rfl

/-- A node without a reference is the node behind its references. -/
theorem resolve_eq_self {node : Json} (h : (node.member? "$ref").bind Json.string? = none)
    (doc : Json) : resolve doc node = node := by
  unfold resolve maxReferences resolveWithin
  rw [h]

@[simp] theorem resolve_toJson (doc : Json) (s : Schema) : resolve doc s.toJson = s.toJson :=
  resolve_eq_self (by simp) doc

mutual

/-- **A schema that was made of values describes each of them.** -/
theorem undescribed_eq_nil (doc : Json) (n : Option Bool) (seen : Bool) : (v : Json) →
    ∀ {vs : List Json} (location : String), v ∈ vs →
      undescribed doc (assemble n seen (alternatives vs)).toJson location v = []
  | .null, _, _, _ => rfl
  | .bool _, _, _, _ => rfl
  | .number _, _, _, _ => rfl
  | .string _, _, _, _ => rfl
  | .array xs, vs, location, h => by
    rw [undescribed, resolve_toJson, member?_items]
    rcases items_assemble n seen h with hnone | hsome
    · rw [hnone]
      rfl
    · rw [hsome]
      exact undescribedItems_eq_nil doc xs _ fun x hx => mem_allItems.2 ⟨xs, h, hx⟩
  | .object ms, vs, location, h => by
    rw [undescribed, resolve_toJson, member?_properties]
    rcases properties_assemble n seen h with hnone | hsome
    · rw [hnone]
      rfl
    · rw [hsome]
      exact undescribedMembers_eq_nil doc ms location fun m hm => mem_allMembers.2 ⟨ms, h, hm⟩

theorem undescribedItems_eq_nil (doc : Json) : (xs : List Json) → ∀ {vs : List Json}
    (location : String), (∀ x ∈ xs, x ∈ vs) →
      undescribedItems doc (ofValues vs).toJson location xs = []
  | [], _, _, _ => rfl
  | x :: xs, vs, location, h => by
    obtain ⟨hx, hxs⟩ := List.forall_mem_cons.1 h
    have hfirst := undescribed_eq_nil doc (nullability vs) (!vs.isEmpty) x location hx
    rw [← ofValues_eq] at hfirst
    rw [undescribedItems, hfirst, undescribedItems_eq_nil doc xs location hxs]
    rfl

theorem undescribedMembers_eq_nil (doc : Json) : (ms : List (String × Json)) →
    ∀ {all : List (String × Json)} (location : String), (∀ m ∈ ms, m ∈ all) →
      undescribedMembers doc (propertiesToJson (mergeMembers [] all)) location ms = []
  | [], _, _, _ => rfl
  | (k, x) :: ms, all, location, h => by
    obtain ⟨hx, hms⟩ := List.forall_mem_cons.1 h
    have hunder : x ∈ under k all := mem_under.2 hx
    have hfound : Dict.find? k (mergeMembers [] all) = some (ofValues (under k all)) := by
      rw [Dict.find?_eq_seek? k (ordered_mergeMembers Dict.ordered_nil all), seek?_mergeMembers,
        if_neg (List.ne_nil_of_mem hunder)]
    have hfirst := undescribed_eq_nil doc (nullability (under k all)) (!(under k all).isEmpty) x
      (location ++ "." ++ k) hunder
    rw [← ofValues_eq] at hfirst
    rw [undescribedMembers, find?_propertiesToJson, hfound, Option.map_some,
      undescribedMembers_eq_nil doc ms location hms]
    simpa using hfirst

end

/-- The schema of some sightings describes what each of them shows. -/
theorem undescribed_seeAll (doc : Json) {xs : List Sighting} {raw : String}
    (h : bodySighting raw ∈ xs) (location : String) :
    undescribed doc (empty.seeAll xs).toJson location (Json.ofTextOrString raw) = [] := by
  unfold bodySighting at h
  unfold Json.ofTextOrString
  cases hv : Json.parse? raw with
  | none => rfl
  | some v =>
    rw [hv] at h
    rw [seeAll_empty]
    exact undescribed_eq_nil doc _ _ v location (mem_valuesOf.2 h)

/-! ## Finding the operation -/

theorem sameShape_iff (a b : String) :
    sameShape (Path.segments a) (Path.segments b) ↔ Path.shape a = Path.shape b := by
  unfold Path.shape sameShape
  generalize Path.segments a = xs
  generalize Path.segments b = ys
  induction xs generalizing ys with
  | nil => cases ys <;> simp
  | cons x xs ih =>
    cases ys with
    | nil => simp
    | cons y ys =>
      have hhead : ((Path.isPlaceholder x && Path.isPlaceholder y) || x == y) = true ↔
          (if Path.isPlaceholder x then none else some x) =
            if Path.isPlaceholder y then none else some y := by
        by_cases hx : Path.isPlaceholder x
        · by_cases hy : Path.isPlaceholder y
          · simp [hx, hy]
          · have hne : x ≠ y := fun h => hy (h ▸ hx)
            simp [hx, hy, hne]
        · by_cases hy : Path.isPlaceholder y
          · have hne : x ≠ y := fun h => hx (h ▸ hy)
            simp [hx, hy, hne]
          · simp [hx, hy]
      have htail := ih ys
      simp only [Bool.and_eq_true, beq_iff_eq] at htail
      simp only [List.length_cons, List.zip_cons_cons, List.all_cons, List.map_cons,
        Bool.and_eq_true, List.cons.injEq, beq_iff_eq, Nat.add_right_cancel_iff, hhead, ← htail]
      exact and_left_comm

/-- A search in a list ends with the only thing that can be found, if it is there. -/
theorem findSome?_eq_some_of_unique {α β : Type} {f : α → Option β} {xs : List α} {b : β}
    (hmem : ∃ a ∈ xs, f a = some b) (h : ∀ a ∈ xs, ∀ c, f a = some c → c = b) :
    xs.findSome? f = some b := by
  cases hf : xs.findSome? f with
  | none =>
    obtain ⟨a, ha, hb⟩ := hmem
    rw [List.findSome?_eq_none_iff.1 hf a ha] at hb
    cases hb
  | some c =>
    obtain ⟨a, ha, hc⟩ := List.exists_of_findSome?_eq_some hf
    rw [h a ha c hc]

section Generated

variable {host : String} {traffic : List (Endpoint × Trace)} {endpoint : Endpoint} {trace : Trace}
  {operation : Json}

theorem ordered_generatedFrom : ∀ x ∈ some (generatedFrom host traffic), x.Ordered := by
  rintro x ⟨⟩
  exact lawful_generatedFrom host traffic

/-- A member of a node of the document is what stands at the end of the path with its key. -/
theorem member?_generatedFrom {path : List String} {x : Json}
    (hx : valueAt path (some (generatedFrom host traffic)) = some x) (key : String) :
    x.member? key = valueAt (path ++ [key]) (some (generatedFrom host traffic)) :=
  member?_eq_valueAt ordered_generatedFrom hx key

/-- A node on the way to the places of an operation is no reference. -/
theorem resolve_node {path : List String} {x : Json}
    (hx : valueAt path (some (generatedFrom host traffic)) = some x)
    (hinner : ∀ v ∈ valueAt (path ++ ["$ref"]) (some (generatedFrom host traffic)),
      ∃ ms, v = .object ms) (doc : Json) : resolve doc x = x := by
  refine resolve_eq_self ?_ doc
  rw [member?_generatedFrom hx]
  cases hv : valueAt (path ++ ["$ref"]) (some (generatedFrom host traffic)) with
  | none => rfl
  | some v =>
    obtain ⟨ms, rfl⟩ := hinner v hv
    rfl

/-- The path of a place has more keys than that of an operation. -/
theorem not_prefix_of_length {path : List String} (hlen : path.length ≤ 3) :
    ∀ d ∈ editsOfAll traffic, ¬ d.1 <+: path := by
  rintro ⟨_, a⟩ hd hprefix
  obtain ⟨p, -, -, rfl⟩ := mem_editsOfAll.1 hd
  have hkeys := List.length_pos_of_ne_nil a.keys_ne_nil
  have hle := hprefix.length_le
  simp only [operationKeys, List.length_append, List.length_cons, List.length_nil] at hle
  omega

/-- Every path of the document is that of an endpoint. -/
theorem exists_endpoint_of_path {key : String} {v : Json}
    (h : valueAt ["paths", key] (some (generatedFrom host traffic)) = some v) :
    ∃ p ∈ traffic, p.1.path = key := by
  have hclear : ∀ d ∈ editsOfAll traffic, ¬ d.1 <+: ["paths", key] :=
    not_prefix_of_length (by simp)
  obtain ⟨q, a, hd⟩ := exists_edit_of_valueAt (fun d hd hp => absurd hp (hclear d hd)) h
  obtain ⟨p, hp, -, hpath⟩ := mem_editsOfAll.1 hd
  simp only [operationKeys, List.cons_append, List.nil_append, List.cons.injEq] at hpath
  exact ⟨p, hp, hpath.2.1.symm⟩

/-- **The operation of an endpoint is found**, if no other path has the shape of its path. -/
theorem findOperation_generated (host : String) (hmem : (endpoint, trace) ∈ traffic)
    (hshape : ∀ p ∈ traffic, Path.shape p.1.path = Path.shape endpoint.path →
      p.1.path = endpoint.path) :
    ∃ item operation,
      findOperation (generatedFrom host traffic) endpoint.path endpoint.method =
        some (item, operation) ∧
      valueAt (operationKeys endpoint) (some (generatedFrom host traffic)) = some operation := by
  set doc := generatedFrom host traffic
  have hstatus : Said traffic endpoint (.status (toString trace.responseStatus)) :=
    said_of_mem hmem (by simp [entriesOf, responseEntries])
  obtain ⟨w, hw⟩ := exists_valueAt_of_said host hstatus
  obtain ⟨paths, hpaths⟩ := exists_object_of_valueAt (p := ["paths"]) hw
  obtain ⟨item, hitem⟩ := exists_object_of_valueAt (p := ["paths", endpoint.path]) hw
  obtain ⟨operation, hoperation⟩ := exists_object_of_valueAt (p := operationKeys endpoint) hw
  have hordered : Dict.Ordered paths :=
    (Json.lawful_object_iff.1 (lawful_valueAt ordered_generatedFrom _ _ hpaths)).1
  have hentry : ∀ key v, (key, v) ∈ paths ↔ valueAt ["paths", key] (some doc) = some v := by
    intro key v
    have hsplit : ["paths", key] = ["paths"] ++ [key] := rfl
    rw [hordered.mem_iff, hsplit, valueAt_append, hpaths]
    rfl
  have hresolve : resolve doc (.object item) = .object item :=
    resolve_node hitem (valueAt_inner host (not_prefix_of_length (by simp))) doc
  have hmethod : (Json.object item).member? endpoint.method.toLower = some (.object operation) :=
    (member?_generatedFrom hitem _).trans hoperation
  have hroot : (doc.member? "paths").bind Json.members? = some paths := by
    have hself : valueAt [] (some doc) = some doc := rfl
    rw [member?_generatedFrom hself, List.nil_append, hpaths]
    rfl
  refine ⟨.object item, .object operation, ?_, hoperation⟩
  unfold findOperation
  rw [hroot]
  refine findSome?_eq_some_of_unique ⟨(endpoint.path, .object item), (hentry _ _).2 hitem, ?_⟩ ?_
  · rw [if_pos ((sameShape_iff _ _).2 rfl)]
    simp only [hresolve, hmethod, Option.map_some]
  · rintro ⟨key, v⟩ hkey found hfound
    -- a path of the same shape is the path itself
    split at hfound
    · next hsame =>
      obtain ⟨p, hp, rfl⟩ := exists_endpoint_of_path ((hentry key v).1 hkey)
      have heq := hshape p hp ((sameShape_iff _ _).1 hsame)
      rw [heq, hentry, hitem] at hkey
      obtain rfl := Option.some.inj hkey
      simp only [hresolve, hmethod, Option.map_some] at hfound
      exact (Option.some.inj hfound).symm
    · cases hfound

/-! ## Query parameters -/

theorem find?_parameterJson {key : String} (hkey : key ≠ "schema")
    (p : (String × String) × Schema) :
    (parameterJson p).member? key = Dict.find? key (newParameter p.1.1 p.1.2) :=
  Dict.find?_alter_of_ne hkey _ _

/-- A parameter that is said for the query is described as one. -/
theorem mem_queryNames {name : String} {value : Json}
    (hsaid : Said traffic endpoint (.parameter name "query" value))
    (hoperation : valueAt (operationKeys endpoint) (some (generatedFrom host traffic)) =
      some operation) : name ∈ queryNames (generatedFrom host traffic) operation := by
  obtain ⟨entries, ps, hps, hcollects, hentries⟩ := exists_parameters host hsaid
  have hkey : (name, "query") ∈ Dict.keys ps :=
    hcollects.complete _ _ _ ((hentries _ _ _).2 hsaid)
  obtain ⟨p, hp, hpkey⟩ := List.mem_map.1 hkey
  have hin : (parameterJson p).member? "in" = some (.string "query") := by
    rw [find?_parameterJson (by decide), hpkey]
    rfl
  have hname : (parameterJson p).member? "name" = some (.string name) := by
    rw [find?_parameterJson (by decide), hpkey]
    rfl
  have href : (parameterJson p).member? "$ref" = none := by
    rw [find?_parameterJson (by decide), hpkey]
    rfl
  have hresolve : resolve (generatedFrom host traffic) (parameterJson p) = parameterJson p :=
    resolve_eq_self (by rw [href]; rfl) _
  unfold queryNames
  rw [member?_generatedFrom hoperation, hps]
  refine List.mem_filterMap.2 ⟨parameterJson p, List.mem_map_of_mem hp, ?_⟩
  simp only [hresolve, hin, hname]
  rfl

theorem parameterDiffs_generated (hmem : (endpoint, trace) ∈ traffic) (item : Json)
    (hoperation : valueAt (operationKeys endpoint) (some (generatedFrom host traffic)) =
      some operation) :
    parameterDiffs (generatedFrom host traffic) item operation trace = [] := by
  have hknown : ∀ p ∈ trace.requestParameters,
      p.name ∈ queryNames (generatedFrom host traffic) operation := by
    intro p hp
    have hparameter : (p.name, "query", Json.ofTextOrString p.value) ∈
        parametersOf endpoint trace := by
      unfold parametersOf
      simp only [List.mem_append, List.mem_map]
      exact .inl (.inr ⟨p, hp, rfl⟩)
    have hentry : Entry.parameter p.name "query" (Json.ofTextOrString p.value) ∈
        entriesOf endpoint trace :=
      List.mem_append_left _ (List.mem_map.2 ⟨_, hparameter, rfl⟩)
    exact mem_queryNames (said_of_mem hmem hentry) hoperation
  unfold parameterDiffs
  rw [List.map_eq_nil_iff, List.filter_eq_nil_iff]
  intro p hp
  simp [hknown p hp]

/-! ## Bodies -/

/-- The generator files no body under the empty media type. -/
theorem mediaType_ne_empty (contentType : Option String) : mediaType contentType ≠ "" := by
  unfold mediaType
  cases contentType with
  | none => decide
  | some ct =>
    dsimp only
    split
    · decide
    · next h =>
      intro hempty
      rw [hempty] at h
      exact h rfl

/-- Places that nobody speaks of are not on the way to others. -/
theorem not_prefix_of_keys {rest : List String} (h : ∀ a : Entry, ¬ a.keys <+: rest) :
    ∀ d ∈ editsOfAll traffic, ¬ d.1 <+: operationKeys endpoint ++ rest := by
  rintro ⟨_, a⟩ hd hprefix
  obtain ⟨p, -, -, rfl⟩ := mem_editsOfAll.1 hd
  simp only [operationKeys, List.cons_append, List.nil_append, List.cons_prefix_cons] at hprefix
  exact h a hprefix.2.2.2

/-- On the way to the places of an operation stand objects. -/
theorem object_of_keys {rest : List String} (h : ∀ a : Entry, ¬ a.keys <+: rest) :
    ∀ v ∈ valueAt (operationKeys endpoint ++ rest) (some (generatedFrom host traffic)),
      ∃ ms, v = .object ms :=
  valueAt_inner host (not_prefix_of_keys h)

/-- Nothing stands at a place that nobody speaks of. -/
theorem valueAt_eq_none {rest : List String} (h : ∀ a : Entry, ¬ a.keys <+: rest)
    (hsaid : ∀ a, Said traffic endpoint a → ¬ rest <+: a.keys) :
    valueAt (operationKeys endpoint ++ rest) (some (generatedFrom host traffic)) = none := by
  have hclear : ∀ d ∈ editsOfAll traffic, ¬ d.1 <+: operationKeys endpoint ++ rest :=
    not_prefix_of_keys h
  have hnil : belowPath (operationKeys endpoint ++ rest) (editsOfAll traffic) = [] := by
    refine List.eq_nil_iff_forall_not_mem.2 ?_
    rintro ⟨q, a⟩ hd
    obtain ⟨p, hp, ha, hpath⟩ := mem_editsOfAll.1 (mem_belowPath.1 hd)
    simp only [operationKeys, List.cons_append, List.nil_append, List.cons.injEq, true_and] at hpath
    obtain ⟨hpath, hmethod, hkeys⟩ := hpath
    refine hsaid a ⟨p, hp, ?_, ha⟩ ⟨q, hkeys⟩
    rw [operationKeys, operationKeys, hpath, hmethod]
  refine (valueAt_generated host fun d hd hp => absurd hp (hclear d hd)).trans ?_
  exact congrArg (run Entry.write · none) hnil

theorem bodyDiffs_of_isEmpty (doc : Json) (content : Option Json) (contentType : Option String)
    {raw : String} (h : raw.isEmpty) (location : String) (kind : SpecDiffKind) :
    bodyDiffs doc content contentType raw location kind = [] :=
  if_pos h

theorem mediaType_some (contentType : String) :
    mediaType (some contentType) =
      if (SpecDiff.mediaType contentType).isEmpty then "*/*" else SpecDiff.mediaType contentType :=
  rfl

/-- What was filed under a media type is found for the content type. Both sides cut the media type
from the content type, and where nothing is left the generator files it under any type, which the
comparison falls back to. -/
theorem find?_wanted {members : Members} {media : Json} (contentType : Option String)
    (hfind : Dict.find? (mediaType contentType) members = some media)
    (hnone : Dict.find? "" members = none) :
    (Dict.find? ((contentType.map SpecDiff.mediaType).getD "*/*") members).or
      (Dict.find? "*/*" members) = some media := by
  cases contentType with
  | none =>
    have hany : Dict.find? "*/*" members = some media := hfind
    rw [Option.map_none, Option.getD_none, hany]
    rfl
  | some ct =>
    rw [mediaType_some] at hfind
    rw [Option.map_some, Option.getD_some]
    split at hfind
    · next hname =>
      rw [String.isEmpty_iff.1 hname, hnone, hfind]
      rfl
    · rw [hfind]
      rfl

/-- **A body is described under its media type.** -/
theorem bodyDiffs_eq_nil {path : List String} {spot : Spot} {contentType : Option String}
    {raw : String} {content : Json}
    (hplace : operationKeys endpoint ++ spot.keys = path ++ [mediaType contentType, "schema"])
    (hsaid : Said traffic endpoint (.sighting spot (bodySighting raw)))
    (hempty : valueAt (path ++ [""]) (some (generatedFrom host traffic)) = none)
    (hcontent : valueAt path (some (generatedFrom host traffic)) = some content)
    (location : String) (kind : SpecDiffKind) :
    bodyDiffs (generatedFrom host traffic) (some content) contentType raw location kind = [] := by
  set doc := generatedFrom host traffic
  by_cases hraw : raw.isEmpty
  · exact bodyDiffs_of_isEmpty doc _ _ hraw _ _
  obtain ⟨xs, hschema, hxs⟩ := exists_sightings host hsaid
  rw [hplace] at hschema
  have hsplit : path ++ [mediaType contentType, "schema"] =
      (path ++ [mediaType contentType]) ++ ["schema"] := by simp
  obtain ⟨members, hmembers⟩ := exists_object_of_valueAt hschema
  obtain rfl : content = .object members := Option.some.inj (hcontent.symm.trans hmembers)
  obtain ⟨media, hmedia⟩ := exists_object_of_valueAt (hsplit ▸ hschema)
  have hfind : Dict.find? (mediaType contentType) members = some (.object media) :=
    (member?_generatedFrom hcontent _).trans hmedia
  have hnone : Dict.find? "" members = none := (member?_generatedFrom hcontent _).trans hempty
  have hwanted := find?_wanted contentType hfind hnone
  have hfound : mediaSchema? doc (.object members) contentType =
      some (empty.seeAll xs).toJson := by
    have hmember : (Json.object media).member? "schema" = some (empty.seeAll xs).toJson :=
      (member?_generatedFrom hmedia "schema").trans (hsplit ▸ hschema)
    unfold mediaSchema?
    simp only [Json.members?, Option.bind_eq_bind, Option.bind_some, hwanted, Option.some_or,
      hmember, Option.map_some, resolve_toJson]
  unfold bodyDiffs
  rw [if_neg hraw, Option.bind_some, hfound]
  dsimp only
  rw [undescribed_seeAll doc ((hxs _).2 hsaid)]
  rfl

/-- What is said of a body stands under a media type that is not empty. -/
theorem media_ne_empty_of_said {e : Entry} (h : Said traffic endpoint e) :
    ¬ ["requestBody", "content", ""] <+: e.keys ∧
      ∀ s, ¬ ["responses", s, "content", ""] <+: e.keys := by
  obtain ⟨p, -, -, he⟩ := h
  have hmedia : ∀ contentType, "" ≠ mediaType contentType :=
    fun contentType => (mediaType_ne_empty contentType).symm
  simp only [entriesOf, parameterEntries, requestEntries, responseEntries, headerEntries,
    bodyEntries, List.mem_append, List.mem_map, List.mem_cons] at he
  rcases he with ⟨_, -, rfl⟩ | he | rfl | ⟨_, -, rfl⟩ | he
  · simp [Entry.keys]
  · split at he
    · cases he
    · obtain rfl := List.mem_singleton.1 he
      simp [Entry.keys, Spot.keys, hmedia]
  · simp [Entry.keys]
  · simp [Entry.keys, Spot.keys]
  · split at he
    · cases he
    · obtain rfl := List.mem_singleton.1 he
      simp [Entry.keys, Spot.keys, hmedia]

theorem requestDiffs_generated (hmem : (endpoint, trace) ∈ traffic)
    (hoperation : valueAt (operationKeys endpoint) (some (generatedFrom host traffic)) =
      some operation) : requestDiffs (generatedFrom host traffic) operation trace = [] := by
  set doc := generatedFrom host traffic
  unfold requestDiffs
  by_cases hraw : trace.requestBody.isEmpty
  · exact bodyDiffs_of_isEmpty doc _ _ hraw _ _
  have hsaid : Said traffic endpoint (.sighting (.request (mediaType trace.requestContentType))
      (bodySighting trace.requestBody)) :=
    said_of_mem hmem (requestBody_mem_entriesOf endpoint hraw)
  obtain ⟨w, hw⟩ := exists_valueAt_of_said host hsaid
  obtain ⟨node, hnode⟩ := exists_object_of_valueAt
    (p := operationKeys endpoint ++ ["requestBody"]) (by simpa [Entry.keys, Spot.keys] using hw)
  obtain ⟨content, hcontent⟩ := exists_object_of_valueAt
    (p := operationKeys endpoint ++ ["requestBody", "content"])
    (by simpa [Entry.keys, Spot.keys] using hw)
  have hreference : ∀ a : Entry, ¬ a.keys <+: ["requestBody", "$ref"] := by
    rintro (_ | ⟨_ | _ | _, _⟩ | _) <;> simp [Entry.keys, Spot.keys]
  have hempty : ∀ a : Entry, ¬ a.keys <+: ["requestBody", "content", ""] := by
    rintro (_ | ⟨_ | _ | _, _⟩ | _) <;> simp [Entry.keys, Spot.keys]
  have hresolve : resolve doc (.object node) = .object node := by
    refine resolve_node hnode ?_ doc
    rw [List.append_assoc]
    exact object_of_keys hreference
  have hmember : operation.member? "requestBody" = some (.object node) :=
    (member?_generatedFrom hoperation _).trans hnode
  have hinside : (Json.object node).member? "content" = some (.object content) := by
    rw [member?_generatedFrom hnode, List.append_assoc]
    exact hcontent
  rw [hmember, Option.map_some, hresolve, Option.bind_some, hinside]
  refine bodyDiffs_eq_nil ?_ hsaid ?_ hcontent _ _
  · simp [Spot.keys]
  · rw [List.append_assoc]
    exact valueAt_eq_none hempty fun a ha => (media_ne_empty_of_said ha).1

theorem responseDiffs_generated (hmem : (endpoint, trace) ∈ traffic)
    (hoperation : valueAt (operationKeys endpoint) (some (generatedFrom host traffic)) =
      some operation) : responseDiffs (generatedFrom host traffic) operation trace = [] := by
  set doc := generatedFrom host traffic
  set status := toString trace.responseStatus with hstatus
  have hdescription : Said traffic endpoint (.status status) :=
    said_of_mem hmem (by simp [entriesOf, responseEntries, hstatus])
  obtain ⟨w, hw⟩ := exists_valueAt_of_said host hdescription
  obtain ⟨responses, hresponses⟩ := exists_object_of_valueAt
    (p := operationKeys endpoint ++ ["responses"]) (by simpa [Entry.keys] using hw)
  obtain ⟨node, hnode⟩ := exists_object_of_valueAt
    (p := operationKeys endpoint ++ ["responses", status]) (by simpa [Entry.keys] using hw)
  have hmember : (operation.member? "responses").bind Json.members? = some responses := by
    rw [member?_generatedFrom hoperation, hresponses]
    rfl
  have hfound : Dict.find? status responses = some (.object node) := by
    have hnode' : valueAt ((operationKeys endpoint ++ ["responses"]) ++ [status]) (some doc) =
        some (.object node) := by simpa using hnode
    exact (member?_generatedFrom hresponses status).trans hnode'
  have hreference : ∀ a : Entry, ¬ a.keys <+: ["responses", status, "$ref"] := by
    rintro (_ | ⟨_ | _ | _, _⟩ | _) <;> simp [Entry.keys, Spot.keys]
  have hempty : ∀ a : Entry, ¬ a.keys <+: ["responses", status, "content", ""] := by
    rintro (_ | ⟨_ | _ | _, _⟩ | _) <;> simp [Entry.keys, Spot.keys]
  have hresolve : resolve doc (.object node) = .object node := by
    refine resolve_node hnode ?_ doc
    rw [List.append_assoc]
    exact object_of_keys hreference
  unfold responseDiffs
  rw [hmember, Option.getD_some]
  simp only [← hstatus, hfound, Option.some_or, hresolve]
  by_cases hraw : trace.responseBody.isEmpty
  · exact bodyDiffs_of_isEmpty doc _ _ hraw _ _
  have hsaid : Said traffic endpoint
      (.sighting (.response status (mediaType trace.responseContentType))
        (bodySighting trace.responseBody)) :=
    said_of_mem hmem (responseBody_mem_entriesOf endpoint hraw)
  obtain ⟨u, hu⟩ := exists_valueAt_of_said host hsaid
  obtain ⟨content, hcontent⟩ := exists_object_of_valueAt
    (p := operationKeys endpoint ++ ["responses", status, "content"])
    (by simpa [Entry.keys, Spot.keys] using hu)
  have hinside : (Json.object node).member? "content" = some (.object content) := by
    rw [member?_generatedFrom hnode, List.append_assoc]
    exact hcontent
  rw [hinside]
  refine bodyDiffs_eq_nil ?_ hsaid ?_ hcontent _ _
  · simp [Spot.keys]
  · rw [List.append_assoc]
    exact valueAt_eq_none hempty fun a ha => (media_ne_empty_of_said ha).2 status

end Generated

/-- **A generated document describes its own traffic**: if no two of the paths have the same shape,
the comparison with a trace that the document was made of finds nothing. -/
theorem diff_generated (host : String) (traffic : List (Endpoint × Trace))
    (hshape : ∀ p ∈ traffic, ∀ q ∈ traffic, Path.shape p.1.path = Path.shape q.1.path →
      p.1.path = q.1.path) :
    ∀ p ∈ traffic,
      diff (mergeAll (generated host).spec traffic) p.1.path p.1.method p.2 = [] := by
  rintro ⟨endpoint, trace⟩ hmem
  obtain ⟨item, operation, hfound, hoperation⟩ :=
    findOperation_generated host hmem fun p hp => hshape p hp _ hmem
  have hdiff : diff (generatedFrom host traffic) endpoint.path endpoint.method trace = [] := by
    unfold diff
    rw [hfound]
    dsimp only
    rw [parameterDiffs_generated hmem item hoperation, requestDiffs_generated hmem hoperation,
      responseDiffs_generated hmem hoperation]
    rfl
  exact hdiff

/-- An object, a text that is no JSON under an empty content type, and a list, to a placeholder and
to a literal path beside it. -/
theorem diff_generated_two_paths :
    let endpoint : Endpoint :=
      { id := .ofNat 1, host := "h", method := "POST", path := "/a/\x7bid\x7d", pathPattern := "",
        numberParams := 1 }
    let trace := Trace.bare (.ofNat 2) ⟨0, 0⟩ "h" "POST" "/a/7" 200
    let traffic :=
      [(endpoint,
          { trace with requestBody := "[\x7b\"k\":1\x7d]", responseBody := "\x7b\"k\":[]\x7d" }),
       (endpoint, { trace with requestBody := "[1", requestHeaders := [⟨"Content-Type", ";"⟩] }),
       ({ endpoint with path := "/a/b" },
          { trace with requestBody := "[[1]]", responseBody := "x" })]
    (∀ p ∈ traffic, ∀ q ∈ traffic, Path.shape p.1.path = Path.shape q.1.path →
      p.1.path = q.1.path) ∧
    ∀ p ∈ traffic,
      SpecDiff.diff (mergeAll (generated "h").spec traffic) p.1.path p.1.method p.2 = [] := by
  intro endpoint trace traffic
  have hshape : ∀ p ∈ traffic, ∀ q ∈ traffic, Path.shape p.1.path = Path.shape q.1.path →
      p.1.path = q.1.path := by decide
  exact ⟨hshape, diff_generated "h" traffic hshape⟩

end Document

end TrafficLens
