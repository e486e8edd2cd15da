import TrafficLens.Proofs.Document.Parameter

/-!
# What stands in a generated document

A generated document is what traffic says, and nothing else. `Said` collects what traffic says to an
operation. At every place of the operation that holds a schema stands the schema of the sightings
that are said for that place (`exists_sightings`), the parameters are those that are said
(`exists_parameters`), and on the way to these places stand objects (`valueAt_inner`). The document
is lawful, whatever the traffic holds (`lawful_generatedFrom`).
-/

namespace TrafficLens.Document

/-! ## Order -/

theorem ordered_schemaOf {v : Option Json} (h : ∀ x ∈ v, x.Ordered) : (schemaOf v).Ordered := by
  unfold schemaOf
  cases v with
  | none => exact Schema.ordered_empty
  | some x =>
    rw [Option.bind_some]
    cases hs : Schema.ofJson? x with
    | none => exact Schema.ordered_empty
    | some s => exact Schema.ordered_ofJson? x (h x rfl) s hs

variable {allowed : JsonNumber → Prop}

/-- A sighting leaves a lawful schema, since the only parts of it are those that a schema has. -/
theorem lawful_seeAt (x : Sighting) {old : Option Json} (h : ∀ v ∈ old, v.Lawful allowed) :
    (seeAt x old).Lawful allowed := by
  have hordered : ∀ v ∈ old, v.Ordered :=
    fun v hv => Json.Lawful.mono (fun _ _ => trivial) v (h v hv)
  exact Schema.lawful_toJson _ ((ordered_schemaOf hordered).see x)

theorem lawful_absorbValue (value : Json) {ms : Members} (h : (Json.object ms).Lawful allowed) :
    (Json.object (absorbValue value ms)).Lawful allowed := by
  rw [Json.lawful_object_iff] at h ⊢
  exact ⟨Dict.ordered_alter _ _ h.1,
    Dict.forall_mem_alter (P := Json.Lawful allowed) h.2 fun _ hold =>
      lawful_seeAt (.value value) hold⟩

theorem lawful_newParameter (name location : String) :
    (Json.object (newParameter name location)).Lawful allowed := by
  rw [Json.lawful_object_iff, Dict.ordered_iff_keys]
  unfold newParameter
  split
  · refine ⟨?_, by simp [Json.Lawful]⟩
    have hkeys : ["in", "name", "required"].Pairwise fun a b => compare a b = .lt := by decide
    exact hkeys
  · refine ⟨?_, by simp [Json.Lawful]⟩
    have hkeys : ["in", "name"].Pairwise fun a b => compare a b = .lt := by decide
    exact hkeys

theorem lawful_changeParameter (name location : String) (value : Json) {ps : List Json}
    (h : ∀ p ∈ ps, p.Lawful allowed) :
    ∀ p ∈ changeParameter name location (absorbValue value) ps, p.Lawful allowed := by
  induction ps with
  | nil => exact List.forall_mem_singleton.2 (lawful_absorbValue value (lawful_newParameter _ _))
  | cons p rest ih =>
    obtain ⟨hp, hrest⟩ := List.forall_mem_cons.1 h
    by_cases hfound : isParameter name location p
    · obtain ⟨ms, rfl⟩ := exists_eq_object_of_isParameter hfound
      rw [changeParameter_cons_pos hfound]
      exact List.forall_mem_cons.2 ⟨lawful_absorbValue value hp, hrest⟩
    · rw [changeParameter_cons_neg hfound]
      exact List.forall_mem_cons.2 ⟨hp, ih hrest⟩

theorem Entry.lawful_write (e : Entry) {old : Option Json} (h : ∀ v ∈ old, v.Lawful allowed) :
    (e.write old).Lawful allowed := by
  cases e with
  | parameter name location value =>
    refine Json.lawful_array_iff.2 (lawful_changeParameter name location value ?_)
    rcases old with _ | _ | _ | _ | _ | xs | _
    case some.array => exact Json.lawful_array_iff.1 (h _ rfl)
    all_goals simp [itemsOf, Json.items?]
  | sighting spot x => exact lawful_seeAt x h
  | status s =>
    cases old with
    | none => exact trivial
    | some v => exact h v rfl

/-- Merging traffic keeps a document lawful. -/
theorem lawful_mergeAll {members : Members} (h : (Json.object members).Lawful allowed)
    (traffic : List (Endpoint × Trace)) : (mergeAll (.object members) traffic).Lawful allowed := by
  have hstart : ∀ x ∈ some (Json.object members), x.Lawful allowed := by
    rintro x ⟨⟩
    exact h
  have hwrite : ∀ e ∈ editsOfAll traffic, ∀ v : Option Json, (∀ x ∈ v, x.Lawful allowed) →
      (e.2.write v).Lawful allowed := fun e _ v hv => e.2.lawful_write hv
  exact lawful_run hwrite hstart _ (run_editsOfAll members traffic)

/-- Before any trace a generated document is lawful; it holds no number. -/
theorem lawful_spec_generated (host : String) : (generated host).spec.Lawful allowed := by
  have hinfo : ["description", "title", "version"].Pairwise fun a b => compare a b = .lt := by
    decide
  have hroot : ["info", "openapi", "paths", "servers"].Pairwise fun a b => compare a b = .lt := by
    decide
  have hurl : Dict.Ordered [("url", Json.string host)] := List.pairwise_singleton _ _
  exact ⟨Dict.ordered_iff_keys.2 hroot,
    ⟨Dict.ordered_iff_keys.2 hinfo, trivial, trivial, trivial, trivial⟩, trivial,
    ⟨Dict.ordered_nil, trivial⟩, ⟨⟨hurl, trivial, trivial⟩, trivial⟩, trivial⟩

/-- The document of a host that is generated from traffic. -/
def generatedFrom (host : String) (traffic : List (Endpoint × Trace)) : Json :=
  mergeAll (generated host).spec traffic

/-- A generated document holds no number, and the members of its objects are in order. -/
theorem lawful_generatedFrom (host : String) (traffic : List (Endpoint × Trace)) :
    (generatedFrom host traffic).Lawful allowed :=
  lawful_mergeAll (lawful_spec_generated host) traffic

/-! ## Places -/

/-- The traffic says an entry to the operation of an endpoint. -/
def Said (traffic : List (Endpoint × Trace)) (endpoint : Endpoint) (e : Entry) : Prop :=
  ∃ p ∈ traffic, operationKeys p.1 = operationKeys endpoint ∧ e ∈ entriesOf p.1 p.2

/-- What a trace says is said to its operation. -/
theorem said_of_mem {traffic : List (Endpoint × Trace)} {endpoint : Endpoint} {trace : Trace}
    (hmem : (endpoint, trace) ∈ traffic) {e : Entry} (he : e ∈ entriesOf endpoint trace) :
    Said traffic endpoint e :=
  ⟨_, hmem, rfl, he⟩

/-- Before any trace there is nothing below the paths. -/
theorem valueAt_spec_generated (host key : String) (rest : List String) :
    valueAt ("paths" :: key :: rest) (some (generated host).spec) = none := by
  have hinfo : compare "paths" "info" = .gt := by decide
  have hopenapi : compare "paths" "openapi" = .gt := by decide
  have hpaths : valueAt ["paths"] (some (generated host).spec) = some (.object []) := by
    simp [generated, valueAt, Dict.seek?, hinfo, hopenapi]
  have hsplit : "paths" :: key :: rest = ["paths"] ++ key :: rest := rfl
  rw [hsplit, valueAt_append, hpaths]
  exact valueAt_none rest

/-- Below the paths stands what the edits there leave of nothing. -/
theorem valueAt_generated (host : String) {traffic : List (Endpoint × Trace)} {key : String}
    {rest : List String}
    (h : ∀ d ∈ editsOfAll traffic, d.1 <+: "paths" :: key :: rest → d.1 = "paths" :: key :: rest) :
    valueAt ("paths" :: key :: rest) (some (generatedFrom host traffic)) =
      run Entry.write (belowPath ("paths" :: key :: rest) (editsOfAll traffic)) none := by
  have hspec : (generated host).spec = .object (membersOf (some (generated host).spec)) := rfl
  unfold generatedFrom
  rw [hspec, ← run_editsOfAll, valueAt_run h, ← hspec, valueAt_spec_generated]

/-- What stands below the paths was put there by an edit. -/
theorem exists_edit_of_valueAt {host : String} {traffic : List (Endpoint × Trace)} {key : String}
    {rest : List String} {v : Json}
    (h : ∀ d ∈ editsOfAll traffic, d.1 <+: "paths" :: key :: rest → d.1 = "paths" :: key :: rest)
    (hv : valueAt ("paths" :: key :: rest) (some (generatedFrom host traffic)) = some v) :
    ∃ q a, ("paths" :: key :: rest ++ q, a) ∈ editsOfAll traffic := by
  rw [valueAt_generated host h] at hv
  have hne : belowPath ("paths" :: key :: rest) (editsOfAll traffic) ≠ [] := by
    intro hnil
    rw [hnil] at hv
    cases hv
  obtain ⟨⟨q, a⟩, hd⟩ := List.exists_mem_of_ne_nil _ hne
  exact ⟨q, a, mem_belowPath.1 hd⟩

/-- On the way to a place stands nothing or an object. -/
theorem valueAt_inner (host : String) {traffic : List (Endpoint × Trace)} {key : String}
    {rest : List String} (h : ∀ d ∈ editsOfAll traffic, ¬ d.1 <+: "paths" :: key :: rest) :
    ∀ v ∈ valueAt ("paths" :: key :: rest) (some (generatedFrom host traffic)),
      ∃ ms, v = .object ms := by
  intro v hv
  rw [valueAt_generated host fun d hd hp => absurd hp (h d hd)] at hv
  set edits := belowPath ("paths" :: key :: rest) (editsOfAll traffic) with hedits
  have hne : edits ≠ [] := by
    intro hnil
    rw [hnil] at hv
    cases hv
  have hkeys : ∀ d ∈ edits, d.1 ≠ [] := by
    rintro ⟨q, a⟩ hd rfl
    have hmem := mem_belowPath.1 hd
    rw [List.append_nil] at hmem
    exact h _ hmem (List.prefix_refl _)
  rw [run_eq_object hne hkeys] at hv
  exact ⟨_, (Option.some.inj hv).symm⟩

/-- The edits that end at a place are what is said there. -/
theorem mem_belowPath_editsOfAll {traffic : List (Endpoint × Trace)} {endpoint : Endpoint}
    {a b : Entry} {q : List String} :
    (q, a) ∈ belowPath (operationKeys endpoint ++ b.keys) (editsOfAll traffic) ↔
      q = [] ∧ a.keys = b.keys ∧ Said traffic endpoint a := by
  rw [mem_belowPath, mem_editsOfAll]
  constructor
  · rintro ⟨p, hp, ha, hpath⟩
    have hprefix : operationKeys endpoint ++ b.keys <+: operationKeys p.1 ++ a.keys :=
      ⟨q, hpath⟩
    obtain ⟨hop, hkeys⟩ := places_eq_of_begins hprefix
    rw [hop, hkeys, List.append_right_eq_self] at hpath
    exact ⟨hpath, hkeys.symm, p, hp, hop.symm, ha⟩
  · rintro ⟨rfl, hkeys, p, hp, hop, ha⟩
    exact ⟨p, hp, ha, by rw [List.append_nil, hop, hkeys]⟩

/-- At the end of a place stands what the entries there make of nothing. -/
theorem valueAt_place (host : String) (traffic : List (Endpoint × Trace)) (endpoint : Endpoint)
    (b : Entry) :
    valueAt (operationKeys endpoint ++ b.keys) (some (generatedFrom host traffic)) =
      run Entry.write (belowPath (operationKeys endpoint ++ b.keys) (editsOfAll traffic)) none := by
  refine valueAt_generated host fun d hd hprefix => ?_
  obtain ⟨q, a⟩ := d
  obtain ⟨p, -, -, rfl⟩ := mem_editsOfAll.1 hd
  have hprefix : operationKeys p.1 ++ a.keys <+: operationKeys endpoint ++ b.keys := hprefix
  obtain ⟨hop, hkeys⟩ := places_eq_of_begins hprefix
  exact congrArg₂ (· ++ ·) hop hkeys

/-- Where something is said stands something. -/
theorem exists_valueAt_of_said (host : String) {traffic : List (Endpoint × Trace)}
    {endpoint : Endpoint} {e : Entry} (h : Said traffic endpoint e) :
    ∃ v, valueAt (operationKeys endpoint ++ e.keys) (some (generatedFrom host traffic)) =
      some v := by
  rw [valueAt_place]
  have hmem : ([], e) ∈ belowPath (operationKeys endpoint ++ e.keys) (editsOfAll traffic) :=
    mem_belowPath_editsOfAll.2 ⟨rfl, rfl, h⟩
  exact exists_run_eq_some (List.ne_nil_of_mem hmem) none

/-! ## Schemas and parameters -/

/-- Sightings one after the other at one place. -/
theorem run_sightings {spot : Spot} {edits : List (List String × Entry)}
    (h : ∀ d ∈ edits, ∃ x, d = ([], .sighting spot x)) (s : Schema) :
    ∃ xs, run Entry.write edits (some s.toJson) = some (s.seeAll xs).toJson ∧
      ∀ x, x ∈ xs ↔ ([], .sighting spot x) ∈ edits := by
  induction edits generalizing s with
  | nil => exact ⟨[], rfl, by simp⟩
  | cons d rest ih =>
    obtain ⟨⟨y, rfl⟩, hrest⟩ := List.forall_mem_cons.1 h
    obtain ⟨xs, hrun, hmem⟩ := ih hrest (s.see y)
    refine ⟨y :: xs, ?_, fun x => ?_⟩
    · rw [run_cons, edit, Entry.write, seeAt, schemaOf_toJson, hrun]
      rfl
    · rw [List.mem_cons, List.mem_cons, hmem]
      simp

/-- Sightings one after the other where nothing stands. -/
theorem run_sightings_none {spot : Spot} {edits : List (List String × Entry)} (hne : edits ≠ [])
    (h : ∀ d ∈ edits, ∃ x, d = ([], .sighting spot x)) :
    ∃ xs, run Entry.write edits none = some (Schema.empty.seeAll xs).toJson ∧
      ∀ x, x ∈ xs ↔ ([], .sighting spot x) ∈ edits := by
  cases edits with
  | nil => exact absurd rfl hne
  | cons d rest =>
    obtain ⟨xs, hrun, hmem⟩ := run_sightings h Schema.empty
    obtain ⟨y, rfl⟩ := h d List.mem_cons_self
    refine ⟨xs, ?_, hmem⟩
    rw [← hrun]
    rfl

/-- **The schemas of a generated document** are made of the sightings that are said at their places.
-/
theorem exists_sightings (host : String) {traffic : List (Endpoint × Trace)} {endpoint : Endpoint}
    {spot : Spot} {x : Sighting} (hx : Said traffic endpoint (.sighting spot x)) :
    ∃ xs : List Sighting,
      valueAt (operationKeys endpoint ++ spot.keys)
        (some (generatedFrom host traffic)) = some (Schema.empty.seeAll xs).toJson ∧
      ∀ y, y ∈ xs ↔ Said traffic endpoint (.sighting spot y) := by
  set edits := belowPath (operationKeys endpoint ++ spot.keys) (editsOfAll traffic) with hedits
  have hmem : ∀ q a, (q, a) ∈ edits ↔ q = [] ∧ a.keys = spot.keys ∧ Said traffic endpoint a :=
    fun q a => mem_belowPath_editsOfAll (b := .sighting spot x)
  have hne : edits ≠ [] := List.ne_nil_of_mem ((hmem [] _).2 ⟨rfl, rfl, hx⟩)
  have hall : ∀ d ∈ edits, ∃ y, d = ([], .sighting spot y) := by
    rintro ⟨q, a⟩ hd
    obtain ⟨hpath, hkeys, -⟩ := (hmem q a).1 hd
    exact Entry.exists_eq_sighting hpath hkeys
  obtain ⟨xs, hrun, hxs⟩ := run_sightings_none hne hall
  refine ⟨xs, (valueAt_place host traffic endpoint (.sighting spot x)).trans hrun, fun y => ?_⟩
  rw [hxs, hmem]
  exact ⟨fun h => h.2.2, fun h => ⟨rfl, rfl, h⟩⟩

/-- **The parameters of a generated document** are those that are said to the operation. -/
theorem exists_parameters (host : String) {traffic : List (Endpoint × Trace)} {endpoint : Endpoint}
    {name location : String} {value : Json}
    (h : Said traffic endpoint (.parameter name location value)) :
    ∃ (entries : List Entry) (ps : List ((String × String) × Schema)),
      valueAt (operationKeys endpoint ++ ["parameters"])
        (some (generatedFrom host traffic)) = some (.array (ps.map parameterJson)) ∧
      Collects entries ps ∧
      ∀ n l v, Entry.parameter n l v ∈ entries ↔ Said traffic endpoint (.parameter n l v) := by
  set edits := belowPath (operationKeys endpoint ++ ["parameters"]) (editsOfAll traffic) with hedits
  have hmem : ∀ q a, (q, a) ∈ edits ↔ q = [] ∧ a.keys = ["parameters"] ∧ Said traffic endpoint a :=
    fun q a => mem_belowPath_editsOfAll (b := .parameter name location value)
  have hne : edits ≠ [] := List.ne_nil_of_mem ((hmem [] _).2 ⟨rfl, rfl, h⟩)
  have hall : ∀ d ∈ edits, ∃ n l v, d = ([], Entry.parameter n l v) := by
    rintro ⟨q, a⟩ hd
    obtain ⟨hpath, hkeys, -⟩ := (hmem q a).1 hd
    exact Entry.exists_eq_parameter hpath hkeys
  obtain ⟨ps, hrun, hps⟩ := exists_collects hne hall
  refine ⟨_, ps, (valueAt_place host traffic endpoint (.parameter name location value)).trans hrun,
    hps, fun n l v => ?_⟩
  rw [List.mem_map]
  constructor
  · rintro ⟨⟨q, a⟩, hd, rfl⟩
    exact ((hmem q _).1 hd).2.2
  · intro hsaid
    exact ⟨_, (hmem [] _).2 ⟨rfl, rfl, hsaid⟩, rfl⟩

/-- The description of a response is written once. -/
theorem run_status {s : String} {edits : List (List String × Entry)} (hne : edits ≠ [])
    (h : ∀ d ∈ edits, d = ([], .status s)) :
    run Entry.write edits none = some (.string (s ++ " description")) := by
  have hkeep : ∀ {rest : List (List String × Entry)}, (∀ d ∈ rest, d = ([], .status s)) →
      ∀ v, run Entry.write rest (some v) = some v := by
    intro rest hrest v
    induction rest with
    | nil => rfl
    | cons d rest ih =>
      obtain ⟨rfl, htail⟩ := List.forall_mem_cons.1 hrest
      exact ih htail
  cases edits with
  | nil => exact absurd rfl hne
  | cons d rest =>
    obtain ⟨rfl, hrest⟩ := List.forall_mem_cons.1 h
    exact hkeep hrest _

/-- The responses of a generated document have their own descriptions. -/
theorem valueAt_description (host : String) {traffic : List (Endpoint × Trace)}
    {endpoint : Endpoint} {s : String} (h : Said traffic endpoint (.status s)) :
    valueAt (operationKeys endpoint ++ ["responses", s, "description"])
      (some (generatedFrom host traffic)) = some (.string (s ++ " description")) := by
  set edits := belowPath (operationKeys endpoint ++ ["responses", s, "description"])
    (editsOfAll traffic) with hedits
  have hmem : ∀ q a, (q, a) ∈ edits ↔
      q = [] ∧ a.keys = ["responses", s, "description"] ∧ Said traffic endpoint a :=
    fun q a => mem_belowPath_editsOfAll (b := .status s)
  have hne : edits ≠ [] := List.ne_nil_of_mem ((hmem [] _).2 ⟨rfl, rfl, h⟩)
  have hall : ∀ d ∈ edits, d = ([], .status s) := by
    rintro ⟨q, a⟩ hd
    obtain ⟨hpath, hkeys, -⟩ := (hmem q a).1 hd
    exact Entry.eq_status hpath hkeys
  exact (valueAt_place host traffic endpoint (.status s)).trans (run_status hne hall)

end TrafficLens.Document
