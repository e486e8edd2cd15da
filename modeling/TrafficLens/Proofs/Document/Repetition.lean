import TrafficLens.Proofs.Document.Parameter
import TrafficLens.Proofs.Schema.Absorption

/-!
# A trace that is merged again

A document *holds* an entry if the value at its place shows it already (`Entry.HeldBy`): the schema
there describes the sighting, and is written as schemas are written. Whatever stood at the place
before, an entry is held once it is written (`Entry.heldBy_write`); other entries, for this place or
another, leave it held (`Entry.HeldBy.write`, `Holds.edit`); and to write what is held changes
nothing (`Entry.HeldBy.write_eq`). So all that traffic says to a document is held when it has been
merged, and any trace of it can be merged again without effect (`mergeTrace_again`).

Nothing is asked of the document that the merging starts from but that its root is an object: every
node on the way to a place is replaced by the first edit that finds it of the wrong kind.
-/

namespace TrafficLens.Document

/-! ## Schemas that are written -/

/-- A schema is written at the place, and describes the sighting. -/
def Shows (x : Sighting) (v : Json) : Prop := ∃ s : Schema, v = s.toJson ∧ x.HeldBy s

theorem shows_seeAt (x : Sighting) (old : Option Json) : Shows x (seeAt x old) :=
  ⟨_, rfl, x.heldBy_see (schemaOf old)⟩

theorem Shows.after {x : Sighting} {v : Json} (h : Shows x v) (y : Sighting) :
    Shows x (seeAt y (some v)) := by
  obtain ⟨s, rfl, hx⟩ := h
  refine ⟨s.see y, ?_, hx.see y⟩
  rw [seeAt, schemaOf_toJson]

theorem Shows.seeAt_eq {x : Sighting} {v : Json} (h : Shows x v) : seeAt x (some v) = v := by
  obtain ⟨s, rfl, hx⟩ := h
  rw [seeAt, schemaOf_toJson, hx.see_eq]

/-! ## Parameters -/

/-- The list has a parameter with the name and the location, whose schema describes the value. -/
def ShowsParameter (name location : String) (value : Json) (ps : List Json) : Prop :=
  ∃ ms v, ps.find? (isParameter name location) = some (.object ms) ∧
    Dict.seek? "schema" ms = some v ∧ Shows (.value value) v

variable {name location : String} {value : Json} {ps : List Json}

theorem showsParameter_change (name location : String) (value : Json) (ps : List Json) :
    ShowsParameter name location value
      (changeParameter name location (absorbValue value) ps) := by
  set ms := parameterIn name location ps
  have hschema : Dict.seek? "schema" (absorbValue value ms) =
      some (seeAt (.value value) (Dict.seek? "schema" ms)) := by
    rw [absorbValue_eq, Dict.seek?_alter_self]
  exact ⟨_, _, find?_changeParameter (keepsIdentity_absorbValue value) ps, hschema,
    shows_seeAt _ _⟩

theorem ShowsParameter.change (h : ShowsParameter name location value ps)
    (other place : String) (w : Json) :
    ShowsParameter name location value (changeParameter other place (absorbValue w) ps) := by
  obtain ⟨ms, v, hms, hv, hx⟩ := h
  by_cases hsame : other = name ∧ place = location
  · obtain ⟨rfl, rfl⟩ := hsame
    have hfound : parameterIn other place ps = ms := by
      rw [parameterIn, hms]
      rfl
    have hschema : Dict.seek? "schema" (absorbValue w ms) = some (seeAt (.value w) (some v)) := by
      rw [absorbValue_eq, Dict.seek?_alter_self, hv]
    have hchanged : (changeParameter other place (absorbValue w) ps).find?
        (isParameter other place) = some (.object (absorbValue w (parameterIn other place ps))) :=
      find?_changeParameter (keepsIdentity_absorbValue w) ps
    rw [hfound] at hchanged
    exact ⟨_, _, hchanged, hschema, hx.after (.value w)⟩
  · refine ⟨ms, v, ?_, hv, hx⟩
    rw [find?_changeParameter_of_ne (keepsIdentity_absorbValue w) hsame, hms]

theorem ShowsParameter.change_eq (h : ShowsParameter name location value ps) :
    changeParameter name location (absorbValue value) ps = ps := by
  obtain ⟨ms, v, hms, hv, hx⟩ := h
  refine changeParameter_eq_self hms ?_
  rw [absorbValue_eq]
  exact Dict.alter_eq_self hv hx.seeAt_eq

/-! ## Entries -/

namespace Entry

/-- The value at the place of the entry shows it. -/
def HeldBy (v : Json) : Entry → Prop
  | parameter name location value => ∃ ps, v = .array ps ∧ ShowsParameter name location value ps
  | sighting _ x => Shows x v
  | status _ => True

theorem heldBy_write (e : Entry) (old : Option Json) : e.HeldBy (e.write old) := by
  cases e with
  | parameter name location value => exact ⟨_, rfl, showsParameter_change _ _ _ _⟩
  | sighting spot x => exact shows_seeAt x old
  | status s => trivial

/-- What is held is held after any other entry for the same place. -/
theorem HeldBy.write {e d : Entry} {v : Json} (h : e.HeldBy v) (hkeys : d.keys = e.keys) :
    e.HeldBy (d.write (some v)) := by
  cases e with
  | parameter name location value =>
    obtain ⟨other, place, w, rfl⟩ := keys_eq_parameters.1 hkeys
    obtain ⟨ps, rfl, hps⟩ := h
    exact ⟨_, rfl, hps.change other place w⟩
  | sighting spot x =>
    obtain ⟨y, rfl⟩ := keys_eq_spot.1 hkeys
    exact Shows.after h y
  | status s => trivial

/-- To write what is held changes nothing. -/
theorem HeldBy.write_eq {e : Entry} {v : Json} (h : e.HeldBy v) : e.write (some v) = v := by
  cases e with
  | parameter name location value =>
    obtain ⟨ps, rfl, hps⟩ := h
    exact congrArg Json.array hps.change_eq
  | sighting spot x => exact Shows.seeAt_eq h
  | status s => rfl

end Entry

/-! ## Documents -/

/-- The document shows the entry at its place in the operation of the endpoint. -/
def Holds (doc : Option Json) (endpoint : Endpoint) (e : Entry) : Prop :=
  ∃ v, valueAt (operationKeys endpoint ++ e.keys) doc = some v ∧ e.HeldBy v

variable {doc : Option Json} {endpoint : Endpoint} {e : Entry}

theorem holds_edit (doc : Option Json) (endpoint : Endpoint) (e : Entry) :
    Holds (some (edit e.write (operationKeys endpoint ++ e.keys) doc)) endpoint e :=
  ⟨_, valueAt_edit_self _ doc, e.heldBy_write _⟩

/-- An entry stays held, wherever another one is written. -/
theorem Holds.after_edit (h : Holds doc endpoint e) (other : Endpoint) (d : Entry) :
    Holds (some (edit d.write (operationKeys other ++ d.keys) doc)) endpoint e := by
  obtain ⟨v, hv, he⟩ := h
  by_cases hsame : operationKeys other ++ d.keys = operationKeys endpoint ++ e.keys
  · have hprefix : operationKeys other ++ d.keys <+: operationKeys endpoint ++ e.keys :=
      hsame ▸ List.prefix_refl _
    have hkeys := (places_eq_of_begins hprefix).2
    rw [hsame]
    refine ⟨_, valueAt_edit_self _ doc, ?_⟩
    rw [hv]
    exact he.write hkeys
  · refine ⟨v, ?_, he⟩
    rw [valueAt_edit_of_apart _ _ doc, hv]
    · intro hprefix
      obtain ⟨hop, hkeys⟩ := places_eq_of_begins hprefix
      exact hsame (by rw [hop, hkeys])
    · intro hprefix
      obtain ⟨hop, hkeys⟩ := places_eq_of_begins hprefix
      exact hsame (by rw [hop, hkeys])

theorem Holds.edit_eq (h : Holds doc endpoint e) :
    some (edit e.write (operationKeys endpoint ++ e.keys) doc) = doc := by
  obtain ⟨v, hv, he⟩ := h
  exact edit_eq_self hv he.write_eq

/-- An entry stays held when more traffic is merged. -/
theorem Holds.run (h : Holds doc endpoint e) {edits : List (List String × Entry)}
    (hedits : ∀ d ∈ edits, ∃ other, d.1 = operationKeys other ++ d.2.keys) :
    Holds (run Entry.write edits doc) endpoint e := by
  induction edits generalizing doc with
  | nil => exact h
  | cons d rest ih =>
    obtain ⟨⟨other, hd⟩, hrest⟩ := List.forall_mem_cons.1 hedits
    rw [run_cons, hd]
    exact ih (h.after_edit other d.2) hrest

/-- What a run of edits says is held at its end. -/
theorem holds_run {edits : List (List String × Entry)}
    (hedits : ∀ d ∈ edits, ∃ other, d.1 = operationKeys other ++ d.2.keys)
    (hmem : (operationKeys endpoint ++ e.keys, e) ∈ edits) (doc : Option Json) :
    Holds (run Entry.write edits doc) endpoint e := by
  induction edits generalizing doc with
  | nil => cases hmem
  | cons d rest ih =>
    obtain ⟨-, hrest⟩ := List.forall_mem_cons.1 hedits
    rw [run_cons]
    rcases List.mem_cons.1 hmem with rfl | hmem
    · exact (holds_edit doc endpoint e).run hrest
    · exact ih hrest hmem _

/-- Edits that are held change nothing. -/
theorem run_eq_self {edits : List (List String × Entry)}
    (h : ∀ d ∈ edits, ∃ endpoint, d.1 = operationKeys endpoint ++ d.2.keys ∧
      Holds doc endpoint d.2) : run Entry.write edits doc = doc := by
  induction edits with
  | nil => rfl
  | cons d rest ih =>
    obtain ⟨⟨endpoint, hd, hheld⟩, hrest⟩ := List.forall_mem_cons.1 h
    rw [run_cons, hd, hheld.edit_eq]
    exact ih hrest

/-- **A trace that was merged can be merged again without effect**: in any document whose root is an
object, after any traffic that the trace is part of. A document whose root is no object is never
changed. -/
theorem mergeTrace_again (doc : Json) (traffic : List (Endpoint × Trace)) (endpoint : Endpoint)
    (trace : Trace) :
    ((∃ members, doc = .object members) → (endpoint, trace) ∈ traffic →
      mergeTrace (mergeAll doc traffic) endpoint trace = (true, mergeAll doc traffic)) ∧
    ((∀ members, doc ≠ .object members) → mergeTrace doc endpoint trace = (false, doc)) := by
  constructor
  · rintro ⟨members, rfl⟩ hmem
    obtain ⟨ms, hms⟩ := exists_mergeAll_eq_object members traffic
    have hall : ∀ d ∈ editsOf endpoint trace, ∃ other, d.1 = operationKeys other ++ d.2.keys ∧
        Holds (some (mergeAll (.object members) traffic)) other d.2 := by
      intro d hd
      obtain ⟨e, he, rfl⟩ := List.mem_map.1 hd
      refine ⟨endpoint, rfl, ?_⟩
      rw [← run_editsOfAll]
      exact holds_run exists_operation_of_mem_editsOfAll
        (mem_editsOfAll.2 ⟨_, hmem, he, rfl⟩) _
    have hrun := run_eq_self hall
    rw [hms] at hrun ⊢
    rw [run_editsOf] at hrun
    exact Prod.ext rfl (Option.some.inj hrun)
  · intro h
    cases doc with
    | object ms => exact absurd rfl (h ms)
    | _ => rfl

/-- A trace with a text that is no JSON and a header that comes twice, to a document with parameters
and responses of the wrong kinds; and the same trace to a list. -/
theorem mergeTrace_again_misshapen :
    let endpoint : Endpoint :=
      { id := .ofNat 1, host := "h", method := "GET", path := "/a/\x7bid\x7d", pathPattern := "",
        numberParams := 1 }
    let trace : Trace :=
      { Trace.bare (.ofNat 2) ⟨0, 0⟩ "h" "GET" "/a/7" 200 with
        responseHeaders := [⟨"X-A", "1"⟩, ⟨"x-a", "2"⟩], responseBody := "[1" }
    let doc : Json := .object [("paths", .object [("/a/\x7bid\x7d", .object [("get",
      .object [("parameters", .array [.null]), ("responses", .int 1)])])])]
    let traffic := [(endpoint, trace), (endpoint, { trace with responseBody := "[1]" })]
    (endpoint, trace) ∈ traffic ∧
      mergeTrace (mergeAll doc traffic) endpoint trace = (true, mergeAll doc traffic) ∧
      mergeTrace (.array [doc]) endpoint trace = (false, .array [doc]) := by
  intro endpoint trace doc traffic
  have hmem : (endpoint, trace) ∈ traffic := List.mem_cons_self
  exact ⟨hmem, (mergeTrace_again doc traffic endpoint trace).1 ⟨_, rfl⟩ hmem,
    (mergeTrace_again (.array [doc]) [] endpoint trace).2 (by simp)⟩

end TrafficLens.Document
