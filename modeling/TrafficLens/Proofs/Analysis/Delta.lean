import TrafficLens.Proofs.Analysis.Repetition

/-!
# What a trace changes

Only the fields that `reconcile` reports as changed are stored. `IsDelta` says what such a report
has to be: laid over the fields that were there it gives every place what its observations make of
it, and no part of it could be left out. A field that was there is reported if and only if the
observations at its place make another field of it, and a place that had no field gets one. The
main statement is `reconcile_isDelta`.
-/

namespace TrafficLens

open Reconciliation

/-! ## The contract -/

/-- The fields that are reported as changed are those that a trace makes of the ones that were
there, without the ones that it leaves as they are. -/
structure IsDelta (scanner : Scanner) (trace : Trace) (endpointId : Uuid)
    (existing changed : List Field) : Prop where
  /-- No two of them are at one place. -/
  distinctPlaces : DistinctPlaces changed
  /-- The trace carries something at the place of each. -/
  observed : ∀ g ∈ changed, ∃ o ∈ trace.observations, o.place = g.place
  /-- At an observed place without a field there is just one, a field of the endpoint. -/
  added : ∀ o ∈ trace.observations, fieldAt existing o.place = none →
    ∃ g, g.endpointId = endpointId ∧ ∀ f, f ∈ changed ∧ f.place = o.place ↔ f = g
  /-- At the place of a field that was there stands what the observations there make of it, if that
  is another field. -/
  changed_iff : ∀ f ∈ existing, ∀ g, g ∈ changed ∧ g.place = f.place ↔
    g = f.afterAll scanner (observationsAt trace.observations f.place) ∧ g ≠ f
  /-- It is still the same field of the same endpoint. -/
  keeps : ∀ f ∈ existing, ∀ g ∈ changed, g.place = f.place →
    g.id = f.id ∧ g.endpointId = f.endpointId
  /-- Stored over what was there, they leave at an observed place the schema that was there, after
  all that was seen at the place in its order, and the type that this schema reports. -/
  schema_overlaid : ∀ o ∈ trace.observations,
    ∃ g, fieldAt (storeFields existing changed) o.place = some g ∧
      g.schema = ((fieldAt existing o.place).elim {} Field.schema).seeAll
        ((observationsAt trace.observations o.place).map Observation.sighting) ∧
      g.dataType = g.schema.primaryType.name
  /-- A place where nothing was observed is as it was. -/
  fieldAt_unobserved : ∀ p, (∀ o ∈ trace.observations, o.place ≠ p) →
    fieldAt (storeFields existing changed) p = fieldAt existing p

/-! ## What stands at a place after a trace -/

namespace Field

variable {scanner : Scanner} {endpointId id : Uuid} {known : Option Field}
  {os : List Observation} {g : Field}

/-- The schema at a place sees the values there in their order. -/
theorem schema_follow (h : follow scanner endpointId id known os = some g) :
    g.schema = (known.elim {} schema).seeAll (os.map Observation.sighting) := by
  cases known with
  | some f =>
    obtain rfl := Option.some.inj h
    exact schema_afterAll scanner f os
  | none =>
    cases os with
    | nil => cases h
    | cons o os =>
      obtain rfl := Option.some.inj h
      exact schema_afterAll scanner _ (o :: os)

/-- Whatever the field was before, after an observation its type is that of its schema. -/
theorem dataType_afterAll {f : Field} (hos : os ≠ []) :
    (f.afterAll scanner os).dataType = (f.afterAll scanner os).schema.primaryType.name := by
  obtain ⟨o, ho⟩ := List.exists_mem_of_ne_nil os hos
  exact (holds_afterAll scanner f os o ho).typed

theorem dataType_follow (hos : os ≠ []) (h : follow scanner endpointId id known os = some g) :
    g.dataType = g.schema.primaryType.name := by
  cases known with
  | some f =>
    obtain rfl := Option.some.inj h
    exact dataType_afterAll hos
  | none =>
    cases os with
    | nil => cases h
    | cons o os =>
      obtain rfl := Option.some.inj h
      exact dataType_afterAll hos

/-- A place without a field gets one of the endpoint. -/
theorem endpointId_follow_none (h : follow scanner endpointId id none os = some g) :
    g.endpointId = endpointId := by
  cases os with
  | nil => cases h
  | cons o os =>
    obtain rfl := Option.some.inj h
    exact (keeps_afterAll scanner _ (o :: os)).endpointId_eq

end Field

/-! ## The report, place by place -/

variable {scanner : Scanner} {newId : Nat → Uuid} {endpointId : Uuid} {fields : List Field}
  {trace : Trace} {p : Place} {f g : Field}

theorem observationsAt_ne_nil {o : Observation} {os : List Observation} (h : o ∈ os) :
    observationsAt os o.place ≠ [] :=
  fun hnil => observationsAt_eq_nil.1 hnil o h rfl

/-- What is reported at a place is the field that is stored there, if it is another than before. -/
theorem mem_changed_iff_fieldAt (h : DistinctPlaces fields) :
    g ∈ (reconcile scanner newId trace endpointId fields).changed ∧ g.place = p ↔
      fieldAt (track scanner newId endpointId fields trace) p = some g ∧
        observationsAt trace.observations p ≠ [] ∧ fieldAt fields p ≠ some g := by
  have hseen : (∃ o ∈ trace.observations, o.place = p) ↔
      observationsAt trace.observations p ≠ [] := by
    rw [Ne, observationsAt_eq_nil]
    simp
  rw [fieldAt_track h, ← hseen, ← ordered_tracePass.mem_iff]
  constructor
  · rintro ⟨hg, rfl⟩
    exact (mem_changed h).1 hg
  · rintro ⟨hg, hchanged⟩
    obtain rfl := place_of_mem_tracePass hg
    exact ⟨(mem_changed h).2 ⟨hg, hchanged⟩, rfl⟩

/-- At an observed place a field is stored. -/
theorem exists_fieldAt_track_of_mem (newId : Nat → Uuid) (h : DistinctPlaces fields)
    {o : Observation} (ho : o ∈ trace.observations) :
    ∃ id g, fieldAt (track scanner newId endpointId fields trace) o.place = some g ∧
      Field.follow scanner endpointId id (fieldAt fields o.place)
        (observationsAt trace.observations o.place) = some g := by
  obtain ⟨id, hid⟩ := exists_fieldAt_track scanner newId endpointId trace h o.place
  have hsome : Field.follow scanner endpointId id (fieldAt fields o.place)
      (observationsAt trace.observations o.place) ≠ none :=
    fun hnone => observationsAt_ne_nil ho (Field.follow_eq_none.1 hnone).2
  obtain ⟨g, hg⟩ := Option.ne_none_iff_exists'.1 hsome
  exact ⟨id, g, hid.trans hg, hg⟩

/-- What is stored at the place of a field that was there is what the observations make of it. -/
theorem fieldAt_track_of_mem (h : DistinctPlaces fields) (hf : f ∈ fields) :
    fieldAt (track scanner newId endpointId fields trace) f.place =
      some (f.afterAll scanner (observationsAt trace.observations f.place)) := by
  obtain ⟨id, hid⟩ := exists_fieldAt_track scanner newId endpointId trace h f.place
  rw [hid, h.mem_iff.1 hf, Field.follow]

theorem mem_changed_iff_afterAll (h : DistinctPlaces fields) (hf : f ∈ fields) :
    g ∈ (reconcile scanner newId trace endpointId fields).changed ∧ g.place = f.place ↔
      g = f.afterAll scanner (observationsAt trace.observations f.place) ∧ g ≠ f := by
  rw [mem_changed_iff_fieldAt h, fieldAt_track_of_mem h hf, h.mem_iff.1 hf]
  constructor
  · rintro ⟨hstored, -, hne⟩
    obtain rfl := Option.some.inj hstored
    exact ⟨rfl, fun heq => hne (congrArg some heq.symm)⟩
  · rintro ⟨rfl, hne⟩
    refine ⟨rfl, fun hnil => hne ?_, fun heq => hne (Option.some.inj heq).symm⟩
    rw [hnil, Field.afterAll_nil]

/-! ## The main statement -/

/-- **The report of changes is faithful and minimal**: whatever the scanner, the trace and the
fields that are there, at most one at each place. -/
theorem reconcile_isDelta (scanner : Scanner) (newId : Nat → Uuid) (endpointId : Uuid)
    (trace : Trace) (existing : List Field) (h : DistinctPlaces existing) :
    IsDelta scanner trace endpointId existing
      (reconcile scanner newId trace endpointId existing).changed where
  distinctPlaces := distinctPlaces_changed
  observed g hg := ((mem_changed h).1 hg).2.1
  added o ho hnone := by
    obtain ⟨id, g, hstored, hg⟩ := exists_fieldAt_track_of_mem newId h ho
    rw [hnone] at hg
    refine ⟨g, Field.endpointId_follow_none hg, fun f => ?_⟩
    rw [mem_changed_iff_fieldAt h, hstored, hnone]
    simp [observationsAt_ne_nil ho, eq_comm]
  changed_iff f hf g := mem_changed_iff_afterAll h hf
  keeps f hf g hg hplace := by
    obtain ⟨rfl, -⟩ := (mem_changed_iff_afterAll h hf).1 ⟨hg, hplace⟩
    have hkeeps := Field.keeps_afterAll scanner f (observationsAt trace.observations f.place)
    exact ⟨hkeeps.id_eq, hkeeps.endpointId_eq⟩
  schema_overlaid o ho := by
    obtain ⟨id, g, hstored, hg⟩ := exists_fieldAt_track_of_mem newId h ho
    exact ⟨g, hstored, Field.schema_follow hg,
      Field.dataType_follow (observationsAt_ne_nil ho) hg⟩
  fieldAt_unobserved p hp := by
    obtain ⟨id, hid⟩ := exists_fieldAt_track scanner newId endpointId trace h p
    rw [observationsAt_eq_nil.2 hp, Field.follow_nil] at hid
    exact hid

/-- Two fields of another endpoint: one at a header that changes nothing about it any more, and one
at a place that is not observed. -/
def settledFields : List Field :=
  [{ Field.new (.ofNat 5) .responseHeaders "x-mark" (.ofNat 6) with
      dataType := "string", schema := { type := some .string }, identified := ["TEXT"],
      falsePositives := ["TEXT"] },
    Field.new (.ofNat 7) .requestBody "" (.ofNat 6)]

/-- Of three headers at two places, one place is new and one settled. -/
theorem reconcile_isDelta_settled :
    DistinctPlaces settledFields ∧ IsDelta textScanner headerTrace (.ofNat 3) settledFields
      (reconcile textScanner .ofNat headerTrace (.ofNat 3) settledFields).changed :=
  ⟨by decide,
    reconcile_isDelta textScanner .ofNat (.ofNat 3) headerTrace settledFields (by decide)⟩

end TrafficLens
