import TrafficLens.Proofs.Analysis.Coherence
import TrafficLens.Proofs.Analysis.Detection
import TrafficLens.Proofs.Schema.Rearrangement

/-!
# The order of traces makes no difference

The traces of an endpoint are analyzed one after another, and each is stored before the next
(`trackAll`). Traces in another order leave the same fields behind, up to their identifiers, their
samples, the order in which classes are listed and the order of alternatives in schemas
(`trackAll_alike`).

No two steps are commuted to see it. What stands at a place in the end is what follows from all
observations there, in their order (`exists_fieldAt_trackAll`), and each part of it depends on which
observations there are, but not on their order (`alike_of_follow`).
-/

namespace TrafficLens

open Reconciliation

/-! ## One trace after another -/

/-- The analysis of a trace: the trace, and the supply of identifiers for new fields. -/
structure Visit where
  newId : Nat → Uuid
  trace : Trace

/-- The fields after some traces, one after another, when there are none before. -/
def trackAll (scanner : Scanner) (endpointId : Uuid) (visits : List Visit) : List Field :=
  visits.foldl (fun fields v => track scanner v.newId endpointId fields v.trace) []

/-- All that some traces show, in the order of the traces. -/
def shownBy (traces : List Trace) : List Observation := traces.flatMap Trace.observations

variable {scanner : Scanner} {endpointId : Uuid} {visits : List Visit}

theorem trackAll_append_singleton (visits : List Visit) (v : Visit) :
    trackAll scanner endpointId (visits ++ [v]) =
      track scanner v.newId endpointId (trackAll scanner endpointId visits) v.trace := by
  rw [trackAll, List.foldl_append]
  rfl

theorem distinctPlaces_trackAll (scanner : Scanner) (endpointId : Uuid) (visits : List Visit) :
    DistinctPlaces (trackAll scanner endpointId visits) := by
  induction visits using List.reverseRecOn with
  | nil => exact List.nodup_nil
  | append_singleton visits v ih =>
    rw [trackAll_append_singleton]
    exact distinctPlaces_track ih

/-- **What stands at a place in the end** follows from all observations there. -/
theorem exists_fieldAt_trackAll (scanner : Scanner) (endpointId : Uuid) (visits : List Visit)
    (p : Place) :
    ∃ id, fieldAt (trackAll scanner endpointId visits) p =
      Field.follow scanner endpointId id none
        (observationsAt (shownBy (visits.map Visit.trace)) p) := by
  induction visits using List.reverseRecOn with
  | nil => exact ⟨.nil, rfl⟩
  | append_singleton visits v ih =>
    obtain ⟨id, ih⟩ := ih
    obtain ⟨id', htrack⟩ := exists_fieldAt_track scanner v.newId endpointId v.trace
      (distinctPlaces_trackAll scanner endpointId visits) p
    have hshown : shownBy ((visits ++ [v]).map Visit.trace) =
        shownBy (visits.map Visit.trace) ++ v.trace.observations := by
      simp [shownBy]
    rw [trackAll_append_singleton, htrack, ih, hshown, observationsAt_append]
    exact Field.exists_follow_append none id id' _ _

/-! ## Fields that differ in their history only -/

theorem Schema.Alike.primaryType_eq {a b : Schema} (h : Schema.Alike a b) :
    a.primaryType = b.primaryType := by
  obtain ⟨type, nullable, items, properties, oneOf⟩ := a
  obtain ⟨type', nullable', items', properties', oneOf'⟩ := b
  unfold Schema.Alike at h
  obtain ⟨rfl, -, -, -, halternatives⟩ := h
  -- either both have alternatives or neither has
  cases oneOf with
  | none =>
    cases oneOf' with
    | none => rfl
    | some ys => exact halternatives.elim
  | some xs =>
    cases oneOf' with
    | none => exact halternatives.elim
    | some ys => cases type <;> rfl

namespace Field

/-- The fields are equal up to their identifiers, their samples, the order in which classes are
listed and the order of alternatives. -/
structure Alike (f g : Field) : Prop where
  place_eq : f.place = g.place
  classes : f.classes.Perm g.classes
  identified : f.identified.Perm g.identified
  tag_eq : f.tag = g.tag
  dataType_eq : f.dataType = g.dataType
  /-- There are samples of the same classes. -/
  keys_eq : Dict.keys f.samples = Dict.keys g.samples
  schema : Schema.Alike f.schema g.schema

variable {id id' : Uuid} {os others : List Observation} {f g : Field}

theorem mem_classes_of_follow (h : follow scanner endpointId id none os = some f) (c : String) :
    c ∈ f.classes ↔ ∃ o ∈ os, scanner.Reports o c := by
  have hmem : c ∈ (follow scanner endpointId id none os).elim [] Field.classes ↔ _ :=
    mem_classes_follow
  rw [h] at hmem
  simpa using hmem

theorem mem_identified_of_follow (h : follow scanner endpointId id none os = some f) (c : String) :
    c ∈ f.identified ↔ ∃ o ∈ os, scanner.Reports o c := by
  have hmem : c ∈ (follow scanner endpointId id none os).elim [] Field.identified ↔ _ :=
    mem_identified_follow
  rw [h] at hmem
  simpa using hmem

theorem schema_of_follow (h : follow scanner endpointId id none os = some f) :
    f.schema = Schema.empty.seeAll (os.map Observation.sighting) := by
  cases os with
  | nil => cases h
  | cons o os =>
    obtain rfl := Option.some.inj h
    exact schema_afterAll scanner _ _

/-- **A new field depends on which observations there are at its place**, but not on their order. -/
theorem alike_of_follow {p : Place} (hos : ∀ o ∈ os, o.place = p)
    (hsame : ∀ o, o ∈ os ↔ o ∈ others) (hf : follow scanner endpointId id none os = some f)
    (hg : follow scanner endpointId id' none others = some g) : f.Alike g := by
  have hothers : ∀ o ∈ others, o.place = p := fun o ho => hos o ((hsame o).2 ho)
  have hfc : f.Coherent := coherent_of_follow (by simp) f hf
  have hgc : g.Coherent := coherent_of_follow (by simp) g hg
  have hreports : ∀ c, (∃ o ∈ os, scanner.Reports o c) ↔ ∃ o ∈ others, scanner.Reports o c := by
    intro c
    simp only [hsame]
  have hclasses : ∀ c, c ∈ f.classes ↔ c ∈ g.classes := by
    intro c
    rw [mem_classes_of_follow hf, mem_classes_of_follow hg, hreports]
  have hschema : Schema.Alike f.schema g.schema := by
    rw [schema_of_follow hf, schema_of_follow hg]
    have hsub : os ⊆ others := fun o => (hsame o).1
    have hsup : others ⊆ os := fun o => (hsame o).2
    exact Schema.alike_of_subset (List.map_subset _ hsub) (List.map_subset _ hsup)
  refine ⟨?_, ?_, ?_, ?_, ?_, ?_, hschema⟩
  · rw [place_of_follow (by simp) hos f hf, place_of_follow (by simp) hothers g hg]
  · exact (List.perm_ext_iff_of_nodup hfc.nodup_classes hgc.nodup_classes).2 hclasses
  · refine (List.perm_ext_iff_of_nodup hfc.nodup_identified hgc.nodup_identified).2 fun c => ?_
    rw [mem_identified_of_follow hf, mem_identified_of_follow hg, hreports]
  · rw [hfc.tagged, hgc.tagged]
    simp only [List.eq_nil_iff_forall_not_mem, hclasses]
  · rw [hfc.typed, hgc.typed, hschema.primaryType_eq]
  · refine Increasing.ext hfc.ordered_samples.increasing_keys hgc.ordered_samples.increasing_keys
      fun c => ?_
    rw [hfc.mem_keys, hgc.mem_keys, hclasses]

theorem rel_alike_follow {p : Place} (hos : ∀ o ∈ os, o.place = p) (h : os.Perm others) :
    Option.Rel Field.Alike (follow scanner endpointId id none os)
      (follow scanner endpointId id' none others) := by
  cases os with
  | nil =>
    obtain rfl := h.nil_eq
    exact .none
  | cons o os =>
    cases others with
    | nil => exact absurd h.eq_nil (List.cons_ne_nil o os)
    | cons o' others => exact .some (alike_of_follow hos (fun _ => h.mem_iff) rfl rfl)

end Field

/-! ## The main statement -/

/-- **The order of traces makes no difference**: whatever the scanner, runs over the same traces in
different orders end with fields at the same places, one at each, and the fields at a place are
equal up to their history. -/
theorem trackAll_alike (scanner : Scanner) (endpointId : Uuid) {visits others : List Visit}
    (h : (visits.map Visit.trace).Perm (others.map Visit.trace)) :
    DistinctPlaces (trackAll scanner endpointId visits) ∧
      DistinctPlaces (trackAll scanner endpointId others) ∧
      ∀ p, Option.Rel Field.Alike (fieldAt (trackAll scanner endpointId visits) p)
        (fieldAt (trackAll scanner endpointId others) p) := by
  refine ⟨distinctPlaces_trackAll _ _ _, distinctPlaces_trackAll _ _ _, fun p => ?_⟩
  obtain ⟨id, hf⟩ := exists_fieldAt_trackAll scanner endpointId visits p
  obtain ⟨id', hg⟩ := exists_fieldAt_trackAll scanner endpointId others p
  have hperm : (observationsAt (shownBy (visits.map Visit.trace)) p).Perm
      (observationsAt (shownBy (others.map Visit.trace)) p) :=
    (h.flatMap_right Trace.observations).filter _
  rw [hf, hg]
  exact Field.rel_alike_follow (fun o ho => place_of_mem_observationsAt ho) hperm

/-- A trace of a response. -/
def responseTrace (body : String) : Trace :=
  { Trace.bare (.ofNat 1) ⟨0, 0⟩ "api.local" "GET" "/users" 200 with responseBody := body }

/-- A body that cannot be read, before one that can and after it. -/
theorem trackAll_alike_malformed :
    let visits : List Visit := [⟨.ofNat, responseTrace "[1"⟩, ⟨.ofNat, responseTrace "[1]"⟩]
    let others : List Visit :=
      [⟨fun n => .ofNat (n + 7), responseTrace "[1]"⟩, ⟨.ofNat, responseTrace "[1"⟩]
    (visits.map Visit.trace).Perm (others.map Visit.trace) ∧
      DistinctPlaces (trackAll textScanner (.ofNat 3) visits) ∧
      DistinctPlaces (trackAll textScanner (.ofNat 3) others) ∧
      ∀ p, Option.Rel Field.Alike (fieldAt (trackAll textScanner (.ofNat 3) visits) p)
        (fieldAt (trackAll textScanner (.ofNat 3) others) p) := by
  intro visits others
  have h : (visits.map Visit.trace).Perm (others.map Visit.trace) := .swap _ _ _
  exact ⟨h, trackAll_alike textScanner (.ofNat 3) h⟩

end TrafficLens
