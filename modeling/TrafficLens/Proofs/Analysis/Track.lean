import TrafficLens.Proofs.Analysis.Pass

/-!
# The fields that are stored after a trace

`track` stores what a trace changes over the fields that are there. Then the field at a place is the
one that the pass over the trace ends with there (`fieldAt_track`): fields that the pass does not
report as changed are there already. So what is stored at a place is what was stored there, after the
observations at that place (`exists_fieldAt_track`).
-/

namespace TrafficLens

open Reconciliation

/-- The fields after a trace: those that it changes are stored over the ones that are there. -/
def track (scanner : Scanner) (newId : Nat → Uuid) (endpointId : Uuid) (fields : List Field)
    (trace : Trace) : List Field :=
  storeFields fields (reconcile scanner newId trace endpointId fields).changed

variable {scanner : Scanner} {newId : Nat → Uuid} {endpointId : Uuid} {fields : List Field}
  {trace : Trace} {p : Place} {f : Field}

/-- The pass over a trace, from the fields that are there. -/
def tracePass (scanner : Scanner) (newId : Nat → Uuid) (endpointId : Uuid) (fields : List Field)
    (trace : Trace) : Pass :=
  passOver scanner newId endpointId (byPlace fields) trace.observations

theorem ordered_byPlace (fields : List Field) : Dict.Ordered (byPlace fields) :=
  Dict.ordered_ofList _

theorem ordered_tracePass :
    Dict.Ordered (tracePass scanner newId endpointId fields trace).fields :=
  ordered_passOver (ordered_byPlace fields)

/-- What stands at a place after the pass is what is stored there, after the observations there. -/
theorem seek?_tracePass (scanner : Scanner) (newId : Nat → Uuid) (endpointId : Uuid)
    (trace : Trace) (h : DistinctPlaces fields) (p : Place) :
    ∃ id, Dict.seek? p (tracePass scanner newId endpointId fields trace).fields =
      Field.follow scanner endpointId id (fieldAt fields p)
        (observationsAt trace.observations p) := by
  rw [← seek?_byPlace h]
  exact seek?_passOver scanner newId endpointId (ordered_byPlace fields) _ p

theorem place_of_mem_tracePass
    (hf : (p, f) ∈ (tracePass scanner newId endpointId fields trace).fields) : f.place = p := by
  obtain ⟨id, hid⟩ :=
    seek?_passOver scanner newId endpointId (ordered_byPlace fields) trace.observations p
  rw [ordered_tracePass.mem_iff, tracePass, hid] at hf
  exact Field.place_of_follow
    (fun g hg => (of_mem_byPlace ((ordered_byPlace fields).mem_iff.2 hg)).2)
    (fun o ho => place_of_mem_observationsAt ho) f hf

/-! ## What is reported as changed -/

theorem mem_changed_byPlace :
    f ∈ (reconcile scanner newId trace endpointId fields).changed ↔
      (f.place, f) ∈ (tracePass scanner newId endpointId fields trace).fields ∧
        (∃ o ∈ trace.observations, o.place = f.place) ∧
        Dict.seek? f.place (byPlace fields) ≠ some f := by
  have hbefore : ∀ q, Dict.find? q (byPlace fields) = Dict.seek? q (byPlace fields) :=
    fun q => Dict.find?_eq_seek? q (ordered_byPlace fields)
  change f ∈ ((tracePass scanner newId endpointId fields trace).fields.filter _).map Prod.snd ↔ _
  simp only [List.mem_map, List.mem_filter, Bool.and_eq_true, List.contains_iff_mem,
    decide_eq_true_eq, hbefore]
  constructor
  · rintro ⟨⟨q, g⟩, ⟨hmem, htouched, hne⟩, rfl⟩
    obtain rfl : g.place = q := place_of_mem_tracePass hmem
    exact ⟨hmem, mem_touched_passOver.1 htouched, hne⟩
  · rintro ⟨hmem, htouched, hne⟩
    exact ⟨(f.place, f), ⟨hmem, mem_touched_passOver.2 htouched, hne⟩, rfl⟩

theorem mem_changed (h : DistinctPlaces fields) :
    f ∈ (reconcile scanner newId trace endpointId fields).changed ↔
      (f.place, f) ∈ (tracePass scanner newId endpointId fields trace).fields ∧
        (∃ o ∈ trace.observations, o.place = f.place) ∧ fieldAt fields f.place ≠ some f := by
  rw [mem_changed_byPlace, seek?_byPlace h]

theorem distinctPlaces_changed :
    DistinctPlaces (reconcile scanner newId trace endpointId fields).changed := by
  have hkeys : ∀ entries : List (Place × Field),
      (∀ e ∈ entries, e.2.place = e.1) → Dict.Ordered entries →
        DistinctPlaces (entries.map Prod.snd) := by
    intro entries hplace hordered
    have heq : entries.map (Field.place ∘ Prod.snd) = entries.map Prod.fst :=
      List.map_congr_left hplace
    unfold DistinctPlaces
    rw [List.map_map, heq]
    exact hordered.increasing_keys.nodup
  refine hkeys _ (fun e he => ?_) (List.Pairwise.filter _ ordered_tracePass)
  exact place_of_mem_tracePass (List.mem_filter.1 he).1

theorem distinctPlaces_track (h : DistinctPlaces fields) :
    DistinctPlaces (track scanner newId endpointId fields trace) :=
  distinctPlaces_storeFields h _

/-- What the pass ends with at a place is stored, whatever was there. -/
theorem mem_track_of_mem_tracePass
    (hf : (p, f) ∈ (tracePass scanner newId endpointId fields trace).fields) :
    f ∈ track scanner newId endpointId fields trace := by
  obtain rfl := place_of_mem_tracePass hf
  by_cases hchanged : f ∈ (reconcile scanner newId trace endpointId fields).changed
  · exact mem_storeFields_of_mem distinctPlaces_changed hchanged
  · -- nothing is observed at the place, or the field is the one that was there
    have hbefore : Dict.seek? f.place (byPlace fields) = some f := by
      by_contra hne
      have hseen : ¬ ∃ o ∈ trace.observations, o.place = f.place :=
        fun hseen => hchanged (mem_changed_byPlace.2 ⟨hf, hseen, hne⟩)
      obtain ⟨id, hid⟩ := seek?_passOver scanner newId endpointId (ordered_byPlace fields)
        trace.observations f.place
      have hnone : observationsAt trace.observations f.place = [] :=
        observationsAt_eq_nil.2 fun o ho hop => hseen ⟨o, ho, hop⟩
      rw [hnone, Field.follow_nil] at hid
      exact hne (hid.symm.trans (ordered_tracePass.mem_iff.1 hf))
    have hmem := (of_mem_byPlace ((ordered_byPlace fields).mem_iff.2 hbefore)).1
    refine mem_storeFields_of_ne hmem fun g hg hplace => hchanged ?_
    have hpass := (mem_changed_byPlace.1 hg).1
    rw [hplace, ordered_tracePass.mem_iff, ordered_tracePass.mem_iff.1 hf] at hpass
    exact Option.some.inj hpass ▸ hg

/-- What is stored was there, or the pass ends with it at its place. -/
theorem mem_tracePass_of_mem_track (hf : f ∈ track scanner newId endpointId fields trace) :
    f ∈ fields ∨ (f.place, f) ∈ (tracePass scanner newId endpointId fields trace).fields :=
  (mem_storeFields hf).symm.imp_right fun h => (mem_changed_byPlace.1 h).1

/-! ## What is stored at a place -/

/-- **What is stored at a place after a trace** is what the pass over it ends with there. -/
theorem fieldAt_track (h : DistinctPlaces fields) (p : Place) :
    fieldAt (track scanner newId endpointId fields trace) p =
      Dict.seek? p (tracePass scanner newId endpointId fields trace).fields := by
  have hdistinct : DistinctPlaces (reconcile scanner newId trace endpointId fields).changed :=
    distinctPlaces_changed
  rw [track, fieldAt_storeFields fields hdistinct]
  cases hchanged : fieldAt (reconcile scanner newId trace endpointId fields).changed p with
  | some f =>
    obtain rfl := place_of_fieldAt hchanged
    have hmem := ((mem_changed h).1 (mem_of_fieldAt hchanged)).1
    exact (ordered_tracePass.mem_iff.1 hmem).symm
  | none =>
    change fieldAt fields p = _
    by_cases hseen : ∃ o ∈ trace.observations, o.place = p
    · -- the pass has a field there, and it would be reported if it were not the one that is stored
      cases hpass : Dict.seek? p (tracePass scanner newId endpointId fields trace).fields with
      | none =>
        obtain ⟨id, hid⟩ := seek?_tracePass scanner newId endpointId trace h p
        exact (Field.follow_eq_none.1 (hid.symm.trans hpass)).1
      | some f =>
        have hmem := ordered_tracePass.mem_iff.2 hpass
        obtain rfl := place_of_mem_tracePass hmem
        by_contra hne
        have hin := (mem_changed h).2 ⟨hmem, hseen, hne⟩
        rw [hdistinct.mem_iff.1 hin] at hchanged
        cases hchanged
    · obtain ⟨id, hid⟩ := seek?_tracePass scanner newId endpointId trace h p
      have hnone : observationsAt trace.observations p = [] :=
        observationsAt_eq_nil.2 fun o ho hop => hseen ⟨o, ho, hop⟩
      rw [hid, hnone, Field.follow_nil]

/-- **What is stored at a place after a trace** is what was stored there, after the observations
there. -/
theorem exists_fieldAt_track (scanner : Scanner) (newId : Nat → Uuid) (endpointId : Uuid)
    (trace : Trace) (h : DistinctPlaces fields) (p : Place) :
    ∃ id, fieldAt (track scanner newId endpointId fields trace) p =
      Field.follow scanner endpointId id (fieldAt fields p)
        (observationsAt trace.observations p) := by
  rw [fieldAt_track h]
  exact seek?_tracePass scanner newId endpointId trace h p

/-- What is true after the observations at each place is true of all that is stored. -/
theorem forall_mem_track {P : Field → Prop} (h : DistinctPlaces fields)
    (hfollow : ∀ id p, ∀ g ∈ Field.follow scanner endpointId id (fieldAt fields p)
      (observationsAt trace.observations p), P g) :
    ∀ g ∈ track scanner newId endpointId fields trace, P g := by
  intro g hg
  obtain ⟨id, hid⟩ := exists_fieldAt_track scanner newId endpointId trace h g.place
  rw [(distinctPlaces_track h).mem_iff.1 hg] at hid
  exact hfollow id g.place g hid.symm

end TrafficLens
