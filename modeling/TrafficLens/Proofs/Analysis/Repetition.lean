import TrafficLens.Proofs.Analysis.Detection
import TrafficLens.Proofs.Schema.Absorption

/-!
# A trace that comes again

`Field.Holds` says that a field holds an observation: its schema describes the value, its type is
that of the schema, the classes that are found in the value are recorded with as many samples as
there is room for, and it is tagged if it has to be. A field holds what it was last folded with
(`holds_after`), it holds that after any other observation (`Holds.after`), and an observation that
is held leaves the field as it is (`Holds.after_eq`). So the pass over a trace that comes again ends
where it begins (`fields_tracePass_again`), and all that it has to report is what was there before
(`reconcile_again`). Nothing is asked of the fields that the first pass starts from.
-/

namespace TrafficLens

open Reconciliation

/-! ## Samples -/

namespace Reconciliation

/-- There is no room for more samples, or these are all there. -/
def Filled (samples new : List String) : Prop :=
  maxSamples ≤ samples.length ∨ ∀ s ∈ new, s ∈ samples

theorem Filled.of_prefix {samples more new : List String} (h : Filled samples new)
    (hp : samples <+: more) : Filled more new := by
  rcases h with h | h
  · exact .inl (Nat.le_trans h hp.length_le)
  · exact .inr fun s hs => hp.subset (h s hs)

theorem filled_addSamples (samples new : List String) : Filled (addSamples samples new) new := by
  induction new generalizing samples with
  | nil => exact .inr fun s hs => by cases hs
  | cons s rest ih =>
    rw [addSamples_cons]
    split
    · next h => exact .inl (Nat.le_trans h (prefix_addSamples samples rest).length_le)
    · -- the first sample is there from now on
      have hs : s ∈ addSamples (addNew samples s) rest :=
        (prefix_addSamples _ rest).subset (mem_addNew.2 (.inl rfl))
      exact (ih (addNew samples s)).imp_right fun hrest => List.forall_mem_cons.2 ⟨hs, hrest⟩

theorem Filled.addSamples_eq {samples new : List String} (h : Filled samples new) :
    addSamples samples new = samples := by
  induction new with
  | nil => rfl
  | cons s rest ih =>
    have hstep : (if maxSamples ≤ samples.length then samples else addNew samples s) = samples := by
      split
      · rfl
      · next hroom => exact addNew_eq_self (h.resolve_left hroom s List.mem_cons_self)
    have hrest : Filled samples rest := h.imp_right fun h t ht => h t (List.mem_cons_of_mem s ht)
    rw [addSamples_cons, hstep]
    exact ih hrest

end Reconciliation

/-! ## What a field holds -/

namespace Field

/-- What was found of a class is recorded. -/
structure Recorded (f : Field) (found : String × List String) : Prop where
  identified : found.1 ∈ f.identified
  classes : found.1 ∉ f.falsePositives → found.1 ∈ f.classes
  samples : found.1 ∉ f.falsePositives →
    ∃ old, Dict.seek? found.1 f.samples = some old ∧ Filled old found.2

variable {scanner : Scanner} {f : Field} {o : Observation} {e : String × List String}

theorem recorded_record (f : Field) (e : String × List String) : (f.record e).Recorded e where
  identified := mem_addNew.2 (.inl rfl)
  classes h := (mem_classes_record f e).2 (.inr ⟨rfl, h⟩)
  samples h := by
    have h : e.1 ∉ f.falsePositives := h
    rw [samples_record h, Dict.seek?_alter_self]
    exact ⟨_, rfl, filled_addSamples _ _⟩

theorem Recorded.record (h : f.Recorded e) (d : String × List String) :
    (f.record d).Recorded e where
  identified := mem_addNew.2 (.inr h.identified)
  classes he := (mem_classes_record f d).2 (.inl (h.classes he))
  samples he := by
    obtain ⟨old, hold, hfilled⟩ := h.samples he
    by_cases hd : d.1 ∈ f.falsePositives
    · rw [samples_record_of_mem hd]
      exact ⟨old, hold, hfilled⟩
    · rw [samples_record hd]
      by_cases hed : e.1 = d.1
      · rw [hed] at hold ⊢
        rw [Dict.seek?_alter_self, hold]
        exact ⟨_, rfl, hfilled.of_prefix (prefix_addSamples old d.2)⟩
      · rw [Dict.seek?_alter_of_ne hed]
        exact ⟨old, hold, hfilled⟩

theorem Recorded.record_eq (h : f.Recorded e) : f.record e = f := by
  by_cases he : e.1 ∈ f.falsePositives
  · rw [Field.record, if_pos he, if_pos he, addNew_eq_self h.identified]
  · obtain ⟨old, hold, hfilled⟩ := h.samples he
    rw [Field.record, if_neg he, if_neg he, addNew_eq_self h.identified,
      addNew_eq_self (h.classes he), Dict.alter_eq_self hold hfilled.addSamples_eq]

theorem Recorded.recordAll (h : f.Recorded e) (found : List (String × List String)) :
    (f.recordAll found).Recorded e := by
  induction found generalizing f with
  | nil => exact h
  | cons d rest ih => exact ih (h.record d)

theorem recorded_recordAll (f : Field) (found : List (String × List String)) :
    ∀ e ∈ found, (f.recordAll found).Recorded e := by
  induction found generalizing f with
  | nil => simp
  | cons d rest ih =>
    refine List.forall_mem_cons.2 ⟨?_, ih (f.record d)⟩
    exact (recorded_record f d).recordAll rest

theorem recordAll_eq_self {found : List (String × List String)} (h : ∀ e ∈ found, f.Recorded e) :
    f.recordAll found = f := by
  induction found with
  | nil => rfl
  | cons d rest ih =>
    obtain ⟨hd, hrest⟩ := List.forall_mem_cons.1 h
    rw [Field.recordAll, List.foldl_cons, hd.record_eq]
    exact ih hrest

/-- The field holds all that the observation has for it. -/
structure Holds (scanner : Scanner) (o : Observation) (f : Field) : Prop where
  typed : f.dataType = f.schema.primaryType.name
  sighting : o.sighting.HeldBy f.schema
  recorded : ∀ text, o.text? = some text → ∀ e ∈ scanner.scan text, f.Recorded e
  tagged : o.text?.isSome → f.isSensitive → f.tag = some sensitiveTag

/-- **A field holds what was just folded into it.** -/
theorem holds_after (scanner : Scanner) (f : Field) (o : Observation) :
    Holds scanner o (f.after scanner o) where
  typed := dataType_after scanner f o
  sighting := by
    rw [schema_after]
    exact Sighting.heldBy_see _ _
  recorded text h e he := by
    obtain ⟨hid, hclasses, hsamples⟩ := recorded_recordAll (absorb o f) (scanner.scan text) e he
    rw [after_of_text? h, tagSensitive_eq]
    exact ⟨hid, hclasses, hsamples⟩
  tagged h hs := by
    obtain ⟨text, h⟩ := Option.isSome_iff_exists.1 h
    rw [tag_after h, if_pos hs]

/-- **What a field holds it holds after any other observation.** -/
theorem Holds.after (h : Holds scanner o f) (other : Observation) :
    Holds scanner o (f.after scanner other) where
  typed := dataType_after scanner f other
  sighting := by
    rw [schema_after]
    exact h.sighting.see _
  recorded text ht e he := by
    obtain ⟨hid, hclasses, hsamples⟩ := h.recorded text ht e he
    have habsorb : (absorb other f).Recorded e := ⟨hid, hclasses, hsamples⟩
    cases hother : other.text? with
    | none =>
      rw [after_of_silent hother]
      exact habsorb
    | some found =>
      obtain ⟨hid, hclasses, hsamples⟩ := habsorb.recordAll (scanner.scan found)
      rw [after_of_text? hother, tagSensitive_eq]
      exact ⟨hid, hclasses, hsamples⟩
  tagged ht hs := by
    cases hother : other.text? with
    | none =>
      rw [after_of_silent hother] at hs ⊢
      exact h.tagged ht hs
    | some found => rw [tag_after hother, if_pos hs]

/-- **What a field holds does not change it.** -/
theorem Holds.after_eq (h : Holds scanner o f) : f.after scanner o = f := by
  have habsorb : absorb o f = f := by
    have hschema : (absorb o f).schema = f.schema := by
      rw [absorb_schema, h.sighting.see_eq]
    have htype : (absorb o f).dataType = f.dataType := by
      rw [absorb_dataType, hschema, h.typed]
    calc absorb o f
        = { f with dataType := (absorb o f).dataType, schema := (absorb o f).schema } := rfl
      _ = f := by rw [hschema, htype]
  cases htext : o.text? with
  | none => rw [after_of_silent htext, habsorb]
  | some text =>
    rw [after_of_text? htext, habsorb, recordAll_eq_self (h.recorded text htext)]
    unfold tagSensitive
    split
    · next hs => rw [← h.tagged (by rw [htext]; rfl) hs]
    · rfl

theorem holds_afterAll (scanner : Scanner) (f : Field) (os : List Observation) :
    ∀ o ∈ os, Holds scanner o (f.afterAll scanner os) := by
  induction os generalizing f with
  | nil => simp
  | cons o os ih =>
    refine List.forall_mem_cons.2 ⟨?_, ih (f.after scanner o)⟩
    exact afterAll_induction (fun g other hg => hg.after other) (holds_after scanner f o) os

theorem afterAll_eq_self {os : List Observation} (h : ∀ o ∈ os, Holds scanner o f) :
    f.afterAll scanner os = f := by
  induction os with
  | nil => rfl
  | cons o os ih =>
    obtain ⟨ho, hos⟩ := List.forall_mem_cons.1 h
    rw [afterAll_cons, ho.after_eq, ih hos]

/-- Observations that come again change nothing at their place. -/
theorem follow_again {endpointId id id' : Uuid} (known : Option Field) (os : List Observation) :
    follow scanner endpointId id' (follow scanner endpointId id known os) os =
      follow scanner endpointId id known os := by
  cases known with
  | some f => exact congrArg some (afterAll_eq_self (holds_afterAll scanner f os))
  | none =>
    cases os with
    | nil => rfl
    | cons o os => exact congrArg some (afterAll_eq_self (holds_afterAll scanner _ (o :: os)))

end Field

/-! ## The pass that comes again -/

variable {scanner : Scanner} {newId newId' : Nat → Uuid} {endpointId : Uuid} {fields : List Field}
  {trace : Trace}

theorem fieldAt_track_again (h : DistinctPlaces fields) (p : Place) :
    fieldAt (track scanner newId' endpointId (track scanner newId endpointId fields trace) trace)
      p = fieldAt (track scanner newId endpointId fields trace) p := by
  obtain ⟨id, hid⟩ := exists_fieldAt_track scanner newId endpointId trace h p
  have hstored : DistinctPlaces (track scanner newId endpointId fields trace) :=
    distinctPlaces_track h
  obtain ⟨id', hid'⟩ := exists_fieldAt_track scanner newId' endpointId trace hstored p
  rw [hid', hid, Field.follow_again]

/-- **A pass that comes again ends where it begins.** -/
theorem fields_tracePass_again (h : DistinctPlaces fields) :
    (tracePass scanner newId' endpointId (track scanner newId endpointId fields trace)
      trace).fields = (tracePass scanner newId endpointId fields trace).fields := by
  refine ordered_tracePass.ext ordered_tracePass fun p => ?_
  rw [← fieldAt_track (distinctPlaces_track h), fieldAt_track_again h, fieldAt_track h]

/-- **A trace that comes again changes nothing**: with its changes stored, the same trace makes no
change and finds no new class, and the classes of the response and the risk are the same as
before. -/
theorem reconcile_again (scanner : Scanner) (newId newId' : Nat → Uuid) (endpointId : Uuid)
    (trace : Trace) (existing : List Field) (h : DistinctPlaces existing) :
    let first := reconcile scanner newId trace endpointId existing
    let second :=
      reconcile scanner newId' trace endpointId (storeFields existing first.changed)
    second.changed = [] ∧ second.newClasses = [] ∧
      second.responseClasses = first.responseClasses ∧ second.risk = first.risk := by
  intro first second
  have hstored : DistinctPlaces (track scanner newId endpointId existing trace) :=
    distinctPlaces_track h
  have hchanged : second.changed = [] := by
    refine List.eq_nil_iff_forall_not_mem.2 fun f hf => ?_
    obtain ⟨hmem, -, hne⟩ := (mem_changed hstored).1 hf
    rw [ordered_tracePass.mem_iff, ← fieldAt_track hstored, fieldAt_track_again h] at hmem
    exact hne hmem
  have hnew : second.newClasses = [] := by
    refine List.eq_nil_iff_forall_not_mem.2 fun x hx => ?_
    obtain ⟨hnow, hbefore⟩ := (mem_newClasses hstored).1 hx
    rw [classesAt, fieldAt_track_again h] at hnow
    exact hbefore hnow
  have hresponse : second.responseClasses = first.responseClasses := by
    -- both are in order, and the marks that they depend on are the same
    refine Increasing.ext increasing_responseClasses_passOver
      increasing_responseClasses_passOver fun c => ?_
    refine (mem_responseClasses hstored).trans (Iff.trans ?_ (mem_responseClasses h).symm)
    simp only [falsePositivesAt_track h]
  have hrisk : second.risk = first.risk := by
    refine (risk_reconcile scanner newId' endpointId trace _).trans ?_
    rw [risk_reconcile]
    exact congrArg (fun entries => Risk.maximum (entries.flatMap fun e => fieldRisks scanner e.2))
      (fields_tracePass_again h)
  exact ⟨hchanged, hnew, hresponse, hrisk⟩

/-- A field that no trace leaves so: its type is not that of its schema, and there is no tag. It has
no room for samples. -/
def crowdedField : Field :=
  { Field.new (.ofNat 4) .responseHeaders "x-mail" (.ofNat 3) with
    dataType := "array", classes := ["TEXT"], samples := [("TEXT", ["1", "2", "3", "4", "5"])] }

/-- A header that was tracked before, and one that is new. -/
theorem reconcile_again_crowded :
    let first := reconcile textScanner .ofNat headerTrace (.ofNat 3) [crowdedField]
    let second := reconcile textScanner (fun n => .ofNat (n + 5)) headerTrace (.ofNat 3)
      (storeFields [crowdedField] first.changed)
    DistinctPlaces [crowdedField] ∧ second.changed = [] ∧ second.newClasses = [] ∧
      second.responseClasses = first.responseClasses ∧ second.risk = first.risk :=
  ⟨by decide, reconcile_again textScanner .ofNat (fun n => .ofNat (n + 5)) (.ofNat 3) headerTrace
    [crowdedField] (by decide)⟩

end TrafficLens
