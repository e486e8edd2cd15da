import TrafficLens.Proofs.Analysis.Pass

/-!
# The parts of a field fit together

A field says the same thing several times over: the classes that are recorded are among those that
were identified and have samples, the type is that of the schema, and there is a tag when there is a
class. `Field.Coherent` puts this down. It is true of a new field and observations keep it, whatever
the scanner and whatever is marked as wrong (`coherent_of_follow`). That no class is without samples
is a promise of the scanner, and kept apart (`Field.Evidenced`).
-/

namespace TrafficLens

open Reconciliation

/-! ## Samples -/

namespace Reconciliation

theorem nodup_addSamples {samples : List String} (h : samples.Nodup) (new : List String) :
    (addSamples samples new).Nodup := by
  induction new generalizing samples with
  | nil => exact h
  | cons s rest ih =>
    rw [addSamples_cons]
    refine ih ?_
    split
    · exact h
    · exact nodup_addNew h s

theorem length_addNew_le (xs : List String) (x : String) :
    (addNew xs x).length ≤ xs.length + 1 := by
  unfold addNew
  split
  · exact Nat.le_succ _
  · exact Nat.le_of_eq List.length_append

theorem length_addSamples_le {samples : List String} (h : samples.length ≤ maxSamples)
    (new : List String) : (addSamples samples new).length ≤ maxSamples := by
  induction new generalizing samples with
  | nil => exact h
  | cons s rest ih =>
    rw [addSamples_cons]
    refine ih ?_
    split
    · exact h
    · have hone := length_addNew_le samples s
      omega

/-- There are samples as soon as there was one to add. -/
theorem addSamples_ne_nil (samples : List String) {new : List String} (h : new ≠ []) :
    addSamples samples new ≠ [] := by
  obtain ⟨s, rest, rfl⟩ := List.exists_cons_of_ne_nil h
  rw [addSamples_cons]
  refine List.ne_nil_of_length_pos (Nat.lt_of_lt_of_le ?_ (prefix_addSamples _ rest).length_le)
  split
  · next hroom => exact Nat.lt_of_lt_of_le (by decide) hroom
  · exact List.length_pos_of_mem (mem_addNew.2 (.inl rfl))

end Reconciliation

/-- The scanner gives a sample of every class that it reports. -/
def Scanner.GivesSamples (scanner : Scanner) : Prop := ∀ text, ∀ e ∈ scanner.scan text, e.2 ≠ []

/-! ## Fields -/

namespace Field

/-- The lists of a field fit together. -/
structure ListsFit (f : Field) : Prop where
  nodup_classes : f.classes.Nodup
  nodup_identified : f.identified.Nodup
  /-- What is recorded was identified. -/
  classes_subset : f.classes ⊆ f.identified
  ordered_samples : Dict.Ordered f.samples
  /-- There are samples of the classes that are recorded, and of no others. -/
  mem_keys (c : String) : c ∈ Dict.keys f.samples ↔ c ∈ f.classes
  nodup_samples : ∀ e ∈ f.samples, e.2.Nodup
  length_samples_le : ∀ e ∈ f.samples, e.2.length ≤ maxSamples

/-- The parts of a field fit together. -/
structure Coherent (f : Field) : Prop extends f.ListsFit where
  typed : f.dataType = f.schema.primaryType.name
  tagged : f.tag = if f.classes = [] then none else some sensitiveTag

/-- There is a sample of each class that is recorded. -/
def Evidenced (f : Field) : Prop := ∀ e ∈ f.samples, e.2 ≠ []

variable {scanner : Scanner} {f : Field} {found : List (String × List String)}

/-- The lists alone count. -/
theorem ListsFit.congr {g : Field} (h : f.ListsFit) (hclasses : g.classes = f.classes)
    (hidentified : g.identified = f.identified) (hsamples : g.samples = f.samples) :
    g.ListsFit where
  nodup_classes := hclasses ▸ h.nodup_classes
  nodup_identified := hidentified ▸ h.nodup_identified
  classes_subset := by
    rw [hclasses, hidentified]
    exact h.classes_subset
  ordered_samples := hsamples ▸ h.ordered_samples
  mem_keys := by
    rw [hclasses, hsamples]
    exact h.mem_keys
  nodup_samples := hsamples ▸ h.nodup_samples
  length_samples_le := hsamples ▸ h.length_samples_le

theorem ListsFit.record (h : f.ListsFit) (e : String × List String) : (f.record e).ListsFit := by
  have hidentified : (addNew f.identified e.1).Nodup := nodup_addNew h.nodup_identified e.1
  have hsubset : (f.record e).classes ⊆ (f.record e).identified := by
    intro c hc
    refine mem_addNew.2 ?_
    rcases (mem_classes_record f e).1 hc with hc | ⟨hc, -⟩
    · exact .inr (h.classes_subset hc)
    · exact .inl hc
  by_cases he : e.1 ∈ f.falsePositives
  · have hclasses : (f.record e).classes = f.classes := if_pos he
    have hsamples : (f.record e).samples = f.samples := samples_record_of_mem he
    exact
      { nodup_classes := hclasses ▸ h.nodup_classes
        nodup_identified := hidentified
        classes_subset := hsubset
        ordered_samples := hsamples ▸ h.ordered_samples
        mem_keys := by
          rw [hsamples, hclasses]
          exact h.mem_keys
        nodup_samples := hsamples ▸ h.nodup_samples
        length_samples_le := hsamples ▸ h.length_samples_le }
  · have hclasses : (f.record e).classes = addNew f.classes e.1 := if_neg he
    have hsamples := samples_record he
    exact
      { nodup_classes := hclasses ▸ nodup_addNew h.nodup_classes e.1
        nodup_identified := hidentified
        classes_subset := hsubset
        ordered_samples := hsamples ▸ Dict.ordered_alter _ _ h.ordered_samples
        mem_keys := by
          intro c
          rw [hsamples, hclasses, Dict.mem_keys_alter, h.mem_keys, mem_addNew]
        nodup_samples := by
          rw [hsamples]
          refine Dict.forall_mem_alter h.nodup_samples fun old hold => nodup_addSamples ?_ _
          cases old with
          | none => exact List.nodup_nil
          | some samples => exact hold samples rfl
        length_samples_le := by
          rw [hsamples]
          refine Dict.forall_mem_alter (P := fun samples : List String =>
            samples.length ≤ maxSamples) h.length_samples_le fun old hold =>
              length_addSamples_le ?_ _
          cases old with
          | none => exact Nat.zero_le _
          | some samples => exact hold samples rfl }

theorem ListsFit.recordAll (h : f.ListsFit) (found : List (String × List String)) :
    (f.recordAll found).ListsFit := by
  induction found generalizing f with
  | nil => exact h
  | cons e rest ih => exact ih (h.record e)

theorem coherent_new (id : Uuid) (sec : Section) (path : String) (endpointId : Uuid) :
    (Field.new id sec path endpointId).Coherent where
  nodup_classes := List.nodup_nil
  nodup_identified := List.nodup_nil
  classes_subset := List.Subset.refl _
  ordered_samples := Dict.ordered_nil
  mem_keys _ := Iff.rfl
  nodup_samples _ he := by cases he
  length_samples_le _ he := by cases he
  typed := rfl
  tagged := rfl

theorem ListsFit.after (h : f.ListsFit) (scanner : Scanner) (o : Observation) :
    (f.after scanner o).ListsFit := by
  have habsorb : (absorb o f).ListsFit := h.congr rfl rfl rfl
  cases ho : o.text? with
  | none =>
    rw [after_of_silent ho]
    exact habsorb
  | some text =>
    rw [after_of_text? ho, tagSensitive_eq]
    exact (habsorb.recordAll (scanner.scan text)).congr rfl rfl rfl

/-- **One observation keeps the parts together**, whatever the scanner finds in it. -/
theorem Coherent.after (h : f.Coherent) (scanner : Scanner) (o : Observation) :
    (f.after scanner o).Coherent := by
  refine ⟨h.toListsFit.after scanner o, dataType_after scanner f o, ?_⟩
  cases ho : o.text? with
  | none =>
    rw [after_of_silent ho]
    exact h.tagged
  | some text =>
    rw [tag_after ho]
    by_cases hsens : (f.after scanner o).isSensitive
    · obtain ⟨c, hc, -⟩ := isSensitive_iff.1 hsens
      rw [if_pos hsens, if_neg (List.ne_nil_of_mem hc)]
    · -- a class that makes no field sensitive was there before, and so was the tag
      have hsame : ∀ c, c ∈ (f.after scanner o).classes ↔ c ∈ f.classes := by
        intro c
        rw [mem_classes_after]
        refine or_iff_left fun hnew => hsens (isSensitive_iff.2 ⟨c, ?_, ?_⟩)
        · exact mem_classes_after.2 (.inr hnew)
        · rw [(keeps_after scanner f o).falsePositives_eq]
          exact hnew.2
      rw [if_neg hsens, h.tagged]
      simp only [List.eq_nil_iff_forall_not_mem, hsame]

/-- **What stands at a place is coherent**, if what stood there was. -/
theorem coherent_of_follow {endpointId id : Uuid} {known : Option Field} {os : List Observation}
    (hknown : ∀ f ∈ known, f.Coherent) :
    ∀ g ∈ follow scanner endpointId id known os, g.Coherent :=
  follow_induction (fun _ _ => coherent_new _ _ _ _) (fun _ o hf => hf.after scanner o) hknown

/-! ## Evidence -/

theorem Evidenced.recordAll (h : f.Evidenced) (hfound : ∀ e ∈ found, e.2 ≠ []) :
    (f.recordAll found).Evidenced := by
  induction found generalizing f with
  | nil => exact h
  | cons e rest ih =>
    obtain ⟨he, hrest⟩ := List.forall_mem_cons.1 hfound
    refine ih ?_ hrest
    unfold Evidenced
    by_cases hmark : e.1 ∈ f.falsePositives
    · rw [samples_record_of_mem hmark]
      exact h
    · rw [samples_record hmark]
      exact Dict.forall_mem_alter (P := fun samples : List String => samples ≠ []) h
        fun old _ => addSamples_ne_nil _ he

/-- One observation keeps the evidence, if the scanner gives samples. -/
theorem Evidenced.after (h : f.Evidenced) (hscan : scanner.GivesSamples) (o : Observation) :
    (f.after scanner o).Evidenced := by
  have habsorb : (absorb o f).Evidenced := h
  cases ho : o.text? with
  | none =>
    rw [after_of_silent ho]
    exact habsorb
  | some text =>
    rw [after_of_text? ho, tagSensitive_eq]
    exact habsorb.recordAll (hscan text)

theorem evidenced_of_follow {endpointId id : Uuid} {known : Option Field} {os : List Observation}
    (hscan : scanner.GivesSamples) (hknown : ∀ f ∈ known, f.Evidenced) :
    ∀ g ∈ follow scanner endpointId id known os, g.Evidenced :=
  follow_induction (fun _ _ _ he => by cases he) (fun _ o hf => hf.after hscan o) hknown

end Field

namespace PatternScanner

/-- What was found in a text after one more pattern. -/
def note (text : String) (found : List (String × List String)) (p : String × Pattern.Node) :
    List (String × List String) :=
  match samplesOf p.2 text with
  | [] => found
  | samples => Dict.insert p.1 samples found

theorem note_samples {text : String} {found : List (String × List String)}
    (h : ∀ e ∈ found, e.2 ≠ []) (p : String × Pattern.Node) :
    ∀ e ∈ note text found p, e.2 ≠ [] := by
  unfold note
  split
  · exact h
  · next hsome =>
    exact Dict.forall_mem_alter (P := fun samples : List String => samples ≠ []) h fun _ _ => hsome

/-- **A scanner made of patterns gives a sample of every class that it reports.** -/
theorem givesSamples (s : PatternScanner) : s.toScanner.GivesSamples := by
  intro text
  change ∀ e ∈ s.scan text, e.2 ≠ []
  unfold scan
  split
  · simp
  · refine List.foldlRecOn (motive := fun found => ∀ e ∈ found, e.2 ≠ []) s.patterns (note text)
      ?_ fun _ h p _ => note_samples h p
    simp

end PatternScanner

end TrafficLens
