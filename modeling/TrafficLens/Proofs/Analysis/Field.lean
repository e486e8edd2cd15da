import TrafficLens.Analysis.Reconciliation
import TrafficLens.Proofs.Schema.Routing

/-!
# One field under observation

A pass over a trace touches many fields, but what it makes of one of them depends on the
observations at its place only, in their order. `Field.after` is what one observation makes of a
field, and `Field.afterAll` what a list of them does. This module says it part by part.

* The schema sees the values (`schema_afterAll`), and the type of the field is that of the schema.
* A class is identified after the observations if it was before, or the scanner reports it on one of
  them (`mem_identified_afterAll`); it is recorded if it was before, or it is reported and not
  marked as wrong (`mem_classes_afterAll`).
* What the field is and what a person has marked stays (`Field.Keeps`).
-/

namespace TrafficLens

open Reconciliation

/-! ## What the scanner reports -/

/-- The text of a value in which sensitive data is looked for: a string that is not empty, or the
text of a number. -/
inductive Json.HasText : Json → String → Prop where
  | string {s : String} (h : s ≠ "") : Json.HasText (.string s) s
  | number (n : JsonNumber) : Json.HasText (.number n) n.toText

theorem Observation.text?_eq_some_iff {o : Observation} {text : String} :
    o.text? = some text ↔ o.value.HasText text := by
  obtain ⟨sec, path, value, malformed⟩ := o
  change _ ↔ value.HasText text
  constructor
  · intro h
    cases value with
    | string s =>
      obtain ⟨hs, rfl⟩ : s ≠ "" ∧ s = text := by simpa [text?] using h
      exact .string hs
    | number n =>
      obtain rfl : n.toText = text := by simpa [text?] using h
      exact .number n
    | null | bool | array | object => simp [text?] at h
  · intro h
    cases h with
    | string hs => simp [text?, hs]
    | number n => rfl

/-- The scanner reports a class on the value of an observation. -/
def Scanner.Reports (scanner : Scanner) (o : Observation) (className : String) : Prop :=
  ∃ text samples, o.value.HasText text ∧ (className, samples) ∈ scanner.scan text

theorem Scanner.reports_of_text? {scanner : Scanner} {o : Observation} {text c : String}
    (h : o.text? = some text) :
    scanner.Reports o c ↔ ∃ samples, (c, samples) ∈ scanner.scan text := by
  constructor
  · rintro ⟨text', samples, ht, hc⟩
    obtain rfl := Option.some.inj (h.symm.trans (Observation.text?_eq_some_iff.2 ht))
    exact ⟨samples, hc⟩
  · rintro ⟨samples, hc⟩
    exact ⟨text, samples, Observation.text?_eq_some_iff.1 h, hc⟩

theorem Scanner.not_reports_of_text? {scanner : Scanner} {o : Observation} {c : String}
    (h : o.text? = none) : ¬ scanner.Reports o c := by
  rintro ⟨text, samples, ht, -⟩
  rw [Observation.text?_eq_some_iff.2 ht] at h
  cases h

/-- What an observation is to the schema at its place. -/
def Observation.sighting (o : Observation) : Sighting :=
  if o.malformed then .shapeless else .value o.value

/-! ## Lists of classes and of samples -/

namespace Reconciliation

@[simp] theorem mem_addNew {xs : List String} {x y : String} :
    x ∈ addNew xs y ↔ x = y ∨ x ∈ xs := by
  unfold addNew
  split
  · next h =>
    constructor
    · exact Or.inr
    · rintro (rfl | hx)
      · simpa using h
      · exact hx
  · simp [or_comm]

theorem nodup_addNew {xs : List String} (h : xs.Nodup) (x : String) : (addNew xs x).Nodup := by
  unfold addNew
  split
  · exact h
  · next hx =>
    refine List.nodup_append.2 ⟨h, by simp, fun y hy z hz hyz => hx ?_⟩
    obtain rfl := List.mem_singleton.1 hz
    simpa [← hyz] using hy

theorem addNew_eq_self {xs : List String} {x : String} (h : x ∈ xs) : addNew xs x = xs := by
  simp [addNew, h]

theorem prefix_addNew (xs : List String) (x : String) : xs <+: addNew xs x := by
  unfold addNew
  split
  · exact List.prefix_rfl
  · exact List.prefix_append xs [x]

theorem addSamples_cons (samples : List String) (s : String) (rest : List String) :
    addSamples samples (s :: rest) =
      addSamples (if maxSamples ≤ samples.length then samples else addNew samples s) rest := rfl

/-- The samples that are there stay, in front. -/
theorem prefix_addSamples (samples new : List String) : samples <+: addSamples samples new := by
  induction new generalizing samples with
  | nil => exact List.prefix_rfl
  | cons s rest ih =>
    rw [addSamples_cons]
    refine List.IsPrefix.trans ?_ (ih _)
    split
    · exact List.prefix_rfl
    · exact prefix_addNew samples s

end Reconciliation

/-! ## One observation -/

namespace Field

/-- The field after a class was found in a value. -/
def record (f : Field) (found : String × List String) : Field :=
  { f with
    identified := addNew f.identified found.1
    classes := if found.1 ∈ f.falsePositives then f.classes else addNew f.classes found.1
    samples :=
      if found.1 ∈ f.falsePositives then f.samples
      else Dict.alter found.1 (fun old => addSamples (old.getD []) found.2) f.samples }

/-- The field after all classes that were found in a value. -/
def recordAll (f : Field) (found : List (String × List String)) : Field := found.foldl record f

/-- The field after one more observation at its place. -/
def after (scanner : Scanner) (f : Field) (o : Observation) : Field :=
  match o.text? with
  | none => absorb o f
  | some text => tagSensitive ((absorb o f).recordAll (scanner.scan text))

/-- The field after some more observations at its place. -/
def afterAll (scanner : Scanner) (f : Field) (os : List Observation) : Field :=
  os.foldl (after scanner) f

/-- The field is another one after something was recorded: the same field, with the same marks. -/
structure Keeps (f g : Field) : Prop where
  id_eq : g.id = f.id
  sectionName_eq : g.sectionName = f.sectionName
  path_eq : g.path = f.path
  endpointId_eq : g.endpointId = f.endpointId
  falsePositives_eq : g.falsePositives = f.falsePositives

namespace Keeps

variable {f g h : Field}

theorem refl (f : Field) : f.Keeps f := ⟨rfl, rfl, rfl, rfl, rfl⟩

theorem trans (hfg : f.Keeps g) (hgh : g.Keeps h) : f.Keeps h :=
  ⟨hgh.id_eq.trans hfg.id_eq, hgh.sectionName_eq.trans hfg.sectionName_eq,
    hgh.path_eq.trans hfg.path_eq, hgh.endpointId_eq.trans hfg.endpointId_eq,
    hgh.falsePositives_eq.trans hfg.falsePositives_eq⟩

theorem place_eq (h : f.Keeps g) : g.place = f.place := by
  unfold place
  rw [h.sectionName_eq, h.path_eq]

end Keeps

variable {scanner : Scanner} {f : Field} {o : Observation} {c : String}

theorem keeps_recordAll (f : Field) (found : List (String × List String)) :
    f.Keeps (f.recordAll found) := by
  induction found generalizing f with
  | nil => exact .refl f
  | cons e rest ih =>
    have hstep : f.Keeps (f.record e) := ⟨rfl, rfl, rfl, rfl, rfl⟩
    exact hstep.trans (ih (f.record e))

/-- Recording leaves the schema, the type and the tag alone. -/
theorem recordAll_parts (f : Field) (found : List (String × List String)) :
    (f.recordAll found).schema = f.schema ∧ (f.recordAll found).dataType = f.dataType ∧
      (f.recordAll found).tag = f.tag := by
  induction found generalizing f with
  | nil => exact ⟨rfl, rfl, rfl⟩
  | cons e rest ih => exact ih (f.record e)

theorem mem_identified_recordAll (f : Field) (found : List (String × List String)) :
    c ∈ (f.recordAll found).identified ↔ c ∈ f.identified ∨ ∃ samples, (c, samples) ∈ found := by
  induction found generalizing f with
  | nil => simp [recordAll]
  | cons e rest ih =>
    obtain ⟨k, samples⟩ := e
    refine (ih (f.record (k, samples))).trans ?_
    simp only [record, mem_addNew, List.mem_cons, Prod.mk.injEq, exists_or, exists_and_left,
      exists_eq, and_true, or_assoc]
    exact or_left_comm

theorem samples_record_of_mem {found : String × List String} (h : found.1 ∈ f.falsePositives) :
    (f.record found).samples = f.samples :=
  if_pos h

theorem samples_record {found : String × List String} (h : found.1 ∉ f.falsePositives) :
    (f.record found).samples =
      Dict.alter found.1 (fun old => addSamples (old.getD []) found.2) f.samples :=
  if_neg h

theorem mem_classes_record (f : Field) (found : String × List String) :
    c ∈ (f.record found).classes ↔ c ∈ f.classes ∨ c = found.1 ∧ c ∉ f.falsePositives := by
  by_cases hk : found.1 ∈ f.falsePositives
  · simp only [record, if_pos hk]
    constructor
    · exact Or.inl
    · rintro (h | ⟨rfl, h⟩)
      · exact h
      · exact absurd hk h
  · simp only [record, if_neg hk, mem_addNew]
    constructor
    · rintro (rfl | h)
      · exact Or.inr ⟨rfl, hk⟩
      · exact Or.inl h
    · rintro (h | ⟨h, -⟩)
      · exact Or.inr h
      · exact Or.inl h

theorem mem_classes_recordAll (f : Field) (found : List (String × List String)) :
    c ∈ (f.recordAll found).classes ↔
      c ∈ f.classes ∨ (∃ samples, (c, samples) ∈ found) ∧ c ∉ f.falsePositives := by
  induction found generalizing f with
  | nil => simp [recordAll]
  | cons e rest ih =>
    refine (ih (f.record e)).trans ?_
    obtain ⟨k, samples⟩ := e
    rw [mem_classes_record]
    simp only [record, List.mem_cons, Prod.mk.injEq, exists_or, exists_and_left, exists_eq,
      and_true, or_and_right, or_assoc]

theorem isSensitive_iff {f : Field} : f.isSensitive ↔ ∃ c ∈ f.classes, c ∉ f.falsePositives := by
  simp [isSensitive]

theorem absorb_schema (o : Observation) (f : Field) :
    (absorb o f).schema = f.schema.see o.sighting := by
  unfold absorb Observation.sighting
  split <;> rfl

theorem absorb_dataType (o : Observation) (f : Field) :
    (absorb o f).dataType = (absorb o f).schema.primaryType.name := rfl

theorem keeps_tagSensitive (f : Field) : f.Keeps (tagSensitive f) := by
  unfold tagSensitive
  split <;> exact ⟨rfl, rfl, rfl, rfl, rfl⟩

/-- Tagging changes the tag only. -/
theorem tagSensitive_eq (f : Field) :
    tagSensitive f = { f with tag := if f.isSensitive then some sensitiveTag else f.tag } := by
  unfold tagSensitive
  split <;> rfl

theorem after_of_silent (h : o.text? = none) : f.after scanner o = absorb o f := by
  rw [after, h]

theorem after_of_text? {text : String} (h : o.text? = some text) :
    f.after scanner o = tagSensitive ((absorb o f).recordAll (scanner.scan text)) := by
  rw [after, h]

theorem keeps_after (scanner : Scanner) (f : Field) (o : Observation) :
    f.Keeps (f.after scanner o) := by
  have habsorb : f.Keeps (absorb o f) := ⟨rfl, rfl, rfl, rfl, rfl⟩
  cases h : o.text? with
  | none =>
    rw [after_of_silent h]
    exact habsorb
  | some text =>
    rw [after_of_text? h]
    exact (habsorb.trans (keeps_recordAll _ _)).trans (keeps_tagSensitive _)

theorem schema_after (scanner : Scanner) (f : Field) (o : Observation) :
    (f.after scanner o).schema = f.schema.see o.sighting := by
  cases h : o.text? with
  | none => rw [after_of_silent h, absorb_schema]
  | some text =>
    rw [after_of_text? h, tagSensitive_eq]
    exact (recordAll_parts _ _).1.trans (absorb_schema o f)

/-- The type of a field is the one that its schema reports. -/
theorem dataType_after (scanner : Scanner) (f : Field) (o : Observation) :
    (f.after scanner o).dataType = (f.after scanner o).schema.primaryType.name := by
  cases h : o.text? with
  | none => rw [after_of_silent h, absorb_dataType]
  | some text =>
    obtain ⟨hschema, htype, -⟩ := recordAll_parts (absorb o f) (scanner.scan text)
    rw [after_of_text? h, tagSensitive_eq]
    change (recordAll _ _).dataType = (recordAll _ _).schema.primaryType.name
    rw [hschema, htype, absorb_dataType]

/-- A value with a text has the field tagged, if it is sensitive then. -/
theorem tag_after {text : String} (h : o.text? = some text) :
    (f.after scanner o).tag =
      if (f.after scanner o).isSensitive then some sensitiveTag else f.tag := by
  have htag : ((absorb o f).recordAll (scanner.scan text)).tag = f.tag := (recordAll_parts _ _).2.2
  rw [after_of_text? h, tagSensitive_eq, ← htag]
  rfl

theorem mem_identified_after :
    c ∈ (f.after scanner o).identified ↔ c ∈ f.identified ∨ scanner.Reports o c := by
  cases h : o.text? with
  | none =>
    rw [after_of_silent h, or_iff_left (Scanner.not_reports_of_text? h)]
    rfl
  | some text =>
    rw [after_of_text? h, tagSensitive_eq, Scanner.reports_of_text? h]
    exact mem_identified_recordAll _ _

theorem mem_classes_after :
    c ∈ (f.after scanner o).classes ↔
      c ∈ f.classes ∨ scanner.Reports o c ∧ c ∉ f.falsePositives := by
  cases h : o.text? with
  | none =>
    rw [after_of_silent h, or_iff_left fun hr => Scanner.not_reports_of_text? h hr.1]
    rfl
  | some text =>
    rw [after_of_text? h, tagSensitive_eq, Scanner.reports_of_text? h]
    exact mem_classes_recordAll _ _

/-! ## Many observations -/

@[simp] theorem afterAll_nil (scanner : Scanner) (f : Field) : f.afterAll scanner [] = f := rfl

@[simp] theorem afterAll_cons (scanner : Scanner) (f : Field) (o : Observation)
    (os : List Observation) :
    f.afterAll scanner (o :: os) = (f.after scanner o).afterAll scanner os := rfl

/-- What one observation keeps, many keep. -/
theorem afterAll_induction {P : Field → Prop} (hafter : ∀ f o, P f → P (f.after scanner o))
    (h : P f) (os : List Observation) : P (f.afterAll scanner os) :=
  List.foldlRecOn os (after scanner) h fun g hg o _ => hafter g o hg

theorem keeps_afterAll (scanner : Scanner) (f : Field) (os : List Observation) :
    f.Keeps (f.afterAll scanner os) :=
  afterAll_induction (fun g o h => h.trans (keeps_after scanner g o)) (.refl f) os

/-- The schema sees the values of the observations in their order. -/
theorem schema_afterAll (scanner : Scanner) (f : Field) (os : List Observation) :
    (f.afterAll scanner os).schema = f.schema.seeAll (os.map Observation.sighting) := by
  induction os generalizing f with
  | nil => rfl
  | cons o os ih => rw [afterAll_cons, ih, schema_after, List.map_cons, Schema.seeAll,
      Schema.seeAll, List.foldl_cons]

/-- **A class is identified** if it was before, or the scanner reports it. -/
theorem mem_identified_afterAll (os : List Observation) :
    c ∈ (f.afterAll scanner os).identified ↔
      c ∈ f.identified ∨ ∃ o ∈ os, scanner.Reports o c := by
  induction os generalizing f with
  | nil => simp
  | cons o os ih =>
    rw [afterAll_cons, ih, mem_identified_after, or_assoc]
    simp only [List.mem_cons, exists_eq_or_imp]

/-- **A class is recorded** if it was before, or the scanner reports it and it is not marked as
wrong. -/
theorem mem_classes_afterAll (os : List Observation) :
    c ∈ (f.afterAll scanner os).classes ↔
      c ∈ f.classes ∨ (∃ o ∈ os, scanner.Reports o c) ∧ c ∉ f.falsePositives := by
  induction os generalizing f with
  | nil => simp
  | cons o os ih =>
    rw [afterAll_cons, ih, mem_classes_after, (keeps_after scanner f o).falsePositives_eq, or_assoc,
      ← or_and_right]
    simp only [List.mem_cons, exists_eq_or_imp]

end Field

end TrafficLens
