import TrafficLens.Proofs.Analysis.Track

/-!
# What a trace detects

`Detects` says what the analysis of a trace finds and records, without a word about how it goes
about it: by places and classes, from the observations of the trace, the reports of the scanner and
the fields that were there before. `reconcile_detects` shows that `reconcile` does just that, for
any scanner and any fields with at most one at each place.
-/

namespace TrafficLens

open Reconciliation

/-! ## The greatest of some risks -/

namespace Risk

theorem rank_max (a b : Risk) : (max a b).rank = Nat.max a.rank b.rank := by
  unfold max
  split
  · next h => exact (Nat.max_eq_right h).symm
  · next h => exact (Nat.max_eq_left (by omega)).symm

theorem maximum_append_singleton (risks : List Risk) (r : Risk) :
    maximum (risks ++ [r]) = max (maximum risks) r := by
  rw [maximum, List.foldl_append]
  rfl

theorem rank_le_maximum {risks : List Risk} {r : Risk} (h : r ∈ risks) :
    r.rank ≤ (maximum risks).rank := by
  induction risks using List.reverseRecOn with
  | nil => cases h
  | append_singleton risks a ih =>
    rw [maximum_append_singleton, rank_max]
    rcases List.mem_append.1 h with h | h
    · exact Nat.le_trans (ih h) (Nat.le_max_left _ _)
    · obtain rfl := List.mem_singleton.1 h
      exact Nat.le_max_right _ _

theorem maximum_eq_none_or_mem (risks : List Risk) :
    maximum risks = .none ∨ maximum risks ∈ risks := by
  induction risks using List.reverseRecOn with
  | nil => exact .inl rfl
  | append_singleton risks a ih =>
    rw [maximum_append_singleton, List.mem_append, List.mem_singleton]
    unfold max
    split
    · exact .inr (.inr rfl)
    · exact ih.imp_right .inl

end Risk

/-! ## The contract -/

/-- A class that is recorded at a field and not marked as wrong there. -/
def Field.Counts (f : Field) (c : String) : Prop := c ∈ f.classes ∧ c ∉ f.falsePositives

/-- The fields that are there after a trace, and what is reported about it, are right. -/
structure Detects (scanner : Scanner) (trace : Trace) (existing after : List Field)
    (outcome : Reconciliation) : Prop where
  /-- There is still one field at each place. -/
  distinctPlaces : DistinctPlaces after
  /-- A class is identified at a place if it was before, or the scanner reports it there. -/
  mem_identified (p : Place) (c : String) : c ∈ identifiedAt after p ↔
    c ∈ identifiedAt existing p ∨ ∃ o ∈ trace.observations, o.place = p ∧ scanner.Reports o c
  /-- A class is recorded at a place if it was before, or it is reported there and not marked as
  wrong. -/
  mem_classes (p : Place) (c : String) : c ∈ classesAt after p ↔
    c ∈ classesAt existing p ∨
      (∃ o ∈ trace.observations, o.place = p ∧ scanner.Reports o c) ∧
        c ∉ falsePositivesAt existing p
  /-- The new classes are listed in order, each of them once. -/
  increasing_newClasses : Increasing outcome.newClasses
  /-- They are the classes that are recorded now and were not before. -/
  mem_newClasses (x : FoundClass) : x ∈ outcome.newClasses ↔
    x.className ∈ classesAt after x.place ∧ x.className ∉ classesAt existing x.place
  /-- The classes of the response are listed in order, each of them once. -/
  increasing_responseClasses : Increasing outcome.responseClasses
  /-- They are the ones that are reported in the response and not marked as wrong there. -/
  mem_responseClasses (c : String) : c ∈ outcome.responseClasses ↔
    ∃ o ∈ trace.observations, o.sec.isResponse ∧ scanner.Reports o c ∧
      c ∉ falsePositivesAt existing o.place
  /-- No class that counts at a field is of greater risk than the outcome. -/
  rank_le_risk : ∀ f ∈ after, ∀ c, f.Counts c → (scanner.risk c).rank ≤ outcome.risk.rank
  /-- The risk is none, or that of a class that counts at a field. -/
  risk_attained : outcome.risk = .none ∨
    ∃ f ∈ after, ∃ c, f.Counts c ∧ scanner.risk c = outcome.risk
  /-- A field that was there keeps its identifier and its marks. -/
  keeps : ∀ f ∈ existing, ∃ g ∈ after, g.place = f.place ∧ g.id = f.id ∧
    g.falsePositives = f.falsePositives

/-! ## The parts -/

variable {scanner : Scanner} {newId : Nat → Uuid} {endpointId : Uuid} {fields : List Field}
  {trace : Trace} {p : Place} {f : Field} {c : String}

theorem exists_reports_observationsAt {os : List Observation} :
    (∃ o ∈ observationsAt os p, scanner.Reports o c) ↔
      ∃ o ∈ os, o.place = p ∧ scanner.Reports o c := by
  simp [observationsAt, and_assoc]

theorem mem_identifiedAt_track (h : DistinctPlaces fields) :
    c ∈ identifiedAt (track scanner newId endpointId fields trace) p ↔
      c ∈ identifiedAt fields p ∨
        ∃ o ∈ trace.observations, o.place = p ∧ scanner.Reports o c := by
  obtain ⟨id, hid⟩ := exists_fieldAt_track scanner newId endpointId trace h p
  rw [identifiedAt, hid, Field.mem_identified_follow, exists_reports_observationsAt]
  rfl

theorem mem_classesAt_track (h : DistinctPlaces fields) :
    c ∈ classesAt (track scanner newId endpointId fields trace) p ↔
      c ∈ classesAt fields p ∨
        (∃ o ∈ trace.observations, o.place = p ∧ scanner.Reports o c) ∧
          c ∉ falsePositivesAt fields p := by
  obtain ⟨id, hid⟩ := exists_fieldAt_track scanner newId endpointId trace h p
  rw [classesAt, hid, Field.mem_classes_follow, exists_reports_observationsAt]
  rfl

theorem falsePositivesAt_track (h : DistinctPlaces fields) (p : Place) :
    falsePositivesAt (track scanner newId endpointId fields trace) p =
      falsePositivesAt fields p := by
  obtain ⟨id, hid⟩ := exists_fieldAt_track scanner newId endpointId trace h p
  rw [falsePositivesAt, hid]
  exact Field.falsePositives_follow _

theorem mem_newClasses (h : DistinctPlaces fields) {x : FoundClass} :
    x ∈ (reconcile scanner newId trace endpointId fields).newClasses ↔
      x.className ∈ classesAt (track scanner newId endpointId fields trace) x.place ∧
        x.className ∉ classesAt fields x.place := by
  change x ∈ sortDistinct (tracePass scanner newId endpointId fields trace).newClasses ↔ _
  rw [mem_sortDistinct, tracePass, mem_newClasses_passOver (ordered_byPlace fields), classesAt,
    classesAt, fieldAt_track h, ← seek?_byPlace h]
  rfl

/-- The classes that a trace reports as new are those that it makes recorded, by places. -/
theorem mem_entries_newClasses (h : DistinctPlaces fields) :
    (p, c) ∈ (reconcile scanner newId trace endpointId fields).newClasses.map FoundClass.entry ↔
      c ∈ classesAt (track scanner newId endpointId fields trace) p ∧ c ∉ classesAt fields p := by
  rw [List.mem_map]
  constructor
  · rintro ⟨x, hx, hentry⟩
    obtain ⟨rfl, rfl⟩ := Prod.mk.inj hentry
    exact (mem_newClasses h).1 hx
  · rintro ⟨hnow, hbefore⟩
    -- the class is new at the place, so an observation of the trace is there
    obtain ⟨⟨o, -, rfl, -⟩, -⟩ := ((mem_classesAt_track h).1 hnow).resolve_left hbefore
    exact ⟨⟨o.sec, o.path, c⟩, (mem_newClasses h).2 ⟨hnow, hbefore⟩, rfl⟩

theorem mem_responseClasses (h : DistinctPlaces fields) :
    c ∈ (reconcile scanner newId trace endpointId fields).responseClasses ↔
      ∃ o ∈ trace.observations, o.sec.isResponse ∧ scanner.Reports o c ∧
        c ∉ falsePositivesAt fields o.place := by
  refine (mem_responseClasses_passOver (ordered_byPlace fields)).trans ?_
  simp only [seek?_byPlace h]
  rfl

theorem mem_track (h : DistinctPlaces fields) :
    f ∈ track scanner newId endpointId fields trace ↔
      (f.place, f) ∈ (tracePass scanner newId endpointId fields trace).fields := by
  rw [(distinctPlaces_track h).mem_iff, fieldAt_track h, ordered_tracePass.mem_iff]

theorem risk_reconcile (scanner : Scanner) (newId : Nat → Uuid) (endpointId : Uuid)
    (trace : Trace) (fields : List Field) :
    (reconcile scanner newId trace endpointId fields).risk =
      Risk.maximum ((tracePass scanner newId endpointId fields trace).fields.flatMap
        fun e => fieldRisks scanner e.2) := rfl

/-- The risks that go into the outcome are those of the classes that count at a stored field. -/
theorem mem_risks (h : DistinctPlaces fields) {r : Risk} :
    r ∈ (tracePass scanner newId endpointId fields trace).fields.flatMap
        (fun e => fieldRisks scanner e.2) ↔
      ∃ f ∈ track scanner newId endpointId fields trace, ∃ c, f.Counts c ∧ scanner.risk c = r := by
  simp only [fieldRisks, List.mem_flatMap, List.mem_map, List.mem_filter, Bool.not_eq_true',
    List.contains_eq_mem, decide_eq_false_iff_not, Field.Counts]
  constructor
  · rintro ⟨⟨q, f⟩, hmem, hrisk⟩
    obtain rfl : f.place = q := place_of_mem_tracePass hmem
    exact ⟨f, (mem_track h).2 hmem, hrisk⟩
  · rintro ⟨f, hmem, hrisk⟩
    exact ⟨(f.place, f), (mem_track h).1 hmem, hrisk⟩

theorem exists_mem_track (h : DistinctPlaces fields) (hf : f ∈ fields) :
    ∃ g ∈ track scanner newId endpointId fields trace, f.Keeps g := by
  obtain ⟨id, hid⟩ := exists_fieldAt_track scanner newId endpointId trace h f.place
  rw [h.mem_iff.1 hf] at hid
  exact ⟨_, mem_of_fieldAt hid, Field.keeps_afterAll scanner f _⟩

/-! ## The main statement -/

/-- **Detection is exact**: whatever the scanner, the trace and the fields that are there, what is
stored after the trace and what is reported about it is right. -/
theorem reconcile_detects (scanner : Scanner) (newId : Nat → Uuid) (endpointId : Uuid)
    (trace : Trace) (existing : List Field) (h : DistinctPlaces existing) :
    Detects scanner trace existing
      (storeFields existing (reconcile scanner newId trace endpointId existing).changed)
      (reconcile scanner newId trace endpointId existing) where
  distinctPlaces := distinctPlaces_track h
  mem_identified _ _ := mem_identifiedAt_track h
  mem_classes _ _ := mem_classesAt_track h
  increasing_newClasses := increasing_sortDistinct _
  mem_newClasses _ := mem_newClasses h
  increasing_responseClasses := increasing_responseClasses_passOver
  mem_responseClasses _ := mem_responseClasses h
  rank_le_risk f hf c hc := Risk.rank_le_maximum ((mem_risks h).2 ⟨f, hf, c, hc, rfl⟩)
  risk_attained := (Risk.maximum_eq_none_or_mem _).imp_right (mem_risks h).1
  keeps f hf := by
    obtain ⟨g, hg, hkeeps⟩ := exists_mem_track h hf
    exact ⟨g, hg, hkeeps.place_eq, hkeeps.id_eq, hkeeps.falsePositives_eq⟩

/-- A scanner that finds one class, of high risk, in every text. -/
def textScanner : Scanner := ⟨fun text => [("TEXT", [text])], fun _ => .high⟩

/-- A response with three headers, two of them of one name. -/
def headerTrace : Trace :=
  { Trace.bare (.ofNat 1) ⟨0, 0⟩ "api.local" "GET" "/users" 200 with
    responseHeaders := [⟨"x-mail", "a@b.io"⟩, ⟨"X-Mail", "c@d.io"⟩, ⟨"x-mark", "e@f.io"⟩] }

/-- A field at which the class is marked as wrong. -/
def markedField : Field :=
  { Field.new (.ofNat 2) .responseHeaders "x-mark" (.ofNat 3) with falsePositives := ["TEXT"] }

/-- A header that is marked, and one that is seen twice. -/
theorem reconcile_detects_marked :
    DistinctPlaces [markedField] ∧
      Detects textScanner headerTrace [markedField]
        (storeFields [markedField]
          (reconcile textScanner .ofNat headerTrace (.ofNat 3) [markedField]).changed)
        (reconcile textScanner .ofNat headerTrace (.ofNat 3) [markedField]) :=
  ⟨by decide, reconcile_detects textScanner .ofNat (.ofNat 3) headerTrace [markedField] (by decide)⟩

end TrafficLens
