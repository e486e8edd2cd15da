import Mathlib.Data.List.Nodup
import TrafficLens.Proofs.Analysis.Order

/-!
# The fields of an endpoint over time

Traces come in and are analyzed, and now and then a person marks a class as wrong at a place. A
`History` holds the fields of the endpoint and the classes that were reported as new so far.
Whatever happens and in which order, with a scanner made of patterns the history is consistent at
every moment (`History.consistent_run`): the parts of each field fit together, and each class that
is recorded at a place was reported as new once. A class that is marked at a field before it is
recorded there is never recorded there (`History.Spared`, `History.spared_dismiss`).
-/

namespace TrafficLens

open Reconciliation

/-! ## What happens -/

/-- What happens to the fields of an endpoint. -/
inductive TrackEvent where
  /-- A trace is analyzed, and the fields that it changes are stored. -/
  | visit (v : Visit)
  /-- A person marks a class as wrong at a place. -/
  | dismiss (p : Place) (className : String)

/-- The field with one more class that is marked as wrong. -/
def Field.dismiss (f : Field) (className : String) : Field :=
  { f with falsePositives := f.falsePositives ++ [className] }

/-- Mark a class as wrong at a place. -/
def dismissAt (fields : List Field) (p : Place) (className : String) : List Field :=
  fields.map fun f => if f.place = p then f.dismiss className else f

/-- The fields of an endpoint, with the classes that were reported as new so far. -/
structure History where
  fields : List Field := []
  announced : List FoundClass := []

namespace History

/-- The history after one more event. -/
def step (scanner : Scanner) (endpointId : Uuid) (h : History) : TrackEvent → History
  | .visit v =>
    let outcome := reconcile scanner v.newId v.trace endpointId h.fields
    { fields := storeFields h.fields outcome.changed
      announced := h.announced ++ outcome.newClasses }
  | .dismiss p className => { h with fields := dismissAt h.fields p className }

/-- The history after some events, from no fields. -/
def run (scanner : Scanner) (endpointId : Uuid) (events : List TrackEvent) : History :=
  events.foldl (step scanner endpointId) {}

/-- The parts of a history fit together. -/
structure Consistent (h : History) : Prop where
  distinctPlaces : DistinctPlaces h.fields
  coherent : ∀ f ∈ h.fields, f.Coherent
  evidenced : ∀ f ∈ h.fields, f.Evidenced
  /-- No class is reported as new at a place for a second time. -/
  nodup_announced : (h.announced.map FoundClass.entry).Nodup
  /-- The classes that were reported as new at a place are those that are recorded there. -/
  mem_announced (p : Place) (c : String) :
    (p, c) ∈ h.announced.map FoundClass.entry ↔ c ∈ classesAt h.fields p

end History

/-! ## Marking a class -/

section Dismissing

variable (fields : List Field) (p q : Place) (className : String)

theorem map_place_dismissAt :
    (dismissAt fields p className).map Field.place = fields.map Field.place := by
  unfold dismissAt
  rw [List.map_map]
  refine List.map_congr_left fun f _ => ?_
  rw [Function.comp_apply]
  split <;> rfl

theorem fieldAt_dismissAt :
    fieldAt (dismissAt fields p className) q =
      (fieldAt fields q).map fun f => if f.place = p then f.dismiss className else f := by
  induction fields with
  | nil => rfl
  | cons g rest ih =>
    have hplace : (if g.place = p then g.dismiss className else g).place = g.place := by
      split <;> rfl
    rw [dismissAt, List.map_cons, fieldAt_cons, fieldAt_cons, hplace]
    split
    · rfl
    · exact ih

theorem classesAt_dismissAt :
    classesAt (dismissAt fields p className) q = classesAt fields q := by
  unfold classesAt
  rw [fieldAt_dismissAt]
  cases fieldAt fields q with
  | none => rfl
  | some f =>
    simp only [Option.map_some, Option.elim_some]
    split <;> rfl

/-- Marks stay when more are added. -/
theorem mem_falsePositivesAt_dismissAt {c : String} (h : c ∈ falsePositivesAt fields q) :
    c ∈ falsePositivesAt (dismissAt fields p className) q := by
  unfold falsePositivesAt at h ⊢
  rw [fieldAt_dismissAt]
  cases hf : fieldAt fields q with
  | none =>
    rw [hf] at h
    exact h
  | some f =>
    rw [hf] at h
    simp only [Option.map_some, Option.elim_some] at h ⊢
    split
    · exact List.mem_append_left _ h
    · exact h

end Dismissing

/-! ## One event -/

namespace History

variable {scanner : Scanner} {endpointId : Uuid} {h : History}

/-- The analysis of a trace keeps a history consistent. -/
theorem Consistent.visit (hc : h.Consistent) (hscan : scanner.GivesSamples) (v : Visit) :
    (h.step scanner endpointId (.visit v)).Consistent where
  distinctPlaces := distinctPlaces_track hc.distinctPlaces
  coherent := forall_mem_track hc.distinctPlaces fun _ _ =>
    Field.coherent_of_follow fun f hf => hc.coherent f (mem_of_fieldAt hf)
  evidenced := forall_mem_track hc.distinctPlaces fun _ _ =>
    Field.evidenced_of_follow hscan fun f hf => hc.evidenced f (mem_of_fieldAt hf)
  nodup_announced := by
    have hnew : ((reconcile scanner v.newId v.trace endpointId h.fields).newClasses.map
        FoundClass.entry).Nodup :=
      List.Nodup.map FoundClass.entry_injective (increasing_sortDistinct _).nodup
    unfold History.step
    rw [List.map_append]
    refine List.nodup_append.2 ⟨hc.nodup_announced, hnew, ?_⟩
    -- what was announced is recorded already, so it is not new
    rintro ⟨p, c⟩ hold _ hnow rfl
    have hrecorded : c ∈ classesAt h.fields p := (hc.mem_announced p c).1 hold
    exact ((mem_entries_newClasses hc.distinctPlaces).1 hnow).2 hrecorded
  mem_announced p c := by
    have hkept : c ∈ classesAt h.fields p →
        c ∈ classesAt (track scanner v.newId endpointId h.fields v.trace) p :=
      fun hbefore => (mem_classesAt_track hc.distinctPlaces).2 (.inl hbefore)
    unfold History.step
    rw [List.map_append, List.mem_append, hc.mem_announced,
      mem_entries_newClasses hc.distinctPlaces]
    change _ ↔ c ∈ classesAt (track scanner v.newId endpointId h.fields v.trace) p
    tauto

/-- A mark keeps a history consistent. -/
theorem Consistent.dismiss (hc : h.Consistent) (p : Place) (className : String) :
    (h.step scanner endpointId (.dismiss p className)).Consistent where
  distinctPlaces := by
    unfold DistinctPlaces History.step
    rw [map_place_dismissAt]
    exact hc.distinctPlaces
  coherent := by
    refine List.forall_mem_map.2 fun f hf => ?_
    have hcoherent : f.Coherent := hc.coherent f hf
    split
    · exact ⟨hcoherent.toListsFit.congr rfl rfl rfl, hcoherent.typed, hcoherent.tagged⟩
    · exact hcoherent
  evidenced := by
    refine List.forall_mem_map.2 fun f hf => ?_
    have hevidenced : f.Evidenced := hc.evidenced f hf
    split
    · exact hevidenced
    · exact hevidenced
  nodup_announced := hc.nodup_announced
  mem_announced q c := by
    unfold History.step
    rw [classesAt_dismissAt]
    exact hc.mem_announced q c

/-- **One event keeps a history consistent**, if the scanner gives samples of what it reports. -/
theorem Consistent.step (hc : h.Consistent) (hscan : scanner.GivesSamples) (event : TrackEvent) :
    (h.step scanner endpointId event).Consistent := by
  cases event with
  | visit v => exact hc.visit hscan v
  | dismiss p className => exact hc.dismiss p className

/-- The class is marked as wrong at the place, and it is not recorded there. -/
def Spared (h : History) (p : Place) (c : String) : Prop :=
  c ∈ falsePositivesAt h.fields p ∧ c ∉ classesAt h.fields p

/-- A class that is marked at a field before it is recorded there is spared. -/
theorem spared_dismiss {p : Place} {c : String} (hfield : fieldAt h.fields p ≠ none)
    (hclass : c ∉ classesAt h.fields p) :
    (h.step scanner endpointId (.dismiss p c)).Spared p c := by
  unfold Spared History.step
  rw [classesAt_dismissAt]
  refine ⟨?_, hclass⟩
  obtain ⟨f, hf⟩ := Option.ne_none_iff_exists'.1 hfield
  rw [falsePositivesAt, fieldAt_dismissAt, hf, Option.map_some, Option.elim_some,
    if_pos (place_of_fieldAt hf)]
  exact List.mem_append_right _ (List.mem_singleton.2 rfl)

/-- What is spared is spared after any other event. -/
theorem Spared.step {p : Place} {c : String} (hs : h.Spared p c) (hd : DistinctPlaces h.fields)
    (event : TrackEvent) : (h.step scanner endpointId event).Spared p c := by
  obtain ⟨hmark, hclass⟩ := hs
  cases event with
  | visit v =>
    constructor
    · have hsame : falsePositivesAt (h.step scanner endpointId (.visit v)).fields p =
          falsePositivesAt h.fields p := falsePositivesAt_track hd p
      rwa [hsame]
    · intro hnow
      rcases (mem_classesAt_track hd).1 hnow with hbefore | ⟨-, hwrong⟩
      · exact hclass hbefore
      · exact hwrong hmark
  | dismiss q className =>
    constructor
    · exact mem_falsePositivesAt_dismissAt _ _ _ _ hmark
    · unfold History.step
      rwa [classesAt_dismissAt]

/-! ## All that happens -/

theorem run_append_singleton (events : List TrackEvent) (event : TrackEvent) :
    run scanner endpointId (events ++ [event]) =
      (run scanner endpointId events).step scanner endpointId event := by
  rw [run, List.foldl_append]
  rfl

theorem consistent_empty : Consistent {} where
  distinctPlaces := List.nodup_nil
  coherent _ hf := by cases hf
  evidenced _ hf := by cases hf
  nodup_announced := List.nodup_nil
  mem_announced p c := by simp [classesAt, fieldAt]

theorem consistent_of_samples (hscan : scanner.GivesSamples) (endpointId : Uuid)
    (events : List TrackEvent) : (run scanner endpointId events).Consistent :=
  List.foldlRecOn events (step scanner endpointId) consistent_empty
    fun _ h event _ => h.step hscan event

/-- **At every moment of every run, the history is consistent and what was marked in time is
spared**: with a scanner made of patterns, the parts of each field fit together, each class that is
recorded at a place was reported as new there, once, and a class that is marked as wrong before it
is recorded at a place is never recorded there. -/
theorem consistent_run (s : PatternScanner) (endpointId : Uuid) (events : List TrackEvent) :
    (run s.toScanner endpointId events).Consistent ∧
      ∀ (later : List TrackEvent) (p : Place) (c : String),
        (run s.toScanner endpointId events).Spared p c →
          (run s.toScanner endpointId (events ++ later)).Spared p c := by
  have hall : ∀ events, (run s.toScanner endpointId events).Consistent :=
    consistent_of_samples s.givesSamples endpointId
  refine ⟨hall events, fun later p c hs => ?_⟩
  induction later using List.reverseRecOn with
  | nil => rwa [List.append_nil]
  | append_singleton later event ih =>
    rw [← List.append_assoc, run_append_singleton]
    exact ih.step (hall (events ++ later)).distinctPlaces event

/-- A scanner that looks for an at sign. -/
def mailScanner : PatternScanner := { patterns := [("MAIL", .char '@')] }

/-- A field is seen without a class, the class is marked, and only then it comes up. -/
def markedEvents : List TrackEvent :=
  [.visit ⟨.ofNat, responseTrace "1"⟩, .dismiss ⟨"res.body", ""⟩ "MAIL"]

theorem spared_markedEvents :
    (run mailScanner.toScanner (.ofNat 3) markedEvents).Spared ⟨"res.body", ""⟩ "MAIL" := by
  have hsplit : markedEvents =
      [.visit ⟨.ofNat, responseTrace "1"⟩] ++ [.dismiss ⟨"res.body", ""⟩ "MAIL"] := rfl
  rw [hsplit, run_append_singleton]
  exact spared_dismiss (by decide +kernel) (by decide +kernel)

theorem consistent_run_marked :
    (run mailScanner.toScanner (.ofNat 3) markedEvents).Spared ⟨"res.body", ""⟩ "MAIL" ∧
      (run mailScanner.toScanner (.ofNat 3) markedEvents).Consistent ∧
      (run mailScanner.toScanner (.ofNat 3) (markedEvents ++
        [.visit ⟨.ofNat, responseTrace "1@"⟩])).Spared ⟨"res.body", ""⟩ "MAIL" := by
  obtain ⟨hconsistent, hspared⟩ := consistent_run mailScanner (.ofNat 3) markedEvents
  exact ⟨spared_markedEvents, hconsistent, hspared _ _ _ spared_markedEvents⟩

end History

end TrafficLens
