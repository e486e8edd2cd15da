import Mathlib.Data.List.TakeDrop
import TrafficLens.Analysis.Reconciliation
import TrafficLens.Proofs.Increasing

/-!
# Fields by place

A list of fields is read by place: `fieldAt` is the field at a place, and the lists that matter have
at most one field at each (`DistinctPlaces`). Storing lays fields over the ones that are there
(`fieldAt_storeFields`), and it leaves one field at each place. The map that a pass over a trace
starts from holds the same fields (`seek?_byPlace`).
-/

namespace TrafficLens

open Std

/-! ## Places and found classes in order -/

instance : TransOrd Place :=
  inferInstanceAs (TransCmp (compareLex (compareOn Place.sectionName) (compareOn Place.path)))

instance : LawfulEqOrd Place where
  eq_of_compare {a b} h := by
    obtain ⟨s, p⟩ := a
    obtain ⟨t, q⟩ := b
    have h : (compare s t).then (compare p q) = .eq := h
    rw [Ordering.then_eq_eq] at h
    rw [LawfulEqOrd.eq_of_compare h.1, LawfulEqOrd.eq_of_compare h.2]

namespace Section

theorem name_injective : Function.Injective name := by
  intro a b h
  cases a <;> cases b <;> simp_all [name]

theorem rank_injective : Function.Injective rank := by
  intro a b h
  cases a <;> cases b <;> simp_all [rank]

end Section

instance : TransOrd Section := inferInstanceAs (TransCmp (compareOn Section.rank))

instance : LawfulEqOrd Section where
  eq_of_compare {_ _} h := Section.rank_injective (LawfulEqOrd.eq_of_compare h)

namespace FoundClass

/-- The place where a class was found. -/
def place (x : FoundClass) : Place := ⟨x.sec.name, x.path⟩

theorem place_eq_iff {x : FoundClass} {o : Observation} :
    x.place = o.place ↔ x.sec = o.sec ∧ x.path = o.path := by
  unfold place Observation.place
  rw [Place.mk.injEq, Section.name_injective.eq_iff]

/-- The place and the name of a found class. -/
def entry (x : FoundClass) : Place × String := (x.place, x.className)

/-- A found class is determined by its place and its name. -/
theorem entry_injective : Function.Injective entry := by
  rintro ⟨s, p, c⟩ ⟨t, q, d⟩ h
  simp only [entry, place, Prod.mk.injEq, Place.mk.injEq] at h
  obtain ⟨⟨hs, rfl⟩, rfl⟩ := h
  rw [Section.name_injective hs]

end FoundClass

instance : TransOrd FoundClass :=
  inferInstanceAs (TransCmp (compareLex
    (compareLex (compareOn FoundClass.sec) (compareOn FoundClass.path))
    (compareOn FoundClass.className)))

instance : LawfulEqOrd FoundClass where
  eq_of_compare {a b} h := by
    obtain ⟨s, p, c⟩ := a
    obtain ⟨t, q, d⟩ := b
    have h : ((compare s t).then (compare p q)).then (compare c d) = .eq := h
    rw [Ordering.then_eq_eq, Ordering.then_eq_eq] at h
    rw [LawfulEqOrd.eq_of_compare h.1.1, LawfulEqOrd.eq_of_compare h.1.2,
      LawfulEqOrd.eq_of_compare h.2]

/-! ## The field at a place -/

/-- The field at a place. -/
def fieldAt (fields : List Field) (p : Place) : Option Field := fields.find? fun f => f.place = p

/-- No two fields are at one place. -/
def DistinctPlaces (fields : List Field) : Prop := (fields.map Field.place).Nodup

instance (fields : List Field) : Decidable (DistinctPlaces fields) :=
  inferInstanceAs (Decidable (fields.map Field.place).Nodup)

/-- The classes that are recorded at a place. -/
def classesAt (fields : List Field) (p : Place) : List String :=
  (fieldAt fields p).elim [] Field.classes

/-- The classes that were identified at a place. -/
def identifiedAt (fields : List Field) (p : Place) : List String :=
  (fieldAt fields p).elim [] Field.identified

/-- The classes that are marked as wrong at a place. -/
def falsePositivesAt (fields : List Field) (p : Place) : List String :=
  (fieldAt fields p).elim [] Field.falsePositives

variable {fields : List Field} {f : Field} {p : Place}

theorem place_of_fieldAt (h : fieldAt fields p = some f) : f.place = p := by
  simpa using List.find?_some h

theorem mem_of_fieldAt (h : fieldAt fields p = some f) : f ∈ fields := List.mem_of_find?_eq_some h

theorem fieldAt_eq_none_iff : fieldAt fields p = none ↔ p ∉ fields.map Field.place := by
  simp [fieldAt]

theorem fieldAt_cons (g : Field) (fields : List Field) (p : Place) :
    fieldAt (g :: fields) p = if g.place = p then some g else fieldAt fields p := by
  unfold fieldAt
  rw [List.find?_cons]
  by_cases h : g.place = p <;> simp [h]

/-- The fields of a list are those at their places. -/
theorem DistinctPlaces.mem_iff (h : DistinctPlaces fields) :
    f ∈ fields ↔ fieldAt fields f.place = some f := by
  refine ⟨fun hf => ?_, mem_of_fieldAt⟩
  induction fields with
  | nil => simp at hf
  | cons g rest ih =>
    obtain ⟨hg, hrest⟩ := List.nodup_cons.1 h
    rw [fieldAt_cons]
    rcases List.mem_cons.1 hf with rfl | hf
    · rw [if_pos rfl]
    · have hne : g.place ≠ f.place := fun he => hg (he ▸ List.mem_map_of_mem hf)
      rw [if_neg hne, ih hrest hf]

/-- The map of the fields by place has them at their places. -/
theorem seek?_byPlace (h : DistinctPlaces fields) (p : Place) :
    Dict.seek? p (Reconciliation.byPlace fields) = fieldAt fields p := by
  have hkeys : Dict.keys (fields.map fun f => (f.place, f)) = fields.map Field.place := by
    simp [Dict.keys, Function.comp_def]
  rw [Reconciliation.byPlace, Dict.seek?_ofList p (by rwa [hkeys])]
  clear h hkeys
  induction fields with
  | nil => rfl
  | cons g rest ih => rw [List.map_cons, Dict.find?_cons, fieldAt_cons, ih]

/-- The map of the fields by place holds fields of the list, at their places. -/
theorem of_mem_byPlace (h : (p, f) ∈ Reconciliation.byPlace fields) : f ∈ fields ∧ f.place = p := by
  obtain ⟨g, hg, hentry⟩ := List.mem_map.1 (Dict.mem_of_mem_ofList h)
  obtain ⟨rfl, rfl⟩ := Prod.mk.inj hentry
  exact ⟨hg, rfl⟩

/-! ## Storing fields -/

/-- Store one field in place of the first one with its place, or at the end. -/
def storeField (fields : List Field) (f : Field) : List Field :=
  if fields.any fun g => g.place == f.place then
    let (before, rest) := fields.span fun g => !(g.place == f.place)
    before ++ f :: rest.drop 1
  else fields ++ [f]

theorem storeFields_eq_foldl (fields changed : List Field) :
    storeFields fields changed = changed.foldl storeField fields := rfl

/-- A field goes to the first field with its place. -/
theorem storeField_cons (g : Field) (fields : List Field) (f : Field) :
    storeField (g :: fields) f =
      if g.place = f.place then f :: fields else g :: storeField fields f := by
  unfold storeField
  by_cases h : g.place = f.place
  · simp [h, List.span_eq_takeWhile_dropWhile]
  · by_cases hany : fields.any fun g => g.place == f.place
    · simp [h, hany, List.span_eq_takeWhile_dropWhile]
    · simp [h, hany]

theorem fieldAt_storeField (fields : List Field) (f : Field) (p : Place) :
    fieldAt (storeField fields f) p = if f.place = p then some f else fieldAt fields p := by
  induction fields with
  | nil => exact fieldAt_cons f [] p
  | cons g rest ih =>
    rw [storeField_cons]
    split
    · next h =>
      rw [fieldAt_cons, fieldAt_cons, h]
      split <;> rfl
    · next h =>
      rw [fieldAt_cons, fieldAt_cons, ih]
      split
      · next hg => rw [if_neg fun hf => h (hg.trans hf.symm)]
      · rfl

theorem map_place_storeField (fields : List Field) (f : Field) :
    (storeField fields f).map Field.place =
      if f.place ∈ fields.map Field.place then fields.map Field.place
      else fields.map Field.place ++ [f.place] := by
  induction fields with
  | nil => rfl
  | cons g rest ih =>
    rw [storeField_cons]
    by_cases h : g.place = f.place
    · simp [h]
    · rw [if_neg h, List.map_cons, ih]
      by_cases hmem : f.place ∈ rest.map Field.place
      · simp [hmem]
      · simp [hmem, Ne.symm h]

theorem distinctPlaces_storeField (h : DistinctPlaces fields) (f : Field) :
    DistinctPlaces (storeField fields f) := by
  unfold DistinctPlaces at h ⊢
  rw [map_place_storeField]
  split
  · exact h
  · next hmem => exact List.nodup_append.2 ⟨h, by simp, fun a ha b hb hab =>
      hmem (List.mem_singleton.1 hb ▸ hab ▸ ha)⟩

theorem distinctPlaces_storeFields (h : DistinctPlaces fields) (changed : List Field) :
    DistinctPlaces (storeFields fields changed) := by
  rw [storeFields_eq_foldl]
  induction changed generalizing fields with
  | nil => exact h
  | cons f rest ih => exact ih (distinctPlaces_storeField h f)

theorem mem_storeField {g : Field} :
    g ∈ storeField fields f → g = f ∨ g ∈ fields := by
  induction fields with
  | nil => exact fun h => .inl (List.mem_singleton.1 h)
  | cons d rest ih =>
    rw [storeField_cons]
    split
    · exact fun h => (List.mem_cons.1 h).imp_right (List.mem_cons_of_mem d)
    · intro h
      rcases List.mem_cons.1 h with rfl | h
      · exact .inr List.mem_cons_self
      · exact (ih h).imp_right (List.mem_cons_of_mem d)

/-- A stored field is new or was there. -/
theorem mem_storeFields {g : Field} {changed : List Field} (h : g ∈ storeFields fields changed) :
    g ∈ changed ∨ g ∈ fields := by
  rw [storeFields_eq_foldl] at h
  induction changed generalizing fields with
  | nil => exact .inr h
  | cons f rest ih =>
    rcases ih h with h | h
    · exact .inl (List.mem_cons_of_mem f h)
    · exact (mem_storeField h).imp_left fun (h : g = f) => h ▸ List.mem_cons_self

theorem mem_storeField_of_ne {g : Field} (h : g ∈ fields) (hne : f.place ≠ g.place) :
    g ∈ storeField fields f := by
  induction fields with
  | nil => cases h
  | cons d rest ih =>
    rw [storeField_cons]
    rcases List.mem_cons.1 h with rfl | h
    · rw [if_neg (Ne.symm hne)]
      exact List.mem_cons_self
    · split
      · exact List.mem_cons_of_mem f h
      · exact List.mem_cons_of_mem d (ih h)

/-- A field stays if no field is stored at its place. -/
theorem mem_storeFields_of_ne {g : Field} {changed : List Field} (h : g ∈ fields)
    (hne : ∀ f ∈ changed, f.place ≠ g.place) : g ∈ storeFields fields changed := by
  rw [storeFields_eq_foldl]
  induction changed generalizing fields with
  | nil => exact h
  | cons f rest ih =>
    obtain ⟨hf, hrest⟩ := List.forall_mem_cons.1 hne
    exact ih (mem_storeField_of_ne h hf) hrest

/-- **Stored fields lie over the ones that were there.** -/
theorem fieldAt_storeFields (fields : List Field) {changed : List Field}
    (h : DistinctPlaces changed) (p : Place) :
    fieldAt (storeFields fields changed) p = (fieldAt changed p).or (fieldAt fields p) := by
  rw [storeFields_eq_foldl]
  induction changed generalizing fields with
  | nil => rfl
  | cons f rest ih =>
    obtain ⟨hf, hrest⟩ := List.nodup_cons.1 h
    rw [List.foldl_cons, ih _ hrest, fieldAt_storeField, fieldAt_cons]
    split
    · next hp =>
      have hnone : fieldAt rest p = none := fieldAt_eq_none_iff.2 (hp ▸ hf)
      rw [hnone]
      rfl
    · rfl

/-- Fields that are stored at different places are all there then. -/
theorem mem_storeFields_of_mem {changed : List Field} (h : DistinctPlaces changed)
    (hf : f ∈ changed) : f ∈ storeFields fields changed := by
  refine mem_of_fieldAt (p := f.place) ?_
  rw [fieldAt_storeFields fields h, h.mem_iff.1 hf]
  rfl

end TrafficLens
