import TrafficLens.Proofs.Analysis.Field
import TrafficLens.Proofs.Analysis.Place

/-!
# A pass over a trace, place by place

A pass threads the fields, the new classes and the classes of the response through one loop. Here it
is taken apart. What stands at a place after the pass is what stood there before, after the
observations at that place (`seek?_passOver`, with `follow`). The new classes are the difference
between the two (`mem_newClasses_passOver`), and the classes of the response depend on the marks
that stood there before only (`mem_responseClasses_passOver`).
-/

namespace TrafficLens

namespace Reconciliation

/-! ## Recording the classes of one value -/

section Recording

variable (o : Observation) (state : Field × List FoundClass × List String)

/-- What recording one class does: the field records it, it is new unless it is marked as wrong or
was there before, and it is a class of the response unless it is marked. -/
theorem recordClass_eq (found : String × List String) :
    recordClass o state found =
      (state.1.record found,
        if found.1 ∈ state.1.falsePositives ∨ found.1 ∈ state.1.classes then state.2.1
        else state.2.1 ++ [⟨o.sec, o.path, found.1⟩],
        if found.1 ∉ state.1.falsePositives ∧ o.sec.isResponse then insertSorted found.1 state.2.2
        else state.2.2) := by
  obtain ⟨f, newClasses, responseClasses⟩ := state
  obtain ⟨c, samples⟩ := found
  by_cases hmark : c ∈ f.falsePositives
  · simp [recordClass, Field.record, hmark]
  · by_cases hclass : c ∈ f.classes <;> simp [recordClass, Field.record, hmark, hclass]

theorem foldl_recordClass_fst (found : List (String × List String)) :
    (found.foldl (recordClass o) state).1 = state.1.recordAll found := by
  induction found generalizing state with
  | nil => rfl
  | cons e rest ih =>
    rw [List.foldl_cons, ih, recordClass_eq]
    rfl

theorem mem_newClasses_recordClass {x : FoundClass} (found : String × List String) :
    x ∈ (recordClass o state found).2.1 ↔ x ∈ state.2.1 ∨
      x = ⟨o.sec, o.path, found.1⟩ ∧ found.1 ∉ state.1.falsePositives ∧
        found.1 ∉ state.1.classes := by
  rw [recordClass_eq]
  dsimp only
  split
  · next h => exact (or_iff_left fun hx => h.elim hx.2.1 hx.2.2).symm
  · next h => simp [not_or.1 h]

theorem mem_responseClasses_recordClass {c : String} (found : String × List String) :
    c ∈ (recordClass o state found).2.2 ↔ c ∈ state.2.2 ∨
      o.sec.isResponse ∧ c = found.1 ∧ c ∉ state.1.falsePositives := by
  rw [recordClass_eq]
  dsimp only
  split
  · next h =>
    rw [mem_insertSorted, or_comm]
    refine or_congr_right ⟨fun hc => ⟨h.2, hc, hc ▸ h.1⟩, fun hc => hc.2.1⟩
  · next h =>
    refine (or_iff_left ?_).symm
    rintro ⟨hresponse, rfl, hmark⟩
    exact h ⟨hmark, hresponse⟩

/-- The classes that are reported as new are those that are recorded now and were not before. -/
theorem mem_newClasses_foldl {x : FoundClass} (found : List (String × List String)) :
    x ∈ (found.foldl (recordClass o) state).2.1 ↔ x ∈ state.2.1 ∨
      x.place = o.place ∧ x.className ∈ (state.1.recordAll found).classes ∧
        x.className ∉ state.1.classes := by
  induction found generalizing state with
  | nil =>
    have hnone : ¬ (x.className ∈ state.1.classes ∧ x.className ∉ state.1.classes) :=
      fun h => h.2 h.1
    simp [Field.recordAll, hnone]
  | cons e rest ih =>
    have hstep : state.1.recordAll (e :: rest) = (state.1.record e).recordAll rest := rfl
    have hmono : ∀ c ∈ (state.1.record e).classes, c ∈ (state.1.recordAll (e :: rest)).classes := by
      intro c hc
      rw [hstep, Field.mem_classes_recordAll]
      exact .inl hc
    have hfield : (recordClass o state e).1 = state.1.record e := by rw [recordClass_eq]
    rw [List.foldl_cons, ih, hfield, mem_newClasses_recordClass, ← hstep, or_assoc]
    refine or_congr_right ⟨?_, ?_⟩
    · rintro (⟨rfl, hwrong, hnew⟩ | ⟨hplace, hin, hnew⟩)
      · refine ⟨rfl, hmono _ ?_, hnew⟩
        exact (Field.mem_classes_record _ _).2 (.inr ⟨rfl, hwrong⟩)
      · exact ⟨hplace, hin, fun h => hnew ((Field.mem_classes_record _ _).2 (.inl h))⟩
    · rintro ⟨hplace, hin, hnew⟩
      by_cases hnow : x.className ∈ (state.1.record e).classes
      · obtain ⟨hc, hwrong⟩ := ((Field.mem_classes_record _ _).1 hnow).resolve_left hnew
        obtain ⟨hsec, hpath⟩ := FoundClass.place_eq_iff.1 hplace
        obtain ⟨sec, path, c⟩ := x
        subst hsec hpath hc
        exact .inl ⟨rfl, hwrong, hnew⟩
      · exact .inr ⟨hplace, hin, hnow⟩

theorem mem_responseClasses_foldl {c : String} (found : List (String × List String)) :
    c ∈ (found.foldl (recordClass o) state).2.2 ↔ c ∈ state.2.2 ∨
      o.sec.isResponse ∧ (∃ samples, (c, samples) ∈ found) ∧ c ∉ state.1.falsePositives := by
  induction found generalizing state with
  | nil => simp
  | cons e rest ih =>
    have hfield : (recordClass o state e).1 = state.1.record e := by rw [recordClass_eq]
    rw [List.foldl_cons, ih, hfield, mem_responseClasses_recordClass]
    obtain ⟨k, samples⟩ := e
    simp only [Field.record, List.mem_cons, Prod.mk.injEq, exists_or, exists_and_left, exists_eq,
      and_true, or_and_right, and_or_left, or_assoc]

theorem increasing_responseClasses_foldl (found : List (String × List String))
    (h : Increasing state.2.2) : Increasing (found.foldl (recordClass o) state).2.2 := by
  induction found generalizing state with
  | nil => exact h
  | cons e rest ih =>
    refine ih _ ?_
    rw [recordClass_eq]
    dsimp only
    split
    · exact increasing_insertSorted _ h
    · exact h

end Recording

/-! ## One observation -/

section Observing

variable {scanner : Scanner} {newId : Nat → Uuid} {endpointId : Uuid} {pass : Pass}
  {o : Observation}

/-- The field that an observation is folded into. -/
def fieldFor (newId : Nat → Uuid) (endpointId : Uuid) (pass : Pass) (o : Observation) : Field :=
  (Dict.find? o.place pass.fields).getD (Field.new (newId pass.created) o.sec o.path endpointId)

theorem fields_observe :
    (observe scanner newId endpointId pass o).fields =
      Dict.insert o.place ((fieldFor newId endpointId pass o).after scanner o) pass.fields := by
  unfold observe
  cases h : o.text? with
  | none =>
    rw [Field.after_of_silent h]
    rfl
  | some text =>
    rw [Field.after_of_text? h,
      ← foldl_recordClass_fst o (_, pass.newClasses, pass.responseClasses)]
    rfl

theorem touched_observe :
    (observe scanner newId endpointId pass o).touched = insertSorted o.place pass.touched := rfl

theorem mem_newClasses_observe {x : FoundClass} :
    x ∈ (observe scanner newId endpointId pass o).newClasses ↔ x ∈ pass.newClasses ∨
      x.place = o.place ∧
        x.className ∈ ((fieldFor newId endpointId pass o).after scanner o).classes ∧
        x.className ∉ (fieldFor newId endpointId pass o).classes := by
  unfold observe
  cases h : o.text? with
  | none =>
    rw [Field.after_of_silent h]
    have hnone : ¬ (x.className ∈ (fieldFor newId endpointId pass o).classes ∧
        x.className ∉ (fieldFor newId endpointId pass o).classes) := fun hx => hx.2 hx.1
    exact (or_iff_left fun hx => hnone hx.2).symm
  | some text =>
    rw [Field.after_of_text? h, Field.tagSensitive_eq]
    exact mem_newClasses_foldl o (absorb o (fieldFor newId endpointId pass o), _, _) _

theorem mem_responseClasses_observe {c : String} :
    c ∈ (observe scanner newId endpointId pass o).responseClasses ↔ c ∈ pass.responseClasses ∨
      o.sec.isResponse ∧ scanner.Reports o c ∧
        c ∉ (fieldFor newId endpointId pass o).falsePositives := by
  unfold observe
  cases h : o.text? with
  | none =>
    exact (or_iff_left fun hx => Scanner.not_reports_of_text? h hx.2.1).symm
  | some text =>
    rw [Scanner.reports_of_text? h]
    exact mem_responseClasses_foldl o (absorb o (fieldFor newId endpointId pass o), _, _) _

theorem increasing_responseClasses_observe (h : Increasing pass.responseClasses) :
    Increasing (observe scanner newId endpointId pass o).responseClasses := by
  unfold observe
  cases o.text? with
  | none => exact h
  | some text => exact increasing_responseClasses_foldl o _ _ h

end Observing

end Reconciliation

/-! ## The observations at one place -/

namespace Field

/-- What stands at a place after observations there: the field that is known after them all, or,
when none is known, a new one from the first of them on. -/
def follow (scanner : Scanner) (endpointId id : Uuid) :
    Option Field → List Observation → Option Field
  | some f, os => some (f.afterAll scanner os)
  | none, [] => none
  | none, o :: os => some ((Field.new id o.sec o.path endpointId).afterAll scanner (o :: os))

variable {scanner : Scanner} {endpointId id : Uuid} {known : Option Field} {p : Place} {c : String}

theorem follow_eq_none {os : List Observation} :
    follow scanner endpointId id known os = none ↔ known = none ∧ os = [] := by
  cases known <;> cases os <;> simp [follow]

theorem follow_nil : follow scanner endpointId id known [] = known := by
  cases known <;> rfl

theorem follow_append_singleton (os : List Observation) (o : Observation) :
    follow scanner endpointId id known (os ++ [o]) =
      some (((follow scanner endpointId id known os).getD
        (Field.new id o.sec o.path endpointId)).after scanner o) := by
  cases known with
  | some f => simp [follow, afterAll]
  | none => cases os <;> simp [follow, afterAll]

/-- Following further is following from the start. -/
theorem exists_follow_append (known : Option Field) (id id' : Uuid) (os others : List Observation) :
    ∃ id'', follow scanner endpointId id' (follow scanner endpointId id known os) others =
      follow scanner endpointId id'' known (os ++ others) := by
  cases known with
  | some f => exact ⟨id, by simp [follow, afterAll]⟩
  | none =>
    cases os with
    | nil => exact ⟨id', rfl⟩
    | cons o os => exact ⟨id, by simp [follow, afterAll]⟩

/-- What is true of a new field and kept by observations is true of what stands at a place. -/
theorem follow_induction {P : Field → Prop} {os : List Observation}
    (hnew : ∀ o ∈ os, P (Field.new id o.sec o.path endpointId))
    (hafter : ∀ f o, P f → P (f.after scanner o)) (hknown : ∀ f ∈ known, P f) :
    ∀ g ∈ follow scanner endpointId id known os, P g := by
  intro g hg
  cases known with
  | some f =>
    obtain rfl := Option.some.inj hg
    exact afterAll_induction hafter (hknown f rfl) os
  | none =>
    cases os with
    | nil => cases hg
    | cons o os =>
      obtain rfl := Option.some.inj hg
      exact afterAll_induction hafter (hnew o List.mem_cons_self) (o :: os)

theorem place_of_follow {os : List Observation} (hknown : ∀ f ∈ known, f.place = p)
    (hos : ∀ o ∈ os, o.place = p) : ∀ g ∈ follow scanner endpointId id known os, g.place = p :=
  follow_induction (P := fun f => f.place = p) hos
    (fun f o hf => (keeps_after scanner f o).place_eq.trans hf) hknown

/-- The marks at a place stay. -/
theorem falsePositives_follow (os : List Observation) :
    (follow scanner endpointId id known os).elim [] Field.falsePositives =
      known.elim [] Field.falsePositives := by
  cases known with
  | some f => exact (keeps_afterAll scanner f os).falsePositives_eq
  | none =>
    cases os with
    | nil => rfl
    | cons o os => exact (keeps_afterAll scanner _ _).falsePositives_eq

theorem mem_identified_follow {os : List Observation} :
    c ∈ (follow scanner endpointId id known os).elim [] Field.identified ↔
      c ∈ known.elim [] Field.identified ∨ ∃ o ∈ os, scanner.Reports o c := by
  cases known with
  | some f => exact mem_identified_afterAll os
  | none =>
    cases os with
    | nil => simp [follow]
    | cons o os => exact mem_identified_afterAll (o :: os)

theorem mem_classes_follow {os : List Observation} :
    c ∈ (follow scanner endpointId id known os).elim [] Field.classes ↔
      c ∈ known.elim [] Field.classes ∨
        (∃ o ∈ os, scanner.Reports o c) ∧ c ∉ known.elim [] Field.falsePositives := by
  cases known with
  | some f => exact mem_classes_afterAll os
  | none =>
    cases os with
    | nil => simp [follow]
    | cons o os => exact mem_classes_afterAll (o :: os)

end Field

/-! ## Many observations -/

namespace Reconciliation

/-- The observations at a place. -/
def observationsAt (os : List Observation) (p : Place) : List Observation :=
  os.filter fun o => o.place = p

/-- The state after a pass over observations. -/
def passOver (scanner : Scanner) (newId : Nat → Uuid) (endpointId : Uuid)
    (before : List (Place × Field)) (os : List Observation) : Pass :=
  os.foldl (observe scanner newId endpointId) { fields := before }

variable {scanner : Scanner} {newId : Nat → Uuid} {endpointId : Uuid}
  {before : List (Place × Field)} {os : List Observation} {p : Place}

theorem observationsAt_append (os others : List Observation) (p : Place) :
    observationsAt (os ++ others) p = observationsAt os p ++ observationsAt others p :=
  List.filter_append ..

theorem place_of_mem_observationsAt {o : Observation} (h : o ∈ observationsAt os p) :
    o.place = p := by
  simpa using (List.mem_filter.1 h).2

theorem observationsAt_eq_nil : observationsAt os p = [] ↔ ∀ o ∈ os, o.place ≠ p := by
  simp [observationsAt]

theorem passOver_append_singleton (os : List Observation) (o : Observation) :
    passOver scanner newId endpointId before (os ++ [o]) =
      observe scanner newId endpointId (passOver scanner newId endpointId before os) o := by
  rw [passOver, List.foldl_append]
  rfl

theorem ordered_passOver (h : Dict.Ordered before) :
    Dict.Ordered (passOver scanner newId endpointId before os).fields := by
  induction os using List.reverseRecOn with
  | nil => exact h
  | append_singleton os o ih =>
    rw [passOver_append_singleton, fields_observe]
    exact Dict.ordered_insert _ _ ih

theorem mem_touched_passOver :
    p ∈ (passOver scanner newId endpointId before os).touched ↔ ∃ o ∈ os, o.place = p := by
  induction os using List.reverseRecOn with
  | nil => simp [passOver]
  | append_singleton os o ih =>
    rw [passOver_append_singleton, touched_observe, mem_insertSorted, ih]
    simp [or_and_right, exists_or, eq_comm, or_comm]

theorem fieldFor_passOver (h : Dict.Ordered before) (o : Observation) :
    fieldFor newId endpointId (passOver scanner newId endpointId before os) o =
      (Dict.seek? o.place (passOver scanner newId endpointId before os).fields).getD
        (Field.new (newId (passOver scanner newId endpointId before os).created) o.sec o.path
          endpointId) := by
  rw [fieldFor, Dict.find?_eq_seek? _ (ordered_passOver h)]

/-- **What stands at a place after a pass** is what stood there, after the observations there. -/
theorem seek?_passOver (scanner : Scanner) (newId : Nat → Uuid) (endpointId : Uuid)
    (h : Dict.Ordered before) (os : List Observation) (p : Place) :
    ∃ id, Dict.seek? p (passOver scanner newId endpointId before os).fields =
      Field.follow scanner endpointId id (Dict.seek? p before) (observationsAt os p) := by
  induction os using List.reverseRecOn with
  | nil => exact ⟨newId 0, Field.follow_nil.symm⟩
  | append_singleton os o ih =>
    obtain ⟨id, ih⟩ := ih
    rw [passOver_append_singleton, fields_observe, Dict.seek?_insert, observationsAt_append]
    by_cases hp : p = o.place
    · have hone : observationsAt [o] p = [o] := by simp [observationsAt, hp]
      rw [if_pos hp, fieldFor_passOver h, ← hp, ih, hone]
      -- a field that is made here has a new identifier, and its path is that of the observation
      by_cases hnone : Field.follow scanner endpointId id (Dict.seek? p before)
          (observationsAt os p) = none
      · obtain ⟨hknown, hos⟩ := Field.follow_eq_none.1 hnone
        refine ⟨newId (passOver scanner newId endpointId before os).created, ?_⟩
        rw [Field.follow_append_singleton, hknown, hos]
        rfl
      · obtain ⟨f, hf⟩ := Option.ne_none_iff_exists'.1 hnone
        refine ⟨id, ?_⟩
        rw [Field.follow_append_singleton, hf]
        rfl
    · have hone : observationsAt [o] p = [] := by simp [observationsAt, Ne.symm hp]
      rw [if_neg hp, ih, hone, List.append_nil]
      exact ⟨id, rfl⟩

/-- The classes that an ordered map of fields records at a place. -/
def classesIn (fields : List (Place × Field)) (p : Place) : List String :=
  (Dict.seek? p fields).elim [] Field.classes

theorem classesIn_insert (q : Place) (f : Field) (fields : List (Place × Field)) (p : Place) :
    classesIn (Dict.insert q f fields) p = if p = q then f.classes else classesIn fields p := by
  unfold classesIn
  rw [Dict.seek?_insert]
  split <;> rfl

theorem classes_fieldFor (h : Dict.Ordered before) (o : Observation) :
    (fieldFor newId endpointId (passOver scanner newId endpointId before os) o).classes =
      classesIn (passOver scanner newId endpointId before os).fields o.place := by
  rw [fieldFor_passOver h, classesIn]
  cases Dict.seek? o.place (passOver scanner newId endpointId before os).fields <;> rfl

theorem classesIn_passOver_mono (h : Dict.Ordered before) {c : String}
    (hc : c ∈ classesIn before p) :
    c ∈ classesIn (passOver scanner newId endpointId before os).fields p := by
  obtain ⟨id, hseek⟩ := seek?_passOver scanner newId endpointId h os p
  rw [classesIn, hseek]
  exact Field.mem_classes_follow.2 (.inl hc)

/-- **The new classes are those that are recorded now and were not before.** -/
theorem mem_newClasses_passOver (h : Dict.Ordered before) {x : FoundClass} :
    x ∈ (passOver scanner newId endpointId before os).newClasses ↔
      x.className ∈ classesIn (passOver scanner newId endpointId before os).fields x.place ∧
        x.className ∉ classesIn before x.place := by
  induction os using List.reverseRecOn with
  | nil => simp [passOver]
  | append_singleton os o ih =>
    rw [passOver_append_singleton, mem_newClasses_observe, ih, fields_observe, classesIn_insert]
    by_cases hp : x.place = o.place
    · -- recorded before the pass, then before the observation, then after it: none is taken back
      have hpass : x.className ∈ classesIn before x.place →
          x.className ∈ classesIn (passOver scanner newId endpointId before os).fields x.place :=
        classesIn_passOver_mono h
      have hafter : x.className ∈
            classesIn (passOver scanner newId endpointId before os).fields x.place →
          x.className ∈ ((fieldFor newId endpointId (passOver scanner newId endpointId before os)
            o).after scanner o).classes := by
        rw [hp, ← classes_fieldFor h]
        exact fun hc => Field.mem_classes_after.2 (.inl hc)
      rw [if_pos hp, classes_fieldFor h, ← hp]
      tauto
    · rw [if_neg hp, or_iff_left fun hx => hp hx.1]

/-- **The classes of the response** are those that are reported there and not marked as wrong. -/
theorem mem_responseClasses_passOver (h : Dict.Ordered before) {c : String} :
    c ∈ (passOver scanner newId endpointId before os).responseClasses ↔
      ∃ o ∈ os, o.sec.isResponse ∧ scanner.Reports o c ∧
        c ∉ (Dict.seek? o.place before).elim [] Field.falsePositives := by
  induction os using List.reverseRecOn with
  | nil => simp [passOver]
  | append_singleton os o ih =>
    have hmarks : (fieldFor newId endpointId (passOver scanner newId endpointId before os)
        o).falsePositives = (Dict.seek? o.place before).elim [] Field.falsePositives := by
      obtain ⟨id, hseek⟩ := seek?_passOver scanner newId endpointId h os o.place
      calc (fieldFor newId endpointId (passOver scanner newId endpointId before os)
            o).falsePositives
          = (Dict.seek? o.place (passOver scanner newId endpointId before os).fields).elim []
              Field.falsePositives := by
            rw [fieldFor_passOver h]
            cases Dict.seek? o.place (passOver scanner newId endpointId before os).fields <;> rfl
        _ = (Dict.seek? o.place before).elim [] Field.falsePositives := by
            rw [hseek, Field.falsePositives_follow]
    rw [passOver_append_singleton, mem_responseClasses_observe, ih, hmarks]
    simp [or_and_right, exists_or]

theorem increasing_responseClasses_passOver :
    Increasing (passOver scanner newId endpointId before os).responseClasses := by
  induction os using List.reverseRecOn with
  | nil => exact increasing_nil
  | append_singleton os o ih =>
    rw [passOver_append_singleton]
    exact increasing_responseClasses_observe ih

end Reconciliation

end TrafficLens
