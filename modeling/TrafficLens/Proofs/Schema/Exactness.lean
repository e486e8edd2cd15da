import TrafficLens.Proofs.Schema.Assembly

/-!
# A schema is as wide as its evidence

`Witnessed w vs` says what it takes that values `vs` speak for a value `w`, without a word about
schemas: a value of its type (or, for an integer, any number), and for items and members values that
speak for them in the same way. The schema that is made of `vs` accepts the values that `vs` speak
for, and no others (`accepts_ofValues_iff`). It goes through the closed form: such a schema accepts
what the alternative for its kind accepts (`accepts_ofValues`), and the schemas inside that
alternative are made of values again.
-/

namespace TrafficLens.Schema

open DataType Evidence

mutual

/-- The values speak for a value. No values at all speak for everything. -/
def Witnessed : Json → List Json → Prop
  | .null, vs => vs = [] ∨ .null ∈ vs
  | .bool _, vs => vs = [] ∨ ∃ b, .bool b ∈ vs
  | .number (.int _), vs => vs = [] ∨ ∃ n, .number n ∈ vs
  | .number (.float _), vs => vs = [] ∨ ∃ x, .number (.float x) ∈ vs
  | .string _, vs => vs = [] ∨ ∃ r, .string r ∈ vs
  | .array xs, vs => vs = [] ∨ ((∃ ys, .array ys ∈ vs) ∧ WitnessedItems xs vs)
  | .object ms, vs => vs = [] ∨ ((∃ ns, .object ns ∈ vs) ∧ WitnessedMembers ms vs)
termination_by structural w => w

/-- The items of the arrays among the values speak for each of the items. -/
def WitnessedItems : List Json → List Json → Prop
  | [], _ => True
  | x :: xs, vs => Witnessed x (allItems vs) ∧ WitnessedItems xs vs
termination_by structural xs => xs

/-- Some object among the values has the key of each of the members, and what the objects have under
it speaks for the member. -/
def WitnessedMembers : List (String × Json) → List Json → Prop
  | [], _ => True
  | (k, x) :: ms, vs =>
    (∃ ns y, .object ns ∈ vs ∧ (k, y) ∈ ns) ∧ Witnessed x (under k (allMembers vs)) ∧
      WitnessedMembers ms vs
termination_by structural ms => ms

end

/-! ## What the alternatives accept -/

theorem nullability_eq_some (vs : List Json) : nullability vs = some true ↔ .null ∈ vs := by
  simp [nullability]

theorem accepts_null {s : Schema} (h : ¬ s.isEmpty) :
    s.accepts .null ↔ s.nullable = some true ∨ s.type = some .unknown := by
  obtain ⟨type, nullable, items, properties, oneOf⟩ := s
  unfold accepts
  simp_all [isEmpty, Json.isNull]

theorem anyAccepts_iff {ss : List Schema} {v : Json} :
    anyAccepts ss v ↔ ∃ s ∈ ss, s.accepts v := by
  induction ss with
  | nil => simp [anyAccepts]
  | cons s ss ih => simp [anyAccepts, ih]

/-- A schema of alternatives accepts a value that is not `null` if one of them does. -/
theorem accepts_assemble {ss : List Schema} (hs : ∀ s ∈ ss, IsPlain s) {v : Json} (hv : v ≠ .null)
    (n : Option Bool) : (assemble n true ss).accepts v ↔ ∃ s ∈ ss, s.accepts v := by
  rcases ss with _ | ⟨s, _ | ⟨t, rest⟩⟩
  · have hu := (of_ne_unknown hv).symm
    unfold assemble accepts
    cases v <;> simp_all [Json.isNull]
  · obtain ⟨-, -, t, ht, -⟩ := hs s (by simp)
    simp [assemble, accepts_setNullable hv (s := s) (by simp [ht])]
  · rw [accepts_of_oneOf_some hv (by rfl), anyAccepts_iff]

/-- An alternative accepts values of its kind only. -/
theorem kind_of_accepts {vs : List Json} {k : DataType} {v : Json} (hk : k.kind = k)
    (hv : v ≠ .null) (h : (alternative vs k).accepts v) : (of v).kind = k := by
  cases k
  case integer => simp [kind] at hk
  case number =>
    unfold alternative accepts at h
    rcases v with _ | _ | (_ | _) | _ | _ | _ <;> split at h <;>
      simp_all [Json.isNull, of, kind]
  all_goals
    unfold alternative accepts at h
    rcases v with _ | _ | (_ | _) | _ | _ | _ <;> simp_all [Json.isNull, of, kind]

theorem accepts_ofValues_nil (v : Json) : (ofValues []).accepts v := rfl

/-- A schema that was made of values accepts what the alternative for its kind accepts. -/
theorem accepts_ofValues {vs : List Json} (hvs : vs ≠ []) {v : Json} (hv : v ≠ .null) :
    (ofValues vs).accepts v ↔
      (of v).kind ∈ kinds vs ∧ (alternative vs (of v).kind).accepts v := by
  have hseen : (!vs.isEmpty) = true := by simp [hvs]
  rw [ofValues_eq, hseen, accepts_assemble (fun s => isPlain_of_mem_alternatives) hv]
  constructor
  · rintro ⟨s, hs, h⟩
    obtain ⟨k, hk, rfl⟩ := List.mem_map.1 hs
    obtain rfl := kind_of_accepts (kind_of_mem_kinds hk).1 hv h
    exact ⟨hk, h⟩
  · rintro ⟨hk, h⟩
    exact ⟨_, List.mem_map_of_mem hk, h⟩

/-- A schema that was made of values accepts `null` if it was among them. -/
theorem accepts_ofValues_null {vs : List Json} (hvs : vs ≠ []) :
    (ofValues vs).accepts .null ↔ .null ∈ vs := by
  have hseen : (!vs.isEmpty) = true := by simp [hvs]
  have hnull := nullability_eq_some vs
  rw [ofValues_eq, hseen]
  cases halt : alternatives vs with
  | nil =>
    -- no kind was seen, so all the values are `null`
    have hall : .null ∈ vs := by
      obtain ⟨v, hv⟩ := List.exists_mem_of_ne_nil vs hvs
      by_contra hn
      have hk := mem_kinds.2 ⟨v, hv, fun h => hn (h ▸ hv), rfl⟩
      simp_all [alternatives]
    unfold assemble accepts
    simp [Json.isNull, hall]
  | cons s ss =>
    have hs : IsPlain s := isPlain_of_mem_alternatives (halt ▸ List.mem_cons_self)
    obtain ⟨-, -, t, ht, htu⟩ := hs
    cases ss with
    | nil => rw [accepts_null] <;> simp [assemble, isEmpty, ht, htu, hnull]
    | cons t rest => rw [accepts_null] <;> simp [assemble, isEmpty, hnull]

theorem accepts_alternative_array (vs xs : List Json) :
    (alternative vs .array).accepts (.array xs) ↔
      ∀ x ∈ xs, (ofValues (allItems vs)).accepts x := by
  have h : (alternative vs .array).accepts (.array xs) =
    xs.all fun x => (ofValues (allItems vs)).accepts x := rfl
  rw [h, List.all_eq_true]

theorem accepts_alternative_object (vs : List Json) (ms : List (String × Json)) :
    (alternative vs .object).accepts (.object ms) ↔
      ∀ m ∈ ms, under m.1 (allMembers vs) ≠ [] ∧
        (ofValues (under m.1 (allMembers vs))).accepts m.2 := by
  have h : (alternative vs .object).accepts (.object ms) =
    ms.all fun m => propertyAccepts (mergeMembers [] (allMembers vs)) m.1 m.2 := rfl
  have hprop : ∀ m : String × Json, propertyAccepts (mergeMembers [] (allMembers vs)) m.1 m.2 ↔
      under m.1 (allMembers vs) ≠ [] ∧
        (ofValues (under m.1 (allMembers vs))).accepts m.2 := fun m => by
    rw [propertyAccepts_iff, Dict.find?_eq_seek? _ (ordered_mergeMembers Dict.ordered_nil _),
      seek?_mergeMembers]
    split <;> simp_all
  simp only [h, List.all_eq_true, hprop]

/-- A float is accepted where a float was seen. -/
theorem accepts_alternative_float (vs : List Json) (x : Binary64) :
    (alternative vs .number).accepts (.number (.float x)) ↔ hasFloat vs := by
  unfold alternative accepts
  cases h : hasFloat vs <;> simp [Json.isNull, of]

theorem accepts_alternative_int (vs : List Json) (n : Int) :
    (alternative vs .number).accepts (.number (.int n)) := by
  unfold alternative accepts
  cases h : hasFloat vs <;> simp [Json.isNull, of]

/-! ## The evidence -/

/-- A kind was seen if a value was seen that is made in the way of its values. -/
theorem mem_kinds_of_range {α : Type} {f : α → Json} {k : DataType} {vs : List Json}
    (h : ∀ v, v ≠ .null ∧ (of v).kind = k ↔ ∃ a, v = f a) : k ∈ kinds vs ↔ ∃ a, f a ∈ vs := by
  rw [mem_kinds]
  simp only [h]
  constructor
  · rintro ⟨_, hv, a, rfl⟩
    exact ⟨a, hv⟩
  · rintro ⟨a, ha⟩
    exact ⟨_, ha, a, rfl⟩

theorem mem_kinds_boolean {vs : List Json} : .boolean ∈ kinds vs ↔ ∃ b, .bool b ∈ vs :=
  mem_kinds_of_range (by rintro (_ | _ | (_ | _) | _ | _ | _) <;> simp [of, kind])

theorem mem_kinds_number {vs : List Json} : .number ∈ kinds vs ↔ ∃ n, .number n ∈ vs :=
  mem_kinds_of_range (by rintro (_ | _ | (_ | _) | _ | _ | _) <;> simp [of, kind])

theorem mem_kinds_string {vs : List Json} : .string ∈ kinds vs ↔ ∃ r, .string r ∈ vs :=
  mem_kinds_of_range (by rintro (_ | _ | (_ | _) | _ | _ | _) <;> simp [of, kind])

theorem mem_kinds_array {vs : List Json} : .array ∈ kinds vs ↔ ∃ ys, .array ys ∈ vs :=
  mem_kinds_of_range (by rintro (_ | _ | (_ | _) | _ | _ | _) <;> simp [of, kind])

theorem mem_kinds_object {vs : List Json} : .object ∈ kinds vs ↔ ∃ ns, .object ns ∈ vs :=
  mem_kinds_of_range (by rintro (_ | _ | (_ | _) | _ | _ | _) <;> simp [of, kind])

theorem hasFloat_iff {vs : List Json} : hasFloat vs ↔ ∃ x, .number (.float x) ∈ vs := by
  simp only [hasFloat, List.any_eq_true, beq_iff_eq]
  constructor
  · rintro ⟨_ | _ | (_ | x) | _ | _ | _, hv, hk⟩ <;> simp [of] at hk
    exact ⟨x, hv⟩
  · rintro ⟨x, hv⟩
    exact ⟨_, hv, rfl⟩

/-- Only evidence that is not empty has to be looked at. -/
theorem accepts_iff_or {vs : List Json} {w : Json} {P : Prop}
    (h : vs ≠ [] → ((ofValues vs).accepts w ↔ P)) : (ofValues vs).accepts w ↔ vs = [] ∨ P := by
  by_cases hvs : vs = []
  · simp [hvs, accepts_ofValues_nil]
  · rw [h hvs, or_iff_right hvs]

theorem under_ne_nil {k : String} {vs : List Json} :
    under k (allMembers vs) ≠ [] ↔ ∃ ns y, .object ns ∈ vs ∧ (k, y) ∈ ns := by
  have hmem : under k (allMembers vs) ≠ [] ↔ ∃ y, y ∈ under k (allMembers vs) :=
    ⟨List.exists_mem_of_ne_nil _, fun ⟨_, hy⟩ => List.ne_nil_of_mem hy⟩
  simp only [hmem, mem_under, mem_allMembers]
  exact exists_comm

/-! ## The meaning of a schema -/

mutual

/-- **A schema is as wide as its evidence**: the schema of a list of values accepts a value if and
only if the values speak for it. -/
theorem accepts_ofValues_iff : (w : Json) → ∀ vs, (ofValues vs).accepts w ↔ Witnessed w vs
  | .null, vs => by
    simp only [Witnessed]
    exact accepts_iff_or accepts_ofValues_null
  | .bool b, vs => by
    simp only [Witnessed]
    refine accepts_iff_or fun hvs => ?_
    rw [accepts_ofValues hvs (by simp), ← mem_kinds_boolean]
    exact and_iff_left rfl
  | .number (.int n), vs => by
    simp only [Witnessed]
    refine accepts_iff_or fun hvs => ?_
    rw [accepts_ofValues hvs (by simp), ← mem_kinds_number]
    exact and_iff_left (accepts_alternative_int vs n)
  | .number (.float x), vs => by
    simp only [Witnessed]
    refine accepts_iff_or fun hvs => ?_
    rw [accepts_ofValues hvs (by simp), ← hasFloat_iff]
    have hnumber : hasFloat vs → .number ∈ kinds vs := fun h => by
      obtain ⟨y, hy⟩ := hasFloat_iff.1 h
      exact mem_kinds_number.2 ⟨_, hy⟩
    exact (and_congr_right' (accepts_alternative_float vs x)).trans (and_iff_right_of_imp hnumber)
  | .string r, vs => by
    simp only [Witnessed]
    refine accepts_iff_or fun hvs => ?_
    rw [accepts_ofValues hvs (by simp), ← mem_kinds_string]
    exact and_iff_left rfl
  | .array xs, vs => by
    simp only [Witnessed]
    refine accepts_iff_or fun hvs => ?_
    rw [accepts_ofValues hvs (by simp), ← mem_kinds_array]
    exact and_congr_right' ((accepts_alternative_array vs xs).trans (witnessedItems_iff xs vs))
  | .object ms, vs => by
    simp only [Witnessed]
    refine accepts_iff_or fun hvs => ?_
    rw [accepts_ofValues hvs (by simp), ← mem_kinds_object]
    exact and_congr_right' ((accepts_alternative_object vs ms).trans (witnessedMembers_iff ms vs))

theorem witnessedItems_iff : (xs vs : List Json) →
    ((∀ x ∈ xs, (ofValues (allItems vs)).accepts x) ↔ WitnessedItems xs vs)
  | [], vs => by simp [WitnessedItems]
  | x :: xs, vs => by
    rw [WitnessedItems, List.forall_mem_cons, accepts_ofValues_iff x, witnessedItems_iff xs]

theorem witnessedMembers_iff : (ms : List (String × Json)) → ∀ vs : List Json,
    ((∀ m ∈ ms, under m.1 (allMembers vs) ≠ [] ∧
      (ofValues (under m.1 (allMembers vs))).accepts m.2) ↔ WitnessedMembers ms vs)
  | [], vs => by simp [WitnessedMembers]
  | (k, x) :: ms, vs => by
    rw [WitnessedMembers, List.forall_mem_cons, witnessedMembers_iff ms, under_ne_nil,
      accepts_ofValues_iff x, and_assoc]

end

end TrafficLens.Schema
