import TrafficLens.Proofs.Schema.Assembly

/-!
# The order of sightings makes no difference

Two lists with the same sightings, in any order and any number, make schemas that differ in the
order of their alternatives only, at every depth (`seeAll_alike`). Folding the sightings in one by
one is not followed here at all. The closed form of either schema has the same alternatives, since
they belong to the kinds of the values, and the alternative of a kind is made of the items or the
members of the values, which are the same on both sides again.
-/

namespace TrafficLens.Schema

open DataType Evidence

mutual

/-- The schemas are equal up to the order of alternatives, at every depth. -/
def Alike : Schema → Schema → Prop
  | ⟨type, nullable, items, properties, oneOf⟩, b =>
    type = b.type ∧ nullable = b.nullable ∧
      (match items, b.items with
       | none, none => True
       | some x, some y => Alike x y
       | _, _ => False) ∧
      (match properties, b.properties with
       | none, none => True
       | some xs, some ys => AlikeProperties xs ys
       | _, _ => False) ∧
      (match oneOf, b.oneOf with
       | none, none => True
       | some xs, some ys => ∃ zs : List Schema, zs.Perm ys ∧ AlikeEach xs zs
       | _, _ => False)
termination_by structural a => a

/-- The properties have the same names, and their schemas are alike. -/
def AlikeProperties : List (String × Schema) → List (String × Schema) → Prop
  | [], ys => ys = []
  | (k, x) :: xs, ys =>
    match ys with
    | [] => False
    | (l, y) :: ys => k = l ∧ Alike x y ∧ AlikeProperties xs ys
termination_by structural a => a

/-- The schemas of two lists are alike one by one. -/
def AlikeEach : List Schema → List Schema → Prop
  | [], ys => ys = []
  | x :: xs, ys =>
    match ys with
    | [] => False
    | y :: ys => Alike x y ∧ AlikeEach xs ys
termination_by structural a => a

end

theorem alikeProperties_of_forall₂ {xs ys : List (String × Schema)}
    (h : List.Forall₂ (fun p q => p.1 = q.1 ∧ Alike p.2 q.2) xs ys) : AlikeProperties xs ys := by
  induction h with
  | nil => rfl
  | cons h _ ih => exact ⟨h.1, h.2, ih⟩

theorem alikeEach_map {ι : Type} {f g : ι → Schema} {is : List ι}
    (h : ∀ i ∈ is, Alike (f i) (g i)) : AlikeEach (is.map f) (is.map g) := by
  induction is with
  | nil => rfl
  | cons i is ih =>
    obtain ⟨hi, his⟩ := List.forall_mem_cons.1 h
    exact ⟨hi, ih his⟩

mutual

theorem Alike.refl : (s : Schema) → Alike s s
  | ⟨type, nullable, items, properties, oneOf⟩ => by
    unfold Alike
    refine ⟨rfl, rfl, ?_, ?_, ?_⟩
    · cases items with
      | none => trivial
      | some x => exact Alike.refl x
    · cases properties with
      | none => trivial
      | some ps => exact alikeProperties_refl ps
    · cases oneOf with
      | none => trivial
      | some ss => exact ⟨ss, .refl ss, alikeEach_refl ss⟩

theorem alikeProperties_refl : (ps : List (String × Schema)) → AlikeProperties ps ps
  | [] => rfl
  | (_, s) :: ps => ⟨rfl, Alike.refl s, alikeProperties_refl ps⟩

theorem alikeEach_refl : (ss : List Schema) → AlikeEach ss ss
  | [] => rfl
  | s :: ss => ⟨Alike.refl s, alikeEach_refl ss⟩

end

theorem Alike.setNullable {a b : Schema} (h : Alike a b) (n : Option Bool) :
    Alike { a with nullable := n } { b with nullable := n } := by
  obtain ⟨type, nullable, items, properties, oneOf⟩ := a
  unfold Alike at h ⊢
  obtain ⟨ht, -, hrest⟩ := h
  exact ⟨ht, rfl, hrest⟩

/-! ## The same values, rearranged -/

/-- Alternatives that are alike, kind by kind, make schemas that are alike. -/
theorem alike_assemble {ks ls : List DataType} (hp : ks.Perm ls) {f g : DataType → Schema}
    (h : ∀ k ∈ ks, Alike (f k) (g k)) (n : Option Bool) (seen : Bool) :
    Alike (assemble n seen (ks.map f)) (assemble n seen (ls.map g)) := by
  rcases ks with _ | ⟨k, _ | ⟨l, rest⟩⟩
  · obtain rfl := hp.nil_eq
    exact Alike.refl _
  · obtain rfl := List.singleton_perm.1 hp
    exact (h k (by simp)).setNullable n
  · have hlen := hp.length_eq
    rcases ls with _ | ⟨k', _ | ⟨l', rest'⟩⟩
    · simp at hlen
    · simp at hlen
    · exact ⟨rfl, rfl, trivial, trivial, _, hp.map g, alikeEach_map h⟩

theorem nullability_congr {vs ws : List Json} (h : ∀ v, v ∈ vs ↔ v ∈ ws) :
    nullability vs = nullability ws := by
  simp [nullability, h]

theorem isEmpty_congr {α : Type} {xs ys : List α} (h : ∀ x, x ∈ xs ↔ x ∈ ys) :
    xs.isEmpty = ys.isEmpty := by
  rw [Bool.eq_iff_iff, List.isEmpty_iff, List.isEmpty_iff, List.eq_nil_iff_forall_not_mem,
    List.eq_nil_iff_forall_not_mem]
  simp only [h]

theorem hasFloat_congr {vs ws : List Json} (h : ∀ v, v ∈ vs ↔ v ∈ ws) :
    hasFloat vs = hasFloat ws := by
  rw [Bool.eq_iff_iff, hasFloat, hasFloat, List.any_eq_true, List.any_eq_true]
  simp only [h]

theorem kinds_perm {vs ws : List Json} (h : ∀ v, v ∈ vs ↔ v ∈ ws) : (kinds vs).Perm (kinds ws) := by
  refine (List.perm_ext_iff_of_nodup (nodup_kinds vs) (nodup_kinds ws)).2 fun k => ?_
  simp only [mem_kinds, h]

theorem mem_allItems_congr {vs ws : List Json} (h : ∀ v, v ∈ vs ↔ v ∈ ws) (x : Json) :
    x ∈ allItems vs ↔ x ∈ allItems ws := by
  simp only [mem_allItems, h]

theorem mem_under_congr {vs ws : List Json} (h : ∀ v, v ∈ vs ↔ v ∈ ws) (k : String) (x : Json) :
    x ∈ under k (allMembers vs) ↔ x ∈ under k (allMembers ws) := by
  simp only [mem_under, mem_allMembers, h]

/-! ## Inside the values -/

theorem sizeOf_lt_of_mem_allItems {vs : List Json} {n : Nat} (h : ∀ v ∈ vs, sizeOf v < n + 1)
    {x : Json} (hx : x ∈ allItems vs) : sizeOf x < n := by
  obtain ⟨xs, hv, hx⟩ := mem_allItems.1 hx
  have hxs := List.sizeOf_lt_of_mem hx
  have hv := h _ hv
  simp only [Json.array.sizeOf_spec] at hv
  omega

theorem sizeOf_lt_of_mem_under {vs : List Json} {n : Nat} (h : ∀ v ∈ vs, sizeOf v < n + 1)
    {k : String} {x : Json} (hx : x ∈ under k (allMembers vs)) : sizeOf x < n := by
  obtain ⟨ms, hv, hx⟩ := mem_allMembers.1 (mem_under.1 hx)
  have hms := List.sizeOf_lt_of_mem hx
  have hv := h _ hv
  simp only [Json.object.sizeOf_spec, Prod.mk.sizeOf_spec] at hv hms
  omega

/-- Properties that are made of the same members are alike, if schemas of the same values are. -/
theorem alikeProperties_mergeMembers {ms ns : List (String × Json)}
    (hmem : ∀ k x, x ∈ under k ms ↔ x ∈ under k ns)
    (halike : ∀ k, Alike (ofValues (under k ms)) (ofValues (under k ns))) :
    AlikeProperties (mergeMembers [] ms) (mergeMembers [] ns) := by
  have hnil : ∀ k, under k ms = [] ↔ under k ns = [] := fun k => by
    rw [← List.isEmpty_iff, ← List.isEmpty_iff, isEmpty_congr (hmem k)]
  refine alikeProperties_of_forall₂ (Dict.forall₂_of_seek?
    (ordered_mergeMembers Dict.ordered_nil ms) (ordered_mergeMembers Dict.ordered_nil ns) ?_ ?_)
  · intro k s hs
    rw [seek?_mergeMembers] at hs ⊢
    split at hs
    · cases hs
    · next hk =>
      obtain rfl := Option.some.inj hs
      exact ⟨_, if_neg ((hnil k).not.1 hk), halike k⟩
  · intro k s hs
    rw [seek?_mergeMembers] at hs ⊢
    split at hs
    · cases hs
    · next hk => exact ⟨_, if_neg ((hnil k).not.2 hk)⟩

/-- The alternatives of a kind are alike, if schemas of the same smaller values are. -/
theorem alike_alternative {n : Nat}
    (ih : ∀ vs ws : List Json, (∀ v ∈ vs, sizeOf v < n) → (∀ v, v ∈ vs ↔ v ∈ ws) →
      Alike (ofValues vs) (ofValues ws))
    {vs ws : List Json} (hsize : ∀ v ∈ vs, sizeOf v < n + 1) (h : ∀ v, v ∈ vs ↔ v ∈ ws)
    (k : DataType) : Alike (alternative vs k) (alternative ws k) := by
  cases k
  case integer => simpa [alternative, hasFloat_congr h] using Alike.refl _
  case number => simpa [alternative, hasFloat_congr h] using Alike.refl _
  case array =>
    unfold alternative Alike
    exact ⟨rfl, rfl, ih _ _ (fun x => sizeOf_lt_of_mem_allItems hsize) (mem_allItems_congr h),
      trivial, trivial⟩
  case object =>
    unfold alternative Alike
    refine ⟨rfl, rfl, trivial, alikeProperties_mergeMembers (mem_under_congr h) ?_, trivial⟩
    exact fun k => ih _ _ (fun x => sizeOf_lt_of_mem_under hsize) (mem_under_congr h k)
  all_goals exact Alike.refl _

/-- Schemas of the same values are alike. The induction is on a bound for the size of the values,
which the values inside them stay below. -/
theorem alike_ofValues (n : Nat) (vs ws : List Json) (hsize : ∀ v ∈ vs, sizeOf v < n)
    (h : ∀ v, v ∈ vs ↔ v ∈ ws) : Alike (ofValues vs) (ofValues ws) := by
  induction n generalizing vs ws with
  | zero =>
    obtain rfl : vs = [] := List.eq_nil_iff_forall_not_mem.2 fun v hv => by simpa using hsize v hv
    obtain rfl : ws = [] := List.eq_nil_iff_forall_not_mem.2 fun v hv => by simpa using (h v).2 hv
    exact Alike.refl _
  | succ n ih =>
    rw [ofValues_eq, ofValues_eq, nullability_congr h, isEmpty_congr h]
    exact alike_assemble (kinds_perm h) (fun k _ => alike_alternative ih hsize h k) _ _

/-! ## Whole runs -/

/-- Sightings of which each list has those of the other make schemas that are alike. -/
theorem alike_of_subset {sightings others : List Sighting} (h : sightings ⊆ others)
    (h' : others ⊆ sightings) : Alike (empty.seeAll sightings) (empty.seeAll others) := by
  have hsame : ∀ x, x ∈ sightings ↔ x ∈ others := fun x => ⟨@h x, @h' x⟩
  have hvalues : ∀ v, v ∈ valuesOf sightings ↔ v ∈ valuesOf others := fun v => by
    rw [mem_valuesOf, mem_valuesOf, hsame]
  rw [seeAll_empty, seeAll_empty, nullability_congr hvalues, isEmpty_congr hsame]
  refine alike_assemble (kinds_perm hvalues) (fun k _ => ?_) _ _
  exact alike_alternative (n := sizeOf (valuesOf sightings)) (fun vs ws => alike_ofValues _ vs ws)
    (fun v hv => Nat.lt_succ_of_lt (List.sizeOf_lt_of_mem hv)) hvalues k

/-- **The order of sightings makes no difference**, and neither does their number: if the same
sightings are on two lists, they make schemas that are equal up to the order of alternatives. -/
theorem seeAll_alike {sightings others : List Sighting} (h : ∀ x, x ∈ sightings ↔ x ∈ others) :
    Alike (empty.seeAll sightings) (empty.seeAll others) :=
  alike_of_subset (fun x => (h x).1) (fun x => (h x).2)

/-- A `null`, a float and a conflict that come early on one list and late on the other. The lists of
alternatives differ. -/
theorem seeAll_alike_nested :
    let float : Json := .number (.float (.zero false))
    let sightings : List Sighting := [.value .null, .value (.array [.int 1, .string "x"]),
      .value (.object [("k", .array [])]), .value (.array [float, .null]), .shapeless]
    let others : List Sighting := [.shapeless, .value (.object [("k", .array [])]),
      .value (.array [float, .null]), .value (.array [.int 1, .string "x"]), .value .null,
      .value (.object [("k", .array [])])]
    (∀ x, x ∈ sightings ↔ x ∈ others) ∧
      Alike (empty.seeAll sightings) (empty.seeAll others) ∧
      empty.seeAll sightings ≠ empty.seeAll others := by
  intro float sightings others
  have h : ∀ x, x ∈ sightings ↔ x ∈ others := fun x => by
    simp only [sightings, others, List.mem_cons]
    tauto
  exact ⟨h, seeAll_alike h, by decide⟩

end TrafficLens.Schema
