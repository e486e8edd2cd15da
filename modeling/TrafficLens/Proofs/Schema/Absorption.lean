import TrafficLens.Proofs.Schema.Routing

/-!
# What a schema has absorbed stays absorbed

`Absorbed v s` says that `v` is part of what the schema `s` describes already: `null` is allowed, or
the branch for `v` has a type that covers it, and items and properties have absorbed its parts. A
value is absorbed once it is folded in (`absorbed_merge`), every later sighting leaves it absorbed
(`Absorbed.see`), an absorbed value is accepted (`Absorbed.accepts`), and folding it in once more
changes nothing (`Absorbed.merge_eq`). Nothing is asked of the schema that the folding starts from.
-/

namespace TrafficLens.Schema

open DataType

/-- The branch for values of the type `a` has a type that covers `a`. -/
def Covers (a : DataType) (s : Schema) : Prop :=
  ∃ p t, branch? a s = some p ∧ p.type = some t ∧ t.join a = some t

mutual

/-- The value is part of what the schema describes. -/
def Absorbed : Json → Schema → Prop
  | .null, s => s.nullable = some true
  | .bool _, s => Covers .boolean s
  | .number (.int _), s => Covers .integer s
  | .number (.float _), s => Covers .number s
  | .string _, s => Covers .string s
  | .array xs, s =>
    ∃ p items, branch? .array s = some p ∧ p.items = some items ∧ AbsorbedItems xs items
  | .object ms, s =>
    ∃ p ps, branch? .object s = some p ∧ p.properties = some ps ∧ AbsorbedMembers ms ps
termination_by structural v => v

/-- All the values are part of what the schema describes. -/
def AbsorbedItems : List Json → Schema → Prop
  | [], _ => True
  | x :: xs, s => Absorbed x s ∧ AbsorbedItems xs s
termination_by structural xs => xs

/-- All the members are part of what the properties describe. -/
def AbsorbedMembers : List (String × Json) → List (String × Schema) → Prop
  | [], _ => True
  | (k, x) :: ms, ps => (∃ s, Dict.seek? k ps = some s ∧ Absorbed x s) ∧ AbsorbedMembers ms ps
termination_by structural ms => ms

end

/-! ## One more sighting -/

theorem mergeItems_eq_foldl (s : Schema) (xs : List Json) : mergeItems s xs = xs.foldl merge s := by
  induction xs generalizing s with
  | nil => simp [mergeItems]
  | cons x xs ih => simp [mergeItems, ih]

/-- Fold one member into properties. -/
def mergeMember (ps : List (String × Schema)) (m : String × Json) : List (String × Schema) :=
  Dict.alter m.1 (fun s => merge (s.getD empty) m.2) ps

theorem mergeMembers_eq_foldl (ps : List (String × Schema)) (ms : List (String × Json)) :
    mergeMembers ps ms = ms.foldl mergeMember ps := by
  induction ms generalizing ps with
  | nil => simp [mergeMembers]
  | cons m ms ih => simp [mergeMembers, mergeMember, ih]

@[simp] theorem place_nullable (v : Json) (s : Schema) : (place v s).nullable = s.nullable := by
  cases ho : s.oneOf with
  | some alternatives => rw [place_of_oneOf_some v ho]
  | none =>
    rw [place_of_oneOf_none v ho, joinAt]
    split <;> simp

theorem branch?_of_isEmpty (a : DataType) {s : Schema} (h : s.isEmpty) : branch? a s = none := by
  simp only [isEmpty, Bool.and_eq_true, Option.isNone_iff_eq_none] at h
  rw [branch?_of_oneOf_none a h.1.2, h.1.1]
  simp

theorem branch?_setNullable (a : DataType) (s : Schema) (n : Option Bool) :
    branch? a { s with nullable := n } = branch? a s := by
  obtain ⟨t, m, i, p, o⟩ := s
  cases o <;> simp [branch?]

/-- A branch after one more sighting is the same, or it was widened by a value of its kind. -/
theorem branch?_see {a : DataType} {s p : Schema} (ha : a ≠ .unknown) (h : branch? a s = some p)
    (x : Sighting) : branch? a (s.see x) = some p ∨
      ∃ w t u, w ≠ .null ∧ a.kind = (of w).kind ∧ p.type = some t ∧ t.join (of w) = some u ∧
        branch? a (s.see x) = some (widen w u p) := by
  have hs : ¬ s.isEmpty := fun he => by simp [branch?_of_isEmpty a he] at h
  cases x with
  | shapeless => exact Or.inl (by simp [see, mergeUnknown, hs, h])
  | value w =>
    by_cases hw : w = .null
    · subst hw
      exact Or.inl (by simp [see, merge, mergeNull, hs, branch?_setNullable, h])
    · simp only [see, merge_eq_place hw]
      by_cases hk : a.kind = (of w).kind
      · obtain ⟨t, u, ht, hu, hb⟩ := branch?_place_of_kind hw hk s h
        exact Or.inr ⟨w, t, u, hw, hk, ht, hu, hb⟩
      · exact Or.inl (branch?_place_of_ne hw ha hk s h)

theorem nullable_see {s : Schema} (h : s.nullable = some true) (x : Sighting) :
    (s.see x).nullable = some true := by
  have hs : ¬ s.isEmpty := by simp [isEmpty, h]
  cases x with
  | shapeless => simp [see, mergeUnknown, hs, h]
  | value w =>
    by_cases hw : w = .null
    · subst hw
      simp [see, merge, mergeNull, hs]
    · simp [see, merge_eq_place hw, h]

theorem Covers.see {a : DataType} {s : Schema} (ha : a ≠ .unknown) (h : Covers a s)
    (x : Sighting) : Covers a (s.see x) := by
  obtain ⟨p, t, hp, ht, hc⟩ := h
  rcases branch?_see ha hp x with h' | ⟨w, t', u, hw, hk, ht', hu, h'⟩
  · exact ⟨p, t, h', ht, hc⟩
  · obtain rfl : t = t' := Option.some.inj (ht.symm.trans ht')
    exact ⟨_, u, h', by simp, join_covers ha hk hc hu⟩

/-- The property is kept when more items are folded in. -/
theorem mergeItems_induction {P : Schema → Prop} (h : ∀ s x, P s → P (merge s x)) {s : Schema}
    (hs : P s) (xs : List Json) : P (mergeItems s xs) := by
  rw [mergeItems_eq_foldl]
  induction xs generalizing s with
  | nil => exact hs
  | cons x xs ih => exact ih (h s x hs)

/-- The property is kept when more members are folded in. -/
theorem mergeMembers_induction {P : List (String × Schema) → Prop}
    (h : ∀ ps m, P ps → P (mergeMember ps m)) {ps : List (String × Schema)} (hps : P ps)
    (ms : List (String × Json)) : P (mergeMembers ps ms) := by
  rw [mergeMembers_eq_foldl]
  induction ms generalizing ps with
  | nil => exact hps
  | cons m ms ih => exact ih (h ps m hps)

mutual

/-- **What is absorbed stays absorbed**, whatever is seen next. -/
theorem Absorbed.see : (v : Json) → ∀ {s : Schema}, Absorbed v s → ∀ x, Absorbed v (s.see x)
  | .null, s, h, x => by
    simp only [Absorbed] at h ⊢
    exact nullable_see h x
  | .bool _, s, h, x => by
    simp only [Absorbed] at h ⊢
    exact h.see (by decide) x
  | .number (.int _), s, h, x => by
    simp only [Absorbed] at h ⊢
    exact h.see (by decide) x
  | .number (.float _), s, h, x => by
    simp only [Absorbed] at h ⊢
    exact h.see (by decide) x
  | .string _, s, h, x => by
    simp only [Absorbed] at h ⊢
    exact h.see (by decide) x
  | .array xs, s, h, x => by
    simp only [Absorbed] at h ⊢
    obtain ⟨p, items, hp, hi, hxs⟩ := h
    rcases branch?_see (by decide) hp x with h' | ⟨w, t, u, hw, hk, -, -, h'⟩
    · exact ⟨p, items, h', hi, hxs⟩
    · -- only arrays are of the kind of arrays
      obtain ⟨ys, rfl⟩ : ∃ ys, w = .array ys := by
        rcases w with _ | _ | (_ | _) | _ | ys | _ <;> simp_all [of, kind]
      refine ⟨_, mergeItems items ys, h', by simp only [widen, hi, Option.getD_some], ?_⟩
      exact mergeItems_induction (P := AbsorbedItems xs)
        (fun s y hs => AbsorbedItems.see xs hs (.value y)) hxs ys
  | .object ms, s, h, x => by
    simp only [Absorbed] at h ⊢
    obtain ⟨p, ps, hp, hps, hms⟩ := h
    rcases branch?_see (by decide) hp x with h' | ⟨w, t, u, hw, hk, -, -, h'⟩
    · exact ⟨p, ps, h', hps, hms⟩
    · obtain ⟨ns, rfl⟩ : ∃ ns, w = .object ns := by
        rcases w with _ | _ | (_ | _) | _ | _ | ns <;> simp_all [of, kind]
      refine ⟨_, mergeMembers ps ns, h', by simp only [widen, hps, Option.getD_some], ?_⟩
      exact mergeMembers_induction (P := AbsorbedMembers ms)
        (fun ps n hps => AbsorbedMembers.merge ms hps n) hms ns

theorem AbsorbedItems.see : (xs : List Json) → ∀ {s : Schema}, AbsorbedItems xs s →
    ∀ x, AbsorbedItems xs (s.see x)
  | [], s, _, x => by simp [AbsorbedItems]
  | v :: xs, s, h, x => by
    simp only [AbsorbedItems] at h ⊢
    exact ⟨Absorbed.see v h.1 x, AbsorbedItems.see xs h.2 x⟩

theorem AbsorbedMembers.merge : (ms : List (String × Json)) → ∀ {ps : List (String × Schema)},
    AbsorbedMembers ms ps → ∀ n, AbsorbedMembers ms (mergeMember ps n)
  | [], ps, _, n => by simp [AbsorbedMembers]
  | (k, v) :: ms, ps, h, n => by
    simp only [AbsorbedMembers] at h ⊢
    obtain ⟨⟨s, hs, hv⟩, hms⟩ := h
    refine ⟨?_, AbsorbedMembers.merge ms hms n⟩
    by_cases hk : k = n.1
    · subst hk
      refine ⟨_, Dict.seek?_alter_self _ _ _, ?_⟩
      rw [hs]
      exact Absorbed.see v hv (.value n.2)
    · exact ⟨s, by rw [mergeMember, Dict.seek?_alter_of_ne hk, hs], hv⟩

end

theorem Absorbed.seeAll {v : Json} {s : Schema} (h : Absorbed v s) (sightings : List Sighting) :
    Absorbed v (s.seeAll sightings) := by
  induction sightings generalizing s with
  | nil => exact h
  | cons x rest ih => exact ih (Absorbed.see v h x)

/-! ## A value that is folded in -/

theorem covers_merge {v : Json} (hv : v ≠ .null) (s : Schema) : Covers (of v) (merge s v) := by
  rw [merge_eq_place hv]
  obtain ⟨t, p, ht, -, h⟩ := exists_branch?_place hv s
  exact ⟨_, t, h, by simp, (join_eq_some (of_ne_unknown hv) ht).2⟩

mutual

/-- **A value is absorbed once it is folded in.** -/
theorem absorbed_merge : (v : Json) → ∀ s, Absorbed v (merge s v)
  | .null, s => by
    simp only [Absorbed, merge, mergeNull]
    split <;> rfl
  | .bool b, s => by
    simp only [Absorbed]
    exact covers_merge (v := .bool b) (by simp) s
  | .number (.int n), s => by
    simp only [Absorbed]
    exact covers_merge (v := .number (.int n)) (by simp) s
  | .number (.float x), s => by
    simp only [Absorbed]
    exact covers_merge (v := .number (.float x)) (by simp) s
  | .string t, s => by
    simp only [Absorbed]
    exact covers_merge (v := .string t) (by simp) s
  | .array xs, s => by
    rw [merge_eq_place (by simp)]
    obtain ⟨t, p, -, -, h⟩ := exists_branch?_place (v := .array xs) (by simp) s
    simp only [Absorbed]
    exact ⟨_, _, h, rfl, absorbedItems_mergeItems xs _⟩
  | .object ms, s => by
    rw [merge_eq_place (by simp)]
    obtain ⟨t, p, -, -, h⟩ := exists_branch?_place (v := .object ms) (by simp) s
    simp only [Absorbed]
    exact ⟨_, _, h, rfl, absorbedMembers_mergeMembers ms _⟩

theorem absorbedItems_mergeItems : (xs : List Json) → ∀ s, AbsorbedItems xs (mergeItems s xs)
  | [], s => by simp [AbsorbedItems]
  | x :: xs, s => by
    simp only [AbsorbedItems, mergeItems]
    refine ⟨?_, absorbedItems_mergeItems xs _⟩
    exact mergeItems_induction (P := Absorbed x) (fun s y hs => Absorbed.see x hs (.value y))
      (absorbed_merge x s) xs

theorem absorbedMembers_mergeMembers : (ms : List (String × Json)) → ∀ ps,
    AbsorbedMembers ms (mergeMembers ps ms)
  | [], ps => by simp [AbsorbedMembers]
  | (k, x) :: ms, ps => by
    have hone : AbsorbedMembers [(k, x)] (mergeMember ps (k, x)) := by
      simp only [AbsorbedMembers, and_true]
      exact ⟨_, Dict.seek?_alter_self _ _ _, absorbed_merge x _⟩
    have hall : AbsorbedMembers [(k, x)] (mergeMembers (mergeMember ps (k, x)) ms) :=
      mergeMembers_induction (P := AbsorbedMembers [(k, x)])
        (fun ps n hps => AbsorbedMembers.merge _ hps n) hone ms
    simp only [AbsorbedMembers, and_true] at hall
    simp only [AbsorbedMembers, mergeMembers]
    exact ⟨hall, absorbedMembers_mergeMembers ms _⟩

end

/-! ## A value that was absorbed -/

mutual

/-- A value goes nowhere but to its branch. -/
theorem place_eq_self {v : Json} (hv : v ≠ .null) : (s : Schema) → ∀ {p : Schema} {t : DataType},
    branch? (of v) s = some p → p.type = some t → t.join (of v) = some t → widen v t p = p →
      place v s = s
  | ⟨type, nullable, items, properties, some alternatives⟩, p, t, hp, ht, hj, hw => by
    rw [branch?_of_oneOf_some _ rfl] at hp
    rw [place_of_oneOf_some v rfl, placeIn_eq_self hv alternatives hp ht hj hw]
  | ⟨type, nullable, items, properties, none⟩, p, t, hp, ht, hj, hw => by
    set s : Schema := ⟨type, nullable, items, properties, none⟩
    rw [branch?_of_oneOf_none _ rfl] at hp
    obtain ⟨-, rfl⟩ : s.type.map kind = some (of v).kind ∧ { s with nullable := none } = p := by
      simpa using hp
    rw [place_of_oneOf_none v rfl, joinAt_of_join (s := s) ht hj]
    calc widen v t s = { widen v t { s with nullable := none } with nullable := s.nullable } := by
          rw [← widen_setNullable]
      _ = s := by rw [hw]

theorem placeIn_eq_self {v : Json} (hv : v ≠ .null) : (ss : List Schema) →
    ∀ {p : Schema} {t : DataType}, branchIn? (of v) ss = some p → p.type = some t →
      t.join (of v) = some t → widen v t p = p → placeIn v ss = ss
  | [], p, t, hp, _, _, _ => by simp at hp
  | s :: rest, p, t, hp, ht, hj, hw => by
    rw [branchIn?_cons] at hp
    rw [placeIn_cons]
    split at hp
    · next h => rw [if_pos h, place_eq_self hv s hp ht hj hw]
    · next h => rw [if_neg h, placeIn_eq_self hv rest hp ht hj hw]

end

theorem merge_eq_self_of_covers {v : Json} (hv : v ≠ .null) {s : Schema} (h : Covers (of v) s)
    (hw : ∀ t p, branch? (of v) s = some p → p.type = some t → widen v t p = p) :
    merge s v = s := by
  obtain ⟨p, t, hp, ht, hj⟩ := h
  rw [merge_eq_place hv, place_eq_self hv s hp ht hj (hw t p hp ht)]

theorem setType_eq_self {s : Schema} {t : DataType} (h : s.type = some t) :
    { s with type := some t } = s := by
  obtain ⟨type, nullable, items, properties, oneOf⟩ := s
  obtain rfl : type = some t := h
  rfl

/-- A branch covers the type of its kind, if there is only one. -/
theorem covers_of_branch? {a : DataType} {s p : Schema}
    (ha : ∀ t : DataType, t.kind = a.kind → t = a) (h : branch? a s = some p) : Covers a s := by
  obtain ⟨t, ht, htk⟩ := Option.map_eq_some_iff.1 (branch?_type s h).1
  obtain rfl := ha t htk
  exact ⟨p, t, h, ht, by simp [join]⟩

theorem kind_eq_array (t : DataType) (h : t.kind = kind .array) : t = .array := by
  cases t <;> simp_all [kind]

theorem kind_eq_object (t : DataType) (h : t.kind = kind .object) : t = .object := by
  cases t <;> simp_all [kind]

mutual

/-- **Folding in what is absorbed changes nothing.** -/
theorem Absorbed.merge_eq : (v : Json) → ∀ {s : Schema}, Absorbed v s → merge s v = s
  | .null, s, h => by
    simp only [Absorbed] at h
    have hs : ¬ s.isEmpty := by simp [isEmpty, h]
    obtain ⟨type, nullable, items, properties, oneOf⟩ := s
    obtain rfl : nullable = some true := h
    rw [merge, mergeNull, if_neg hs]
  | .bool b, s, h => by
    simp only [Absorbed] at h
    exact merge_eq_self_of_covers (v := .bool b) (by simp) h fun t p _ ht => setType_eq_self ht
  | .number (.int n), s, h => by
    simp only [Absorbed] at h
    exact merge_eq_self_of_covers (v := .number (.int n)) (by simp) h
      fun t p _ ht => setType_eq_self ht
  | .number (.float x), s, h => by
    simp only [Absorbed] at h
    exact merge_eq_self_of_covers (v := .number (.float x)) (by simp) h
      fun t p _ ht => setType_eq_self ht
  | .string r, s, h => by
    simp only [Absorbed] at h
    exact merge_eq_self_of_covers (v := .string r) (by simp) h
      fun t p _ ht => setType_eq_self ht
  | .array xs, s, h => by
    simp only [Absorbed] at h
    obtain ⟨p, items, hp, hi, hxs⟩ := h
    refine merge_eq_self_of_covers (v := .array xs) (by simp)
      (covers_of_branch? kind_eq_array hp) fun t q hq ht => ?_
    obtain rfl : p = q := Option.some.inj (hp.symm.trans hq)
    have ho := (branch?_type s hp).2.1
    obtain ⟨type, nullable, _, properties, oneOf⟩ := p
    simp_all [widen, AbsorbedItems.mergeItems_eq xs hxs]
  | .object ms, s, h => by
    simp only [Absorbed] at h
    obtain ⟨p, ps, hp, hps, hms⟩ := h
    refine merge_eq_self_of_covers (v := .object ms) (by simp)
      (covers_of_branch? kind_eq_object hp) fun t q hq ht => ?_
    obtain rfl : p = q := Option.some.inj (hp.symm.trans hq)
    have ho := (branch?_type s hp).2.1
    obtain ⟨type, nullable, items, _, oneOf⟩ := p
    simp_all [widen, AbsorbedMembers.mergeMembers_eq ms hms]

theorem AbsorbedItems.mergeItems_eq : (xs : List Json) → ∀ {s : Schema}, AbsorbedItems xs s →
    mergeItems s xs = s
  | [], s, _ => by simp [mergeItems]
  | x :: xs, s, h => by
    simp only [AbsorbedItems] at h
    rw [mergeItems, Absorbed.merge_eq x h.1, AbsorbedItems.mergeItems_eq xs h.2]

theorem AbsorbedMembers.mergeMembers_eq : (ms : List (String × Json)) →
    ∀ {ps : List (String × Schema)}, AbsorbedMembers ms ps → mergeMembers ps ms = ps
  | [], ps, _ => by simp [mergeMembers]
  | (k, x) :: ms, ps, h => by
    simp only [AbsorbedMembers] at h
    obtain ⟨⟨s, hs, hx⟩, hms⟩ := h
    rw [mergeMembers, Dict.alter_eq_self hs (Absorbed.merge_eq x hx),
      AbsorbedMembers.mergeMembers_eq ms hms]

end

/-! ## Acceptance -/

theorem propertyAccepts_iff {ps : List (String × Schema)} {key : String} {v : Json} :
    propertyAccepts ps key v ↔ ∃ s, Dict.find? key ps = some s ∧ s.accepts v := by
  induction ps with
  | nil => simp [propertyAccepts]
  | cons p ps ih =>
    obtain ⟨k, t⟩ := p
    rw [Dict.find?_cons, propertyAccepts]
    split
    · simp
    · exact ih

/-- A schema with alternatives accepts a value that is not `null` if one of them does. -/
theorem accepts_of_oneOf_some {s : Schema} {alternatives : List Schema} {v : Json} (hv : v ≠ .null)
    (ho : s.oneOf = some alternatives) : s.accepts v = anyAccepts alternatives v := by
  obtain ⟨type, nullable, items, properties, oneOf⟩ := s
  obtain rfl : oneOf = some alternatives := ho
  cases v <;> simp_all [accepts, Json.isNull]

/-- Whether a schema of some type accepts `null` does not count for other values. -/
theorem accepts_setNullable {s : Schema} {v : Json} (hv : v ≠ .null) (ht : s.type ≠ none)
    (n : Option Bool) : accepts { s with nullable := n } v = s.accepts v := by
  obtain ⟨type, nullable, items, properties, oneOf⟩ := s
  obtain ⟨t, rfl⟩ := Option.ne_none_iff_exists'.1 ht
  unfold accepts
  cases v <;> simp_all [Json.isNull]

mutual

/-- A schema accepts what its branch accepts. -/
theorem accepts_of_branch? {v : Json} (hv : v ≠ .null) : (s : Schema) → ∀ {p : Schema},
    branch? (of v) s = some p → p.accepts v → s.accepts v
  | ⟨type, nullable, items, properties, some alternatives⟩, p, hp, h => by
    rw [branch?_of_oneOf_some _ rfl] at hp
    rw [accepts_of_oneOf_some hv rfl]
    exact anyAccepts_of_branchIn? hv alternatives hp h
  | ⟨type, nullable, items, properties, none⟩, p, hp, h => by
    set s : Schema := ⟨type, nullable, items, properties, none⟩
    rw [branch?_of_oneOf_none _ rfl] at hp
    obtain ⟨hk, rfl⟩ : s.type.map kind = some (of v).kind ∧ { s with nullable := none } = p := by
      simpa using hp
    rwa [accepts_setNullable hv fun ht => by simp [ht] at hk] at h

theorem anyAccepts_of_branchIn? {v : Json} (hv : v ≠ .null) : (ss : List Schema) →
    ∀ {p : Schema}, branchIn? (of v) ss = some p → p.accepts v → anyAccepts ss v
  | [], p, hp, _ => by simp at hp
  | s :: rest, p, hp, h => by
    rw [branchIn?_cons] at hp
    rw [anyAccepts, Bool.or_eq_true]
    split at hp
    · exact Or.inl (accepts_of_branch? hv s hp h)
    · exact Or.inr (anyAccepts_of_branchIn? hv rest hp h)

end

/-- A type that covers a value without parts accepts it. -/
theorem accepts_scalar {s : Schema} {t : DataType} {v : Json} (hv : v ≠ .null)
    (hxs : of v ≠ .array) (hms : of v ≠ .object) (ho : s.oneOf = none) (ht : s.type = some t)
    (hj : t.join (of v) = some t) : s.accepts v := by
  obtain ⟨type, nullable, items, properties, oneOf⟩ := s
  obtain rfl : oneOf = none := ho
  obtain rfl : type = some t := ht
  rcases v with _ | _ | (_ | _) | _ | _ | _ <;> simp_all [of] <;> cases t <;>
    simp_all [accepts, join, of, Json.isNull]

theorem Covers.accepts {s : Schema} {v : Json} (hv : v ≠ .null) (hxs : of v ≠ .array)
    (hms : of v ≠ .object) (h : Covers (of v) s) : s.accepts v := by
  obtain ⟨p, t, hp, ht, hj⟩ := h
  exact accepts_of_branch? hv s hp (accepts_scalar hv hxs hms (branch?_type s hp).2.1 ht hj)

mutual

/-- **What is absorbed is accepted.** -/
theorem Absorbed.accepts : (v : Json) → ∀ {s : Schema}, Absorbed v s → s.accepts v
  | .null, s, h => by
    simp only [Absorbed] at h
    obtain ⟨type, nullable, items, properties, oneOf⟩ := s
    obtain rfl : nullable = some true := h
    unfold Schema.accepts
    simp [Json.isNull]
  | .bool b, s, h => by
    simp only [Absorbed] at h
    exact h.accepts (v := .bool b) (by simp) (by simp [of]) (by simp [of])
  | .number (.int n), s, h => by
    simp only [Absorbed] at h
    exact h.accepts (v := .number (.int n)) (by simp) (by simp [of]) (by simp [of])
  | .number (.float x), s, h => by
    simp only [Absorbed] at h
    exact h.accepts (v := .number (.float x)) (by simp) (by simp [of]) (by simp [of])
  | .string r, s, h => by
    simp only [Absorbed] at h
    exact h.accepts (v := .string r) (by simp) (by simp [of]) (by simp [of])
  | .array xs, s, h => by
    simp only [Absorbed] at h
    obtain ⟨p, items, hp, hi, hxs⟩ := h
    obtain ⟨q, t, hq, ht, -⟩ := covers_of_branch? kind_eq_array hp
    refine accepts_of_branch? (v := .array xs) (by simp) s hp ?_
    have hall := AbsorbedItems.accepts xs hxs
    have htype := (branch?_type s hp).1
    have ho := (branch?_type s hp).2.1
    obtain ⟨type, nullable, _, properties, oneOf⟩ := p
    obtain ⟨u, rfl, hu⟩ := Option.map_eq_some_iff.1 htype
    obtain rfl := kind_eq_array u hu
    simp_all [Schema.accepts, Json.isNull]
  | .object ms, s, h => by
    simp only [Absorbed] at h
    obtain ⟨p, ps, hp, hps, hms⟩ := h
    refine accepts_of_branch? (v := .object ms) (by simp) s hp ?_
    have hall := AbsorbedMembers.accepts ms hms
    have htype := (branch?_type s hp).1
    have ho := (branch?_type s hp).2.1
    obtain ⟨type, nullable, items, _, oneOf⟩ := p
    obtain ⟨u, rfl, hu⟩ := Option.map_eq_some_iff.1 htype
    obtain rfl := kind_eq_object u hu
    simp_all [Schema.accepts, Json.isNull]

theorem AbsorbedItems.accepts : (xs : List Json) → ∀ {s : Schema}, AbsorbedItems xs s →
    ∀ x ∈ xs, s.accepts x
  | [], s, _, x, hx => by simp at hx
  | v :: xs, s, h, x, hx => by
    simp only [AbsorbedItems] at h
    rcases List.mem_cons.1 hx with hx | hx
    · rw [hx]
      exact Absorbed.accepts v h.1
    · exact AbsorbedItems.accepts xs h.2 x hx

theorem AbsorbedMembers.accepts : (ms : List (String × Json)) → ∀ {ps : List (String × Schema)},
    AbsorbedMembers ms ps → ∀ k x, (k, x) ∈ ms → propertyAccepts ps k x
  | [], ps, _, k, x, hx => by simp at hx
  | (l, v) :: ms, ps, h, k, x, hx => by
    simp only [AbsorbedMembers] at h
    obtain ⟨⟨s, hs, hv⟩, hms⟩ := h
    rcases List.mem_cons.1 hx with hx | hx
    · rw [(Prod.mk.inj hx).1, (Prod.mk.inj hx).2]
      exact propertyAccepts_iff.2 ⟨s, Dict.find?_of_seek? hs, Absorbed.accepts v hv⟩
    · exact AbsorbedMembers.accepts ms hms k x hx

end

/-! ## What a schema holds -/

theorem Absorbed.not_isEmpty {v : Json} {s : Schema} (h : Absorbed v s) : ¬ s.isEmpty := by
  intro he
  have hnone : ∀ a, branch? a s = none := fun a => branch?_of_isEmpty a he
  rcases v with _ | _ | (_ | _) | _ | _ | _
  · simp only [Absorbed] at h
    simp [isEmpty, h] at he
  all_goals
    simp only [Absorbed, Covers, hnone] at h
    simp at h

/-- A schema that has seen anything is not empty. -/
theorem not_isEmpty_see (s : Schema) (x : Sighting) : ¬ (s.see x).isEmpty := by
  cases x with
  | value v => exact (absorbed_merge v s).not_isEmpty
  | shapeless =>
    by_cases h : s.isEmpty
    · rw [see, mergeUnknown, if_pos h]
      simp [isEmpty]
    · rwa [see, mergeUnknown, if_neg h]

/-! ## Whole runs -/

theorem Absorbed.of_mem {v : Json} {sightings : List Sighting} (h : .value v ∈ sightings)
    (s : Schema) : Absorbed v (s.seeAll sightings) := by
  induction sightings generalizing s with
  | nil => simp at h
  | cons x rest ih =>
    rcases List.mem_cons.1 h with rfl | h
    · exact (absorbed_merge v s).seeAll rest
    · exact ih h (s.see x)

/-- **A schema absorbs what it has seen**: after any list of sightings, from any schema, every value
among them is accepted, and folding it in once more changes nothing. -/
theorem seeAll_absorbs (s : Schema) (sightings : List Sighting) (v : Json)
    (h : .value v ∈ sightings) :
    (s.seeAll sightings).accepts v ∧ merge (s.seeAll sightings) v = s.seeAll sightings :=
  ⟨(Absorbed.of_mem h s).accepts, (Absorbed.of_mem h s).merge_eq⟩

/-- A list of an integer, to a schema that no folding makes, before a conflict, a `null` and a
float. -/
theorem seeAll_absorbs_nested :
    let alternatives : List Schema :=
      [{ properties := some [("a", empty)] }, { type := some .unknown, oneOf := some [] }]
    let s : Schema :=
      { type := some .string, nullable := some false, oneOf := some alternatives }
    let v : Json := .array [.int 1, .object [("k", .null)]]
    let sightings : List Sighting := [.shapeless, .value v, .value (.string "x"), .value .null,
      .value (.array [.number (.float (.zero false)), .array []]), .value (.bool true)]
    .value v ∈ sightings ∧ (s.seeAll sightings).accepts v ∧
      merge (s.seeAll sightings) v = s.seeAll sightings :=
  ⟨by decide, seeAll_absorbs _ _ _ (by decide)⟩

end TrafficLens.Schema

namespace TrafficLens

/-! ## Sightings -/

/-- The sighting is part of what the schema describes. -/
def Sighting.HeldBy (s : Schema) : Sighting → Prop
  | .value v => Schema.Absorbed v s
  | .shapeless => ¬ s.isEmpty

namespace Sighting

variable {s : Schema} {x : Sighting}

theorem heldBy_see (s : Schema) (x : Sighting) : x.HeldBy (s.see x) := by
  cases x with
  | value v => exact Schema.absorbed_merge v s
  | shapeless => exact Schema.not_isEmpty_see s .shapeless

theorem HeldBy.see (h : x.HeldBy s) (y : Sighting) : x.HeldBy (s.see y) := by
  cases x with
  | value v => exact Schema.Absorbed.see v h y
  | shapeless => exact Schema.not_isEmpty_see s y

theorem HeldBy.see_eq (h : x.HeldBy s) : s.see x = s := by
  cases x with
  | value v => exact Schema.Absorbed.merge_eq v h
  | shapeless => exact if_neg h

end Sighting

end TrafficLens
