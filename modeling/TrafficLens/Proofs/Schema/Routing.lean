import TrafficLens.Proofs.Dict
import TrafficLens.Schema.Merge

/-!
# Where a value goes in a schema

A value that is folded into a schema changes one part of it, the *branch* for values of its kind:
the schema itself, or the alternative that takes the value, however deep alternatives are nested.
`branch?` finds that part, and three statements say all that folding does to branches.

* The value has a branch afterwards, which was widened by it (`exists_branch?_place`).
* A branch for values of its kind is widened by it (`branch?_place_of_kind`).
* All other branches stay as they are (`branch?_place_of_ne`).

They hold for every schema, also for one that no folding makes: with alternatives inside
alternatives, with alternatives of equal types or of the unknown type, or with a type beside the
alternatives.
-/

namespace TrafficLens

namespace DataType

/-- The kind of a type. Types go together if they are of one kind, and integers are numbers. -/
def kind : DataType → DataType
  | .integer => .number
  | t => t

@[simp] theorem kind_eq_unknown {a : DataType} : a.kind = .unknown ↔ a = .unknown := by
  cases a <;> simp [kind]

theorem of_ne_unknown {v : Json} (h : v ≠ .null) : of v ≠ .unknown := by
  rcases v with _ | _ | (_ | _) | _ | _ | _ <;> simp_all [of]

theorem join_isSome_iff {t a : DataType} (ha : a ≠ .unknown) :
    (t.join a).isSome ↔ t = .unknown ∨ t.kind = a.kind := by
  cases t <;> cases a <;> simp_all [join, kind]

/-- The joined type is of the kind of the type that was joined, and covers it. -/
theorem join_eq_some {t a u : DataType} (ha : a ≠ .unknown) (h : t.join a = some u) :
    u.kind = a.kind ∧ u.join a = some u := by
  cases t <;> cases a <;> simp_all [join, kind] <;> subst h <;> simp

/-- A type that covers another still covers it after it was joined with a third one of their
kind. -/
theorem join_covers {t a b u : DataType} (ha : a ≠ .unknown) (hk : a.kind = b.kind)
    (hc : t.join a = some t) (hu : t.join b = some u) : u.join a = some u := by
  cases a <;> cases b <;> cases t <;> simp_all [join, kind] <;> subst hu <;> simp

end DataType

/-- One thing that is seen at a place. -/
inductive Sighting where
  | value (v : Json)
  /-- Data of no recognizable shape. -/
  | shapeless
deriving DecidableEq

namespace Schema

open DataType

/-- The schema after one more sighting. -/
def see (s : Schema) : Sighting → Schema
  | .value v => merge s v
  | .shapeless => mergeUnknown s

/-- The schema after a list of sightings. -/
def seeAll (s : Schema) (sightings : List Sighting) : Schema := sightings.foldl see s

/-! ## Widening one branch -/

/-- What a value makes of a schema without alternatives, the types of both joined to `t`. -/
def widen (v : Json) (t : DataType) (s : Schema) : Schema :=
  match v with
  | .array xs =>
    { s with type := some t, items := some (mergeItems (s.items.getD empty) xs), oneOf := none }
  | .object ms =>
    { s with type := some t, properties := some (mergeMembers (s.properties.getD []) ms),
             oneOf := none }
  | _ => { s with type := some t }

@[simp] theorem widen_type (v : Json) (t : DataType) (s : Schema) :
    (widen v t s).type = some t := by
  cases v <;> rfl

@[simp] theorem widen_nullable (v : Json) (t : DataType) (s : Schema) :
    (widen v t s).nullable = s.nullable := by
  cases v <;> rfl

theorem widen_oneOf (v : Json) (t : DataType) {s : Schema} (h : s.oneOf = none) :
    (widen v t s).oneOf = none := by
  cases v <;> simp [widen, h]

/-- Widening has nothing to do with `null`. -/
theorem widen_setNullable (v : Json) (t : DataType) (s : Schema) (n : Option Bool) :
    widen v t { s with nullable := n } = { widen v t s with nullable := n } := by
  cases v <;> rfl

/-- The schema after a value that is not `null`. -/
def place (v : Json) (s : Schema) : Schema := routeTo (of v) (joinAt (of v) (widen v)) s

/-- The alternatives after a value that is not `null`. -/
def placeIn (v : Json) (alternatives : List Schema) : List Schema :=
  routeList (of v) (joinAt (of v) (widen v)) alternatives

theorem joinAt_of_type_none {a : DataType} {f : DataType → Schema → Schema} {s : Schema}
    (h : s.type = none) : joinAt a f s = f a s := by
  simp [joinAt, h]

theorem joinAt_of_join {a t u : DataType} {f : DataType → Schema → Schema} {s : Schema}
    (h : s.type = some t) (hu : t.join a = some u) : joinAt a f s = f u s := by
  simp [joinAt, h, hu]

theorem joinAt_of_conflict {a t : DataType} {f : DataType → Schema → Schema} {s : Schema}
    (h : s.type = some t) (hu : t.join a = none) :
    joinAt a f s =
      { oneOf := some [{ s with nullable := none }, f a empty], nullable := s.nullable } := by
  simp [joinAt, h, hu]

/-- Only what the change does at the types that can come out of a join counts. -/
theorem joinAt_congr {a : DataType} {f g : DataType → Schema → Schema} (ha : a ≠ .unknown)
    (h : ∀ u s, u.kind = a.kind → f u s = g u s) (s : Schema) : joinAt a f s = joinAt a g s := by
  cases ht : s.type with
  | none => rw [joinAt_of_type_none ht, joinAt_of_type_none ht, h a s rfl]
  | some t =>
    cases hu : t.join a with
    | none => rw [joinAt_of_conflict ht hu, joinAt_of_conflict ht hu, h a empty rfl]
    | some u =>
      rw [joinAt_of_join ht hu, joinAt_of_join ht hu, h u s (join_eq_some ha hu).1]

/-- Folding a value that is not `null` routes it to its branch and widens that. -/
theorem merge_eq_place {v : Json} (hv : v ≠ .null) (s : Schema) : merge s v = place v s := by
  rcases v with _ | b | (n | x) | t | xs | ms
  · exact absurd rfl hv
  · rfl
  · rfl
  · rfl
  · rfl
  · have hf : joinAt .array (fun _ s =>
        { s with type := some .array, items := some (mergeItems (s.items.getD empty) xs),
                 oneOf := none }) = joinAt .array (widen (.array xs)) :=
      funext <| joinAt_congr (by decide) fun u s hu => by
        cases u <;> simp_all [kind, widen]
    simp only [merge, place, of, hf]
  · have hf : joinAt .object (fun _ s =>
        { s with type := some .object, properties := some (mergeMembers (s.properties.getD []) ms),
                 oneOf := none }) = joinAt .object (widen (.object ms)) :=
      funext <| joinAt_congr (by decide) fun u s hu => by
        cases u <;> simp_all [kind, widen]
    simp only [merge, place, of, hf]

theorem place_of_oneOf_none (v : Json) {s : Schema} (h : s.oneOf = none) :
    place v s = joinAt (of v) (widen v) s := by
  obtain ⟨t, n, i, p, o⟩ := s
  obtain rfl : o = none := h
  simp [place, routeTo]

theorem place_of_oneOf_some (v : Json) {s : Schema} {alternatives : List Schema}
    (h : s.oneOf = some alternatives) :
    place v s = { s with oneOf := some (placeIn v alternatives) } := by
  obtain ⟨t, n, i, p, o⟩ := s
  obtain rfl : o = some alternatives := h
  simp [place, placeIn, routeTo]

@[simp] theorem placeIn_nil (v : Json) : placeIn v [] = [widen v (of v) empty] := by
  simp [placeIn, routeList, joinAt_of_type_none (s := empty) rfl]

theorem placeIn_cons (v : Json) (s : Schema) (rest : List Schema) :
    placeIn v (s :: rest) =
      if s.takes (of v) then place v s :: rest else s :: placeIn v rest := by
  simp [placeIn, place, routeList]

theorem takes_iff {a : DataType} (ha : a ≠ .unknown) (s : Schema) :
    s.takes a ↔ s.type = some .unknown ∨ s.type.map kind = some a.kind := by
  cases h : s.type with
  | none => simp [takes, h]
  | some t => simpa [takes, h] using join_isSome_iff ha

theorem exists_join_of_takes {a : DataType} {s : Schema} (h : s.takes a) :
    ∃ t u, s.type = some t ∧ t.join a = some u := by
  obtain ⟨u, hu⟩ := Option.isSome_iff_exists.1 h
  obtain ⟨t, ht, hu⟩ := Option.bind_eq_some_iff.1 hu
  exact ⟨t, u, ht, hu⟩

/-- A schema that takes a value still takes it afterwards. -/
theorem takes_place {v : Json} (hv : v ≠ .null) {s : Schema} (h : s.takes (of v)) :
    (place v s).takes (of v) := by
  cases ho : s.oneOf with
  | some alternatives => simpa [place_of_oneOf_some v ho, takes] using h
  | none =>
    obtain ⟨t, u, ht, hu⟩ := exists_join_of_takes h
    have hu' := (join_eq_some (of_ne_unknown hv) hu).2
    rw [place_of_oneOf_none v ho, joinAt_of_join ht hu]
    simp [takes, hu']

/-- The kind of a schema with a type that is known does not change when the schema takes a value. -/
theorem kind_place {v : Json} (hv : v ≠ .null) {s : Schema} (h : s.takes (of v))
    (hs : s.type ≠ some .unknown) : (place v s).type.map kind = s.type.map kind := by
  cases ho : s.oneOf with
  | some alternatives => simp [place_of_oneOf_some v ho]
  | none =>
    obtain ⟨t, u, ht, hu⟩ := exists_join_of_takes h
    have hk := ((takes_iff (of_ne_unknown hv) s).1 h).resolve_left hs
    rw [place_of_oneOf_none v ho, joinAt_of_join ht hu, hk]
    simp [(join_eq_some (of_ne_unknown hv) hu).1]

/-! ## Branches -/

mutual

/-- The part of a schema for values of the kind of the type `a`, apart from whether it takes `null`.
Only parts of a known type count. -/
def branch? (a : DataType) : Schema → Option Schema
  | ⟨type, _, items, properties, oneOf⟩ =>
    match oneOf with
    | some alternatives => branchIn? a alternatives
    | none =>
      if type.map kind = some a.kind then some ⟨type, none, items, properties, none⟩ else none
termination_by structural s => s

/-- The branch in the first of the alternatives that takes values of the type `a`. -/
def branchIn? (a : DataType) : List Schema → Option Schema
  | [] => none
  | s :: rest => if s.takes a then branch? a s else branchIn? a rest
termination_by structural ss => ss

end

theorem branch?_of_oneOf_some (a : DataType) {s : Schema} {alternatives : List Schema}
    (h : s.oneOf = some alternatives) : branch? a s = branchIn? a alternatives := by
  obtain ⟨t, n, i, p, o⟩ := s
  obtain rfl : o = some alternatives := h
  simp [branch?]

theorem branch?_of_oneOf_none (a : DataType) {s : Schema} (h : s.oneOf = none) :
    branch? a s =
      if s.type.map kind = some a.kind then some { s with nullable := none } else none := by
  obtain ⟨t, n, i, p, o⟩ := s
  obtain rfl : o = none := h
  simp [branch?]

@[simp] theorem branchIn?_nil (a : DataType) : branchIn? a [] = none := by simp [branchIn?]

theorem branchIn?_cons (a : DataType) (s : Schema) (rest : List Schema) :
    branchIn? a (s :: rest) = if s.takes a then branch? a s else branchIn? a rest := by
  simp [branchIn?]

/-- The branch of a schema of the right kind without alternatives. -/
theorem branch?_eq_some {a : DataType} {s : Schema} (ho : s.oneOf = none)
    (hk : s.type.map kind = some a.kind) : branch? a s = some { s with nullable := none } := by
  rw [branch?_of_oneOf_none a ho, if_pos hk]

theorem branch?_widen {v : Json} {a t : DataType} {s : Schema} (ho : s.oneOf = none)
    (hk : t.kind = a.kind) :
    branch? a (widen v t s) = some (widen v t { s with nullable := none }) := by
  rw [branch?_eq_some (widen_oneOf v t ho) (by simp [hk]), widen_setNullable]

mutual

/-- A branch has the type of its kind, and no alternatives. -/
theorem branch?_type {a : DataType} : (s : Schema) → ∀ {p : Schema}, branch? a s = some p →
    p.type.map kind = some a.kind ∧ p.oneOf = none ∧ p.nullable = none
  | ⟨type, nullable, items, properties, none⟩, p, h => by
    simp only [branch?, Option.ite_none_right_eq_some, Option.some.injEq] at h
    obtain ⟨hk, rfl⟩ := h
    exact ⟨hk, rfl, rfl⟩
  | ⟨type, nullable, items, properties, some alternatives⟩, p, h =>
    branchIn?_type alternatives (by simpa [branch?] using h)

theorem branchIn?_type {a : DataType} : (ss : List Schema) → ∀ {p : Schema},
    branchIn? a ss = some p → p.type.map kind = some a.kind ∧ p.oneOf = none ∧ p.nullable = none
  | [], p, h => by simp at h
  | s :: rest, p, h => by
    rw [branchIn?_cons] at h
    split at h
    · exact branch?_type s h
    · exact branchIn?_type rest h

end

/-! ## What a value does to the branches -/

mutual

theorem exists_branch?_place {v : Json} (hv : v ≠ .null) : (s : Schema) → ∃ t p,
    t.join (of v) = some t ∧ t.kind = (of v).kind ∧ branch? (of v) (place v s) = some (widen v t p)
  | ⟨type, nullable, items, properties, some alternatives⟩ => by
    obtain ⟨t, p, ht, hk, h⟩ := exists_branchIn?_placeIn hv alternatives
    refine ⟨t, p, ht, hk, ?_⟩
    rw [place_of_oneOf_some v rfl, branch?_of_oneOf_some _ rfl, h]
  | ⟨type, nullable, items, properties, none⟩ => by
    set s : Schema := ⟨type, nullable, items, properties, none⟩
    have hv' := of_ne_unknown hv
    have hself : (of v).join (of v) = some (of v) := by simp [join]
    rw [place_of_oneOf_none v rfl]
    cases ht : s.type with
    | none => exact ⟨of v, _, hself, rfl, by rw [joinAt_of_type_none ht, branch?_widen rfl rfl]⟩
    | some t =>
      cases hu : t.join (of v) with
      | some u =>
        obtain ⟨hk, hj⟩ := join_eq_some hv' hu
        exact ⟨u, _, hj, hk, by rw [joinAt_of_join ht hu, branch?_widen rfl hk]⟩
      | none =>
        have hn : ¬ ({ s with nullable := none } : Schema).takes (of v) := by
          simp [takes, ht, hu]
        have hw : (widen v (of v) empty).takes (of v) := by simp [takes, hself]
        refine ⟨of v, empty, hself, rfl, ?_⟩
        rw [joinAt_of_conflict ht hu, branch?_of_oneOf_some _ rfl, branchIn?_cons, if_neg hn,
          branchIn?_cons, if_pos hw, branch?_widen rfl rfl]
        rfl

theorem exists_branchIn?_placeIn {v : Json} (hv : v ≠ .null) : (ss : List Schema) → ∃ t p,
    t.join (of v) = some t ∧ t.kind = (of v).kind ∧
      branchIn? (of v) (placeIn v ss) = some (widen v t p)
  | [] => by
    have hself : (of v).join (of v) = some (of v) := by simp [join]
    have hw : (widen v (of v) empty).takes (of v) := by simp [takes, hself]
    refine ⟨of v, empty, hself, rfl, ?_⟩
    rw [placeIn_nil, branchIn?_cons, if_pos hw, branch?_widen rfl rfl]
    rfl
  | s :: rest => by
    rw [placeIn_cons]
    split
    · next h =>
      obtain ⟨t, p, ht, hk, hp⟩ := exists_branch?_place hv s
      exact ⟨t, p, ht, hk, by rw [branchIn?_cons, if_pos (takes_place hv h), hp]⟩
    · next h =>
      obtain ⟨t, p, ht, hk, hp⟩ := exists_branchIn?_placeIn hv rest
      exact ⟨t, p, ht, hk, by rw [branchIn?_cons, if_neg h, hp]⟩

end

mutual

theorem branch?_place_of_kind {v : Json} {a : DataType} (hv : v ≠ .null)
    (ha : a.kind = (of v).kind) : (s : Schema) → ∀ {p : Schema}, branch? a s = some p →
      ∃ t u, p.type = some t ∧ t.join (of v) = some u ∧ branch? a (place v s) = some (widen v u p)
  | ⟨type, nullable, items, properties, some alternatives⟩, p, h => by
    rw [branch?_of_oneOf_some a rfl] at h
    obtain ⟨t, u, ht, hu, h⟩ := branchIn?_placeIn_of_kind hv ha alternatives h
    refine ⟨t, u, ht, hu, ?_⟩
    rw [place_of_oneOf_some v rfl, branch?_of_oneOf_some a rfl, h]
  | ⟨type, nullable, items, properties, none⟩, p, h => by
    set s : Schema := ⟨type, nullable, items, properties, none⟩
    rw [branch?_of_oneOf_none a rfl] at h
    obtain ⟨hk, rfl⟩ : s.type.map kind = some a.kind ∧ { s with nullable := none } = p := by
      simpa using h
    have htakes : s.takes (of v) := (takes_iff (of_ne_unknown hv) s).2 (Or.inr (ha ▸ hk))
    obtain ⟨t, u, ht, hu⟩ := exists_join_of_takes htakes
    have huk : u.kind = a.kind := (join_eq_some (of_ne_unknown hv) hu).1.trans ha.symm
    refine ⟨t, u, ht, hu, ?_⟩
    rw [place_of_oneOf_none v rfl, joinAt_of_join ht hu, branch?_widen rfl huk]

theorem branchIn?_placeIn_of_kind {v : Json} {a : DataType} (hv : v ≠ .null)
    (ha : a.kind = (of v).kind) : (ss : List Schema) → ∀ {p : Schema}, branchIn? a ss = some p →
      ∃ t u, p.type = some t ∧ t.join (of v) = some u ∧
        branchIn? a (placeIn v ss) = some (widen v u p)
  | [], p, h => by simp at h
  | s :: rest, p, h => by
    have hv' := of_ne_unknown hv
    have ha' : a ≠ .unknown := by
      rintro rfl
      exact hv' (kind_eq_unknown.1 ha.symm)
    have hiff : ∀ s : Schema, s.takes a ↔ s.takes (of v) := fun s => by
      rw [takes_iff ha', takes_iff hv', ha]
    rw [branchIn?_cons] at h
    rw [placeIn_cons]
    split at h
    · next hs =>
      obtain ⟨t, u, ht, hu, hp⟩ := branch?_place_of_kind hv ha s h
      have hs' := (hiff s).1 hs
      refine ⟨t, u, ht, hu, ?_⟩
      rw [if_pos hs', branchIn?_cons, if_pos ((hiff _).2 (takes_place hv hs')), hp]
    · next hs =>
      obtain ⟨t, u, ht, hu, hp⟩ := branchIn?_placeIn_of_kind hv ha rest h
      refine ⟨t, u, ht, hu, ?_⟩
      rw [if_neg (fun hs' => hs ((hiff s).2 hs')), branchIn?_cons, if_neg hs, hp]

end

mutual

theorem branch?_place_of_ne {v : Json} {a : DataType} (hv : v ≠ .null) (ha : a ≠ .unknown)
    (hne : a.kind ≠ (of v).kind) : (s : Schema) → ∀ {p : Schema}, branch? a s = some p →
      branch? a (place v s) = some p
  | ⟨type, nullable, items, properties, some alternatives⟩, p, h => by
    rw [branch?_of_oneOf_some a rfl] at h
    rw [place_of_oneOf_some v rfl, branch?_of_oneOf_some a rfl]
    exact branchIn?_placeIn_of_ne hv ha hne alternatives h
  | ⟨type, nullable, items, properties, none⟩, p, h => by
    set s : Schema := ⟨type, nullable, items, properties, none⟩
    rw [branch?_of_oneOf_none a rfl] at h
    obtain ⟨hk, rfl⟩ : s.type.map kind = some a.kind ∧ { s with nullable := none } = p := by
      simpa using h
    obtain ⟨t, ht, htk⟩ := Option.map_eq_some_iff.1 hk
    -- the value does not go with the type that is there, so the schema becomes an alternative
    have hu : t.join (of v) = none := by
      rw [← Option.not_isSome_iff_eq_none, join_isSome_iff (of_ne_unknown hv), htk]
      rintro (rfl | h')
      · exact ha (kind_eq_unknown.1 htk.symm)
      · exact hne h'
    have htakes : ({ s with nullable := none } : Schema).takes a :=
      (takes_iff ha _).2 (Or.inr hk)
    rw [place_of_oneOf_none v rfl, joinAt_of_conflict ht hu, branch?_of_oneOf_some a rfl,
      branchIn?_cons, if_pos htakes]
    exact branch?_eq_some (s := { s with nullable := none }) rfl hk

theorem branchIn?_placeIn_of_ne {v : Json} {a : DataType} (hv : v ≠ .null) (ha : a ≠ .unknown)
    (hne : a.kind ≠ (of v).kind) : (ss : List Schema) → ∀ {p : Schema}, branchIn? a ss = some p →
      branchIn? a (placeIn v ss) = some p
  | [], p, h => by simp at h
  | s :: rest, p, h => by
    have hv' := of_ne_unknown hv
    rw [branchIn?_cons] at h
    rw [placeIn_cons]
    by_cases hsv : s.takes (of v)
    · rw [if_pos hsv, branchIn?_cons]
      split at h
      · next hsa =>
        -- a schema that takes values of two kinds is of the unknown type, so its branch is in one
        -- of its own alternatives, and its type stays
        have hu : s.type = some .unknown := by
          rcases (takes_iff ha s).1 hsa with hu | hka
          · exact hu
          · refine ((takes_iff hv' s).1 hsv).resolve_right fun hkv => hne ?_
            exact Option.some.inj (hka.symm.trans hkv)
        have hka : s.type.map kind ≠ some a.kind := fun hka => by
          rw [hu] at hka
          exact ha (kind_eq_unknown.1 (Option.some.inj hka).symm)
        have ho : s.oneOf ≠ none := fun ho => by
          rw [branch?_of_oneOf_none a ho, if_neg hka] at h
          cases h
        obtain ⟨alternatives, ho⟩ := Option.ne_none_iff_exists'.1 ho
        have htakes : (place v s).takes a :=
          (takes_iff ha _).2 (Or.inl (by rw [place_of_oneOf_some v ho]; exact hu))
        rw [if_pos htakes, branch?_place_of_ne hv ha hne s h]
      · next hsa =>
        have hs : s.type ≠ some .unknown := fun hu => hsa ((takes_iff ha s).2 (Or.inl hu))
        have hkind := kind_place hv hsv hs
        have hkv := ((takes_iff hv' s).1 hsv).resolve_left hs
        have htakes : ¬ (place v s).takes a := fun ht => by
          rcases (takes_iff ha _).1 ht with hu | hka
          · rw [hu, hkv] at hkind
            exact hv' (kind_eq_unknown.1 (Option.some.inj hkind).symm)
          · exact hne (Option.some.inj (hka.symm.trans (hkind.trans hkv)))
        rw [if_neg htakes, h]
    · rw [if_neg hsv, branchIn?_cons]
      split at h
      · next hsa => rw [if_pos hsa, h]
      · next hsa => rw [if_neg hsa, branchIn?_placeIn_of_ne hv ha hne rest h]

end

end Schema

end TrafficLens
