import Mathlib.Data.List.Nodup
import Mathlib.Data.List.Perm.Subperm
import TrafficLens.Proofs.Schema.Assembly

/-!
# The shape of folded schemas

The five parts of a `Schema` are all optional, and nothing in the type keeps a schema from having
items beside properties, or a single alternative. Folding makes few of these combinations, and
`Shaped` lists them. A schema is `WellShaped` if all of its nodes are, however deep; one more
sighting keeps it so (`WellShaped.see`), from the empty schema on (`seeAll_shaped`).

The argument follows a value to the place that it widens (`WellShaped.place`). A place that takes
the value has the parts of the value's kind or none, so that widening it leaves no others. If there
is a conflict, the place and the value are of different kinds; that all alternatives stay of
different kinds bounds their number (`Apart.length_le`).
-/

namespace TrafficLens.Schema

open DataType

/-! ## Nodes -/

/-- The schema `t` is a node of a schema: the whole, or a node of its items, of one of its
properties or of one of its alternatives. -/
inductive IsNode (t : Schema) : Schema → Prop where
  | self : IsNode t t
  | items {s x : Schema} : s.items = some x → IsNode t x → IsNode t s
  | property {s : Schema} {ps : List (String × Schema)} {p : String × Schema} :
      s.properties = some ps → p ∈ ps → IsNode t p.2 → IsNode t s
  | alternative {s x : Schema} {ss : List Schema} :
      s.oneOf = some ss → x ∈ ss → IsNode t x → IsNode t s

/-- These schemas can stand beside each other as alternatives: two to five of them, each with a
known type and neither nullable nor made of alternatives, and no two with types that go together. -/
structure AreAlternatives (ss : List Schema) : Prop where
  two_le : 2 ≤ ss.length
  le_five : ss.length ≤ 5
  plain : ∀ x ∈ ss, IsPlain x
  apart : ss.Pairwise fun x y => ∀ t ∈ x.type, ∀ u ∈ y.type, t.join u = none ∧ u.join t = none

/-- The parts of a schema go together. A property says something about its values; items need not,
and those of an empty array do not. -/
structure Shaped (s : Schema) : Prop where
  alternatives : ∀ ss ∈ s.oneOf,
    s.type = none ∧ s.items = none ∧ s.properties = none ∧ AreAlternatives ss
  items : s.items.isSome ↔ s.type = some .array
  properties : s.properties.isSome ↔ s.type = some .object
  nullable : s.nullable = none ∨ s.nullable = some true
  property : ∀ ps ∈ s.properties, ∀ p ∈ ps, ¬ p.2.isEmpty

/-- The parts of every node go together. -/
def WellShaped (s : Schema) : Prop := ∀ t, IsNode t s → Shaped t

theorem wellShaped_iff {s : Schema} :
    WellShaped s ↔ Shaped s ∧ (∀ x ∈ s.items, WellShaped x) ∧
      (∀ ps ∈ s.properties, ∀ p ∈ ps, WellShaped p.2) ∧
        ∀ ss ∈ s.oneOf, ∀ x ∈ ss, WellShaped x := by
  constructor
  · intro h
    exact ⟨h s .self, fun x hx t ht => h t (.items hx ht),
      fun ps hps p hp t ht => h t (.property hps hp ht),
      fun ss hss x hx t ht => h t (.alternative hss hx ht)⟩
  · rintro ⟨hs, hitems, hproperties, halternatives⟩ t ht
    cases ht with
    | self => exact hs
    | items hx ht => exact hitems _ hx t ht
    | property hps hp ht => exact hproperties _ hps _ hp t ht
    | alternative hss hx ht => exact halternatives _ hss _ hx t ht

theorem WellShaped.shaped {s : Schema} (h : WellShaped s) : Shaped s := h s .self

/-- A schema without items, properties and alternatives, and with a type that needs none. -/
theorem wellShaped_leaf {s : Schema} (hitems : s.items = none) (hproperties : s.properties = none)
    (honeOf : s.oneOf = none) (harray : s.type ≠ some .array) (hobject : s.type ≠ some .object)
    (hnullable : s.nullable = none ∨ s.nullable = some true) : WellShaped s := by
  refine wellShaped_iff.2 ⟨⟨?_, ?_, ?_, hnullable, ?_⟩, ?_, ?_, ?_⟩
  all_goals simp [hitems, hproperties, honeOf, harray, hobject]

theorem wellShaped_empty : WellShaped empty :=
  wellShaped_leaf rfl rfl rfl (by simp [empty]) (by simp [empty]) (.inl rfl)

/-- Whether a schema is nullable matters for no other part of it. -/
theorem WellShaped.setNullable {s : Schema} (h : WellShaped s) {n : Option Bool}
    (hn : n = none ∨ n = some true) : WellShaped { s with nullable := n } := by
  obtain ⟨hs, hparts⟩ := wellShaped_iff.1 h
  exact wellShaped_iff.2 ⟨⟨hs.alternatives, hs.items, hs.properties, hn, hs.property⟩, hparts⟩

/-! ## Alternatives of different kinds -/

/-- The kinds of schemas, as far as they have a type. -/
def kindsOf (ss : List Schema) : List (Option DataType) := ss.map fun x => x.type.map kind

/-- Schemas of known and different kinds. -/
structure Apart (ss : List Schema) : Prop where
  plain : ∀ x ∈ ss, IsPlain x
  nodup : (kindsOf ss).Nodup

theorem join_eq_none_iff {t a : DataType} (ht : t ≠ .unknown) (ha : a ≠ .unknown) :
    t.join a = none ↔ t.kind ≠ a.kind := by
  rw [← Option.not_isSome_iff_eq_none, join_isSome_iff ha, or_iff_right ht]

theorem IsPlain.kind_mem {x : Schema} (h : IsPlain x) :
    x.type.map kind ∈
      [some .string, some .number, some .boolean, some .object, some .array] := by
  obtain ⟨t, ht, hne⟩ := h.exists_type
  rw [ht]
  cases t <;> simp_all [kind]

/-- There are five kinds. -/
theorem Apart.length_le {ss : List Schema} (h : Apart ss) : ss.length ≤ 5 := by
  have hkinds : kindsOf ss ⊆
      [some .string, some .number, some .boolean, some .object, some .array] := by
    intro k hk
    obtain ⟨x, hx, rfl⟩ := List.mem_map.1 hk
    exact (h.plain x hx).kind_mem
  calc ss.length = (kindsOf ss).length := by rw [kindsOf, List.length_map]
    _ ≤ 5 := (h.nodup.subperm hkinds).length_le

theorem Apart.areAlternatives {ss : List Schema} (h : Apart ss) (hlen : 2 ≤ ss.length) :
    AreAlternatives ss := by
  refine ⟨hlen, h.length_le, h.plain, ?_⟩
  refine (List.pairwise_map.1 h.nodup).imp_of_mem fun {x y} hx hy hne t ht u hu => ?_
  obtain ⟨t', ht', htne⟩ := (h.plain x hx).exists_type
  obtain ⟨u', hu', hune⟩ := (h.plain y hy).exists_type
  obtain rfl : t' = t := Option.some.inj (ht'.symm.trans ht)
  obtain rfl : u' = u := Option.some.inj (hu'.symm.trans hu)
  have hkind : t'.kind ≠ u'.kind := by simpa [ht', hu'] using hne
  exact ⟨(join_eq_none_iff htne hune).2 hkind, (join_eq_none_iff hune htne).2 hkind.symm⟩

theorem AreAlternatives.toApart {ss : List Schema} (h : AreAlternatives ss) : Apart ss := by
  refine ⟨h.plain, List.pairwise_map.2 (h.apart.imp_of_mem fun {x y} hx hy hxy => ?_)⟩
  obtain ⟨t, ht, htne⟩ := (h.plain x hx).exists_type
  obtain ⟨u, hu, hune⟩ := (h.plain y hy).exists_type
  have hkind := (join_eq_none_iff htne hune).1 (hxy t ht u hu).1
  simpa [ht, hu] using hkind

theorem IsPlain.takes_iff {x : Schema} (h : IsPlain x) {a : DataType} (ha : a ≠ .unknown) :
    x.takes a ↔ x.type.map kind = some a.kind := by
  obtain ⟨t, ht, hne⟩ := h.exists_type
  rw [Schema.takes_iff ha]
  exact or_iff_right (by simpa [ht] using hne)

/-- The alternatives after a value: one of them was changed, or there is a new one. -/
theorem forall_mem_placeIn {P : Schema → Prop} {v : Json} {ss : List Schema}
    (hold : ∀ x ∈ ss, P x) (htaken : ∀ x ∈ ss, x.takes (of v) → P (place v x))
    (hnew : P (widen v (of v) empty)) : ∀ x ∈ placeIn v ss, P x := by
  induction ss with
  | nil => simpa using hnew
  | cons s rest ih =>
    obtain ⟨hs, hrest⟩ := List.forall_mem_cons.1 hold
    obtain ⟨hstaken, hrtaken⟩ := List.forall_mem_cons.1 htaken
    rw [placeIn_cons]
    split
    · next h => exact List.forall_mem_cons.2 ⟨hstaken h, hrest⟩
    · exact List.forall_mem_cons.2 ⟨hs, ih hrest hrtaken⟩

/-- A value adds its kind to the alternatives if it is not there. -/
theorem kindsOf_placeIn {v : Json} (hv : v ≠ .null) {ss : List Schema} (h : ∀ x ∈ ss, IsPlain x) :
    kindsOf (placeIn v ss) =
      if some (of v).kind ∈ kindsOf ss then kindsOf ss else kindsOf ss ++ [some (of v).kind] := by
  induction ss with
  | nil => simp [kindsOf]
  | cons s rest ih =>
    obtain ⟨hs, hrest⟩ := List.forall_mem_cons.1 h
    have htakes := hs.takes_iff (of_ne_unknown hv)
    rw [placeIn_cons]
    split
    · next ht =>
      obtain ⟨t, hst, hne⟩ := hs.exists_type
      have hkind := kind_place hv ht (by simpa [hst] using hne)
      simp [kindsOf, hkind, htakes.1 ht]
    · next ht =>
      have hne : some (of v).kind ≠ s.type.map kind := fun heq => ht (htakes.2 heq.symm)
      have hcons : ∀ ss, kindsOf (s :: ss) = s.type.map kind :: kindsOf ss := fun _ => rfl
      rw [hcons, hcons, ih hrest]
      by_cases hmem : some (of v).kind ∈ kindsOf rest <;> simp [hmem, hne]

theorem length_le_length_placeIn (v : Json) (ss : List Schema) :
    ss.length ≤ (placeIn v ss).length := by
  induction ss with
  | nil => simp
  | cons s rest ih =>
    rw [placeIn_cons]
    split <;> simp [ih]

theorem isPlain_widen_empty {v : Json} (hv : v ≠ .null) : IsPlain (widen v (of v) empty) :=
  ⟨widen_oneOf v _ rfl, widen_nullable v _ _, _, widen_type v _ _, of_ne_unknown hv⟩

theorem IsPlain.place {v : Json} (hv : v ≠ .null) {x : Schema} (h : IsPlain x)
    (ht : x.takes (of v)) : IsPlain (place v x) := by
  obtain ⟨t, u, hxt, hu⟩ := exists_join_of_takes ht
  have hkind := (join_eq_some (of_ne_unknown hv) hu).1
  rw [place_of_oneOf_none v h.oneOf_eq, joinAt_of_join hxt hu]
  refine ⟨widen_oneOf v u h.oneOf_eq, ?_, u, widen_type v u x, ?_⟩
  · rw [widen_nullable, h.nullable_eq]
  · rintro rfl
    exact kind_eq_unknown.not.2 (of_ne_unknown hv) hkind.symm

theorem Apart.placeIn {v : Json} (hv : v ≠ .null) {ss : List Schema} (h : Apart ss) :
    Apart (placeIn v ss) := by
  refine ⟨forall_mem_placeIn h.plain (fun x hx => (h.plain x hx).place hv)
    (isPlain_widen_empty hv), ?_⟩
  rw [kindsOf_placeIn hv h.plain]
  split
  · exact h.nodup
  · next hmem =>
    rw [← List.concat_eq_append]
    exact h.nodup.concat hmem

/-- A schema that is made of alternatives and nothing else. -/
theorem wellShaped_oneOf {s : Schema} {ss : List Schema} (honeOf : s.oneOf = some ss)
    (htype : s.type = none) (hitems : s.items = none) (hproperties : s.properties = none)
    (hnullable : s.nullable = none ∨ s.nullable = some true) (hapart : Apart ss)
    (hlen : 2 ≤ ss.length) (hall : ∀ x ∈ ss, WellShaped x) : WellShaped s := by
  refine wellShaped_iff.2 ⟨⟨?shape, ?_, ?_, hnullable, ?_⟩, ?_, ?_, ?nodes⟩
  case shape =>
    intro ss' hss'
    obtain rfl : ss = ss' := Option.some.inj (honeOf.symm.trans hss')
    exact ⟨htype, hitems, hproperties, hapart.areAlternatives hlen⟩
  case nodes =>
    intro ss' hss'
    obtain rfl : ss = ss' := Option.some.inj (honeOf.symm.trans hss')
    exact hall
  all_goals simp [htype, hitems, hproperties]

/-! ## One more value -/

section

variable {v : Json} {s : Schema} {u : DataType}

/-- The value goes with the schema, which has no alternatives and gets the type `u`. -/
structure GoesWith (v : Json) (s : Schema) (u : DataType) : Prop where
  oneOf_eq : s.oneOf = none
  joined : s.type = none ∧ u = of v ∨ ∃ t, s.type = some t ∧ t.join (of v) = some u

theorem GoesWith.kind_eq (hv : v ≠ .null) (h : GoesWith v s u) : u.kind = (of v).kind := by
  obtain ⟨-, rfl⟩ | ⟨t, -, hu⟩ := h.joined
  · rfl
  · exact (join_eq_some (of_ne_unknown hv) hu).1

/-- The type that the schema has is of the kind of the value. -/
theorem GoesWith.kind_eq_of_type (hv : v ≠ .null) (h : GoesWith v s u) {t : DataType}
    (ht : s.type = some t) (hne : t ≠ .unknown) : t.kind = (of v).kind := by
  obtain ⟨hnone, -⟩ | ⟨t', ht', hu⟩ := h.joined
  · simp [ht] at hnone
  · obtain rfl : t = t' := Option.some.inj (ht.symm.trans ht')
    have hjoin := (join_isSome_iff (of_ne_unknown hv)).1 (Option.isSome_of_eq_some hu)
    exact hjoin.resolve_left hne

theorem Shaped.items_eq_none (hs : Shaped s) (hv : v ≠ .null) (h : GoesWith v s u)
    (hne : of v ≠ .array) : s.items = none := by
  by_contra hitems
  have htype := hs.items.1 (Option.isSome_iff_ne_none.2 hitems)
  exact hne (kind_eq_array _ (h.kind_eq_of_type hv htype (by decide)).symm)

theorem Shaped.properties_eq_none (hs : Shaped s) (hv : v ≠ .null) (h : GoesWith v s u)
    (hne : of v ≠ .object) : s.properties = none := by
  by_contra hproperties
  have htype := hs.properties.1 (Option.isSome_iff_ne_none.2 hproperties)
  exact hne (kind_eq_object _ (h.kind_eq_of_type hv htype (by decide)).symm)

/-- A value without parts changes only the type. -/
theorem WellShaped.setType (hs : WellShaped s) (hv : v ≠ .null) (h : GoesWith v s u)
    (harray : of v ≠ .array) (hobject : of v ≠ .object) :
    WellShaped { s with type := some u } := by
  have hkind := h.kind_eq hv
  refine wellShaped_leaf (hs.shaped.items_eq_none hv h harray)
    (hs.shaped.properties_eq_none hv h hobject) h.oneOf_eq ?_ ?_ hs.shaped.nullable
  · rintro ⟨⟩
    exact harray (kind_eq_array _ hkind.symm)
  · rintro ⟨⟩
    exact hobject (kind_eq_object _ hkind.symm)

theorem WellShaped.getD_empty {x : Option Schema} (h : ∀ y ∈ x, WellShaped y) :
    WellShaped (x.getD empty) := by
  cases x with
  | none => exact wellShaped_empty
  | some y => exact h y rfl

/-- A place for the value keeps its shape if widening it does: it is widened, or it becomes two
alternatives of different kinds. -/
theorem WellShaped.joinAt (hv : v ≠ .null)
    (hwiden : ∀ {s u}, WellShaped s → GoesWith v s u → WellShaped (widen v u s))
    (hs : WellShaped s) (ho : s.oneOf = none) : WellShaped (joinAt (of v) (widen v) s) := by
  cases ht : s.type with
  | none =>
    rw [joinAt_of_type_none ht]
    exact hwiden hs ⟨ho, .inl ⟨ht, rfl⟩⟩
  | some t =>
    cases hu : t.join (of v) with
    | some u =>
      rw [joinAt_of_join ht hu]
      exact hwiden hs ⟨ho, .inr ⟨t, ht, hu⟩⟩
    | none =>
      have hne : t ≠ .unknown := by
        rintro rfl
        simpa [hu] using (join_isSome_iff (t := .unknown) (of_ne_unknown hv)).2 (.inl rfl)
      have hkind := (join_eq_none_iff hne (of_ne_unknown hv)).1 hu
      have hnew : WellShaped (widen v (of v) empty) :=
        hwiden wellShaped_empty ⟨rfl, .inl ⟨rfl, rfl⟩⟩
      rw [joinAt_of_conflict ht hu]
      refine wellShaped_oneOf rfl rfl rfl rfl hs.shaped.nullable ⟨?_, ?_⟩ (Nat.le_refl 2) ?_
      · simpa using ⟨⟨ho, rfl, t, ht, hne⟩, isPlain_widen_empty hv⟩
      · simpa [kindsOf, ht] using hkind
      · simpa using ⟨hs.setNullable (.inl rfl), hnew⟩

theorem WellShaped.place (hv : v ≠ .null)
    (hwiden : ∀ {s u}, WellShaped s → GoesWith v s u → WellShaped (widen v u s))
    (hs : WellShaped s) : WellShaped (place v s) := by
  cases ho : s.oneOf with
  | none =>
    rw [place_of_oneOf_none v ho]
    exact hs.joinAt hv hwiden ho
  | some ss =>
    obtain ⟨htype, hitems, hproperties, hss⟩ := hs.shaped.alternatives ss ho
    obtain ⟨-, -, -, hall⟩ := wellShaped_iff.1 hs
    have hapart := hss.toApart
    rw [place_of_oneOf_some v ho]
    refine wellShaped_oneOf rfl htype hitems hproperties hs.shaped.nullable (hapart.placeIn hv)
      (Nat.le_trans hss.two_le (length_le_length_placeIn v ss)) ?_
    refine forall_mem_placeIn (hall ss ho) (fun x hx _ => ?_)
      (hwiden wellShaped_empty ⟨rfl, .inl ⟨rfl, rfl⟩⟩)
    -- an alternative has no alternatives of its own
    rw [place_of_oneOf_none v (hss.plain x hx).oneOf_eq]
    exact (hall ss ho x hx).joinAt hv hwiden (hss.plain x hx).oneOf_eq

end

mutual

/-- **Folding in a value keeps the shape**, whatever the value is. -/
theorem WellShaped.merge : (v : Json) → ∀ {s : Schema}, WellShaped s → WellShaped (merge s v)
  | .null, s, hs => by
    rw [Schema.merge, mergeNull]
    split
    · exact wellShaped_leaf rfl rfl rfl (by simp) (by simp) (.inr rfl)
    · exact hs.setNullable (.inr rfl)
  | .bool b, s, hs => by
    rw [merge_eq_place (by simp)]
    exact hs.place (by simp) fun hs h => hs.setType (by simp) h (by simp [of]) (by simp [of])
  | .number n, s, hs => by
    have hof : of (.number n) ≠ .array ∧ of (.number n) ≠ .object := by cases n <;> simp [of]
    rw [merge_eq_place (by simp)]
    exact hs.place (by simp) fun hs h => hs.setType (by simp) h hof.1 hof.2
  | .string t, s, hs => by
    rw [merge_eq_place (by simp)]
    exact hs.place (by simp) fun hs h => hs.setType (by simp) h (by simp [of]) (by simp [of])
  | .array xs, s, hs => by
    rw [merge_eq_place (by simp)]
    refine hs.place (by simp) fun {s u} hs h => ?_
    obtain rfl : u = .array := kind_eq_array u (h.kind_eq (by simp))
    have hproperties := hs.shaped.properties_eq_none (by simp) h (by simp [of])
    have hmerged := WellShaped.mergeItems xs (WellShaped.getD_empty (wellShaped_iff.1 hs).2.1)
    refine wellShaped_iff.2 ⟨⟨?_, ?_, ?_, hs.shaped.nullable, ?_⟩, ?_, ?_, ?_⟩
    all_goals simp [widen, hproperties, hmerged]
  | .object ms, s, hs => by
    rw [merge_eq_place (by simp)]
    refine hs.place (by simp) fun {s u} hs h => ?_
    obtain rfl : u = .object := kind_eq_object u (h.kind_eq (by simp))
    have hitems := hs.shaped.items_eq_none (by simp) h (by simp [of])
    have hold : ∀ p ∈ s.properties.getD [], ¬ p.2.isEmpty ∧ WellShaped p.2 := by
      cases hp : s.properties with
      | none => simp
      | some ps =>
        have hnodes := (wellShaped_iff.1 hs).2.2.1 ps hp
        exact fun p hmem => ⟨hs.shaped.property ps hp p hmem, hnodes p hmem⟩
    have hmerged := WellShaped.mergeMembers ms hold
    refine wellShaped_iff.2 ⟨⟨?_, ?_, ?_, hs.shaped.nullable, ?shape⟩, ?_, ?nodes, ?_⟩
    case shape =>
      rintro ps ⟨⟩ p hp
      exact (hmerged p hp).1
    case nodes =>
      rintro ps ⟨⟩ p hp
      exact (hmerged p hp).2
    all_goals simp [widen, hitems]

theorem WellShaped.mergeItems : (xs : List Json) → ∀ {s : Schema}, WellShaped s →
    WellShaped (mergeItems s xs)
  | [], s, hs => hs
  | x :: xs, s, hs => by
    rw [Schema.mergeItems]
    exact WellShaped.mergeItems xs (WellShaped.merge x hs)

theorem WellShaped.mergeMembers : (ms : List (String × Json)) → ∀ {ps : List (String × Schema)},
    (∀ p ∈ ps, ¬ p.2.isEmpty ∧ WellShaped p.2) →
      ∀ p ∈ mergeMembers ps ms, ¬ p.2.isEmpty ∧ WellShaped p.2
  | [], ps, hps => hps
  | (k, x) :: ms, ps, hps => by
    rw [Schema.mergeMembers]
    refine WellShaped.mergeMembers ms ?_
    refine Dict.forall_mem_alter (P := fun s => ¬ s.isEmpty ∧ WellShaped s) hps fun old hold => ?_
    exact ⟨not_isEmpty_see _ (.value x),
      WellShaped.merge x (WellShaped.getD_empty fun y hy => (hold y hy).2)⟩

end

/-! ## Whole runs -/

/-- **One more sighting keeps the shape.** -/
theorem WellShaped.see {s : Schema} (hs : WellShaped s) (x : Sighting) : WellShaped (s.see x) := by
  cases x with
  | value v => exact WellShaped.merge v hs
  | shapeless =>
    rw [Schema.see, mergeUnknown]
    split
    · exact wellShaped_leaf rfl rfl rfl (by simp) (by simp) (.inl rfl)
    · exact hs

theorem WellShaped.seeAll {s : Schema} (hs : WellShaped s) (sightings : List Sighting) :
    WellShaped (s.seeAll sightings) := by
  induction sightings generalizing s with
  | nil => exact hs
  | cons x rest ih => exact ih (hs.see x)

/-- **The shape of what is folded**: whatever was seen, in whatever order, the parts of every node
go together. -/
theorem seeAll_shaped (sightings : List Sighting) {t : Schema}
    (h : IsNode t (empty.seeAll sightings)) : Shaped t :=
  wellShaped_empty.seeAll sightings t h

/-- The items of a list that is seen beside a text and a `null`, objects or truth values. -/
theorem seeAll_shaped_items :
    let sightings : List Sighting := [.value .null,
      .value (.array [.object [("a", .int 1)], .bool true]), .value (.string "x"), .shapeless]
    let items : Schema :=
      { oneOf := some
          [{ type := some .object, properties := some [("a", { type := some .integer })] },
            { type := some .boolean }] }
    IsNode items (empty.seeAll sightings) ∧ Shaped items := by
  intro sightings items
  have hseen : empty.seeAll sightings =
      { nullable := some true,
        oneOf := some
          [{ type := some .array, items := some items }, { type := some .string }] } := by
    decide +kernel
  have hnode : IsNode items (empty.seeAll sightings) := by
    rw [hseen]
    exact .alternative rfl List.mem_cons_self (.items rfl .self)
  exact ⟨hnode, seeAll_shaped sightings hnode⟩

end TrafficLens.Schema
