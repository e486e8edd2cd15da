import Mathlib.Data.List.Induction
import TrafficLens.Proofs.Schema.Absorption

/-!
# The schema that sightings make

Folding rewrites one schema again and again. What comes out can be said at once (`seeAll_empty`):
one alternative for each kind of value that was seen, in the order in which the kinds were first
seen, and each alternative is a plain function of the values of its kind. The alternative of arrays
holds the schema of all their items together, that of objects the schema of all values under each
of their keys, and so the description goes on at every depth.
-/

namespace TrafficLens

/-! ## What was seen -/

namespace Evidence

/-- The items of all arrays among the values. -/
def allItems (vs : List Json) : List Json := vs.flatMap fun v => v.items?.getD []

/-- The members of all objects among the values. -/
def allMembers (vs : List Json) : List (String × Json) := vs.flatMap fun v => v.members?.getD []

/-- The values of the members with a key. -/
def under (key : String) (ms : List (String × Json)) : List Json :=
  (ms.filter fun m => m.1 = key).map Prod.snd

/-- Is there a number with a fraction or an exponent among the values? -/
def hasFloat (vs : List Json) : Bool := vs.any fun v => DataType.of v == .number

/-- Add the kind of a value to the kinds that were seen. -/
def noteKind (kinds : List DataType) (v : Json) : List DataType :=
  if v = .null ∨ (DataType.of v).kind ∈ kinds then kinds else kinds ++ [(DataType.of v).kind]

/-- The kinds of the values that are not `null`, in the order of their first occurrence. -/
def kinds (vs : List Json) : List DataType := vs.foldl noteKind []

@[simp] theorem allItems_append (vs ws : List Json) :
    allItems (vs ++ ws) = allItems vs ++ allItems ws := by
  simp [allItems]

@[simp] theorem allMembers_append (vs ws : List Json) :
    allMembers (vs ++ ws) = allMembers vs ++ allMembers ws := by
  simp [allMembers]

@[simp] theorem under_append (key : String) (ms ns : List (String × Json)) :
    under key (ms ++ ns) = under key ms ++ under key ns := by
  simp [under]

theorem kinds_append (vs : List Json) (v : Json) : kinds (vs ++ [v]) = noteKind (kinds vs) v := by
  simp [kinds]

theorem mem_allItems {x : Json} {vs : List Json} :
    x ∈ allItems vs ↔ ∃ xs, .array xs ∈ vs ∧ x ∈ xs := by
  simp only [allItems, List.mem_flatMap]
  constructor
  · rintro ⟨v, hv, hx⟩
    cases v <;> simp [Json.items?] at hx
    exact ⟨_, hv, hx⟩
  · rintro ⟨xs, hv, hx⟩
    exact ⟨_, hv, by simpa [Json.items?] using hx⟩

theorem mem_allMembers {m : String × Json} {vs : List Json} :
    m ∈ allMembers vs ↔ ∃ ms, .object ms ∈ vs ∧ m ∈ ms := by
  simp only [allMembers, List.mem_flatMap]
  constructor
  · rintro ⟨v, hv, hm⟩
    cases v <;> simp [Json.members?] at hm
    exact ⟨_, hv, hm⟩
  · rintro ⟨ms, hv, hm⟩
    exact ⟨_, hv, by simpa [Json.members?] using hm⟩

theorem mem_under {x : Json} {key : String} {ms : List (String × Json)} :
    x ∈ under key ms ↔ (key, x) ∈ ms := by
  simp [under]

theorem mem_noteKind {k : DataType} {ks : List DataType} {v : Json} :
    k ∈ noteKind ks v ↔ k ∈ ks ∨ (v ≠ .null ∧ (DataType.of v).kind = k) := by
  unfold noteKind
  split
  · next h =>
    constructor
    · exact Or.inl
    · rintro (hk | ⟨hv, rfl⟩)
      · exact hk
      · exact h.resolve_left hv
  · next h =>
    rw [not_or] at h
    simp [h.1, eq_comm]

/-- The kinds that were seen are those of the values that are not `null`. -/
theorem mem_kinds {k : DataType} {vs : List Json} :
    k ∈ kinds vs ↔ ∃ v ∈ vs, v ≠ .null ∧ (DataType.of v).kind = k := by
  induction vs using List.reverseRecOn with
  | nil => simp [kinds]
  | append_singleton vs v ih =>
    rw [kinds_append, mem_noteKind, ih]
    simp only [List.mem_append, List.mem_singleton]
    constructor
    · rintro (⟨w, hw, h⟩ | h)
      · exact ⟨w, Or.inl hw, h⟩
      · exact ⟨v, Or.inr rfl, h⟩
    · rintro ⟨w, hw | rfl, h⟩
      · exact Or.inl ⟨w, hw, h⟩
      · exact Or.inr h

theorem nodup_kinds (vs : List Json) : (kinds vs).Nodup := by
  induction vs using List.reverseRecOn with
  | nil => exact List.nodup_nil
  | append_singleton vs v ih =>
    rw [kinds_append, noteKind]
    split
    · exact ih
    · next h =>
      rw [not_or] at h
      exact List.nodup_append.2 ⟨ih, by simp, fun k hk l hl hkl => by
        obtain rfl := List.mem_singleton.1 hl
        exact h.2 (hkl ▸ hk)⟩

/-- A kind is its own kind, and known. -/
theorem kind_of_mem_kinds {k : DataType} {vs : List Json} (h : k ∈ kinds vs) :
    k.kind = k ∧ k ≠ .unknown := by
  obtain ⟨v, -, hv, rfl⟩ := mem_kinds.1 h
  have hv := DataType.of_ne_unknown hv
  cases hk : DataType.of v <;> simp_all [DataType.kind]

end Evidence

namespace Schema

open DataType Evidence

/-! ## Assembling a schema -/

/-- Is `null` among the values? -/
def nullability (vs : List Json) : Option Bool := if .null ∈ vs then some true else none

/-- The alternative for the values of one kind. -/
def alternative (vs : List Json) : (kind : DataType) → Schema
  | .integer | .number => { type := some (if hasFloat vs then .number else .integer) }
  | .array => { type := some .array, items := some (ofValues (allItems vs)) }
  | .object => { type := some .object, properties := some (mergeMembers [] (allMembers vs)) }
  | k => { type := some k }

/-- The schema with the given alternatives. One of them needs no `oneOf`, and if there is none it
still makes a difference whether anything was seen. -/
def assemble (nullable : Option Bool) (seen : Bool) : List Schema → Schema
  | [] => { type := if seen then some .unknown else none, nullable }
  | [s] => { s with nullable }
  | s :: t :: rest => { nullable, oneOf := some (s :: t :: rest) }

/-- A schema that can stand among alternatives: of a known type, and without more alternatives. -/
structure IsPlain (s : Schema) : Prop where
  oneOf_eq : s.oneOf = none
  nullable_eq : s.nullable = none
  exists_type : ∃ t, s.type = some t ∧ t ≠ .unknown

theorem isPlain_alternative (vs : List Json) {k : DataType} (hk : k ≠ .unknown) :
    IsPlain (alternative vs k) := by
  cases k
  case unknown => exact absurd rfl hk
  case integer => exact ⟨rfl, rfl, _, rfl, by split <;> simp⟩
  case number => exact ⟨rfl, rfl, _, rfl, by split <;> simp⟩
  all_goals exact ⟨rfl, rfl, _, rfl, by simp⟩

theorem alternative_kind (vs : List Json) {k : DataType} (hk : k.kind = k) :
    (alternative vs k).type.map kind = some k := by
  cases k
  case integer => simp [kind] at hk
  case number => by_cases h : hasFloat vs <;> simp [alternative, kind, h]
  all_goals rfl

/-! ## One more sighting -/

theorem mergeUnknown_assemble {n : Option Bool} {seen : Bool} {ss : List Schema}
    (hs : ∀ s ∈ ss, IsPlain s) (hn : seen = false → n = none) :
    mergeUnknown (assemble n seen ss) = assemble n true ss := by
  rcases ss with _ | ⟨s, _ | ⟨t, rest⟩⟩
  · cases seen with
    | true => simp [assemble, mergeUnknown, isEmpty]
    | false => simp [assemble, mergeUnknown, isEmpty, hn rfl]
  · obtain ⟨t, ht, -⟩ := (hs s (by simp)).exists_type
    simp [assemble, mergeUnknown, isEmpty, ht]
  · simp [assemble, mergeUnknown, isEmpty]

theorem mergeNull_assemble {n : Option Bool} {seen : Bool} {ss : List Schema}
    (hs : ∀ s ∈ ss, IsPlain s) (hn : seen = false → n = none) :
    mergeNull (assemble n seen ss) = assemble (some true) true ss := by
  rcases ss with _ | ⟨s, _ | ⟨t, rest⟩⟩
  · cases seen with
    | true => simp [assemble, mergeNull, isEmpty]
    | false => simp [assemble, mergeNull, isEmpty, hn rfl]
  · obtain ⟨t, ht, -⟩ := (hs s (by simp)).exists_type
    simp [assemble, mergeNull, isEmpty, ht]
  · simp [assemble, mergeNull, isEmpty]

/-- A value that is not `null` goes to the alternatives. -/
theorem place_assemble {v : Json} (hv : v ≠ .null) (n : Option Bool) (seen : Bool)
    {ss : List Schema} (hs : ∀ s ∈ ss, IsPlain s) :
    place v (assemble n seen ss) = assemble n true (placeIn v ss) := by
  have hjoin : DataType.unknown.join (of v) = some (of v) := by
    have := of_ne_unknown hv
    cases h : of v <;> simp_all [join]
  rcases ss with _ | ⟨s, _ | ⟨t, rest⟩⟩
  · rw [place_of_oneOf_none v rfl, placeIn_nil]
    cases seen with
    | false =>
      rw [joinAt_of_type_none rfl]
      exact widen_setNullable v (of v) empty n
    | true =>
      rw [joinAt_of_join rfl hjoin]
      cases v <;> rfl
  · obtain ⟨ho, hn, t, ht, -⟩ := hs s (by simp)
    rw [placeIn_cons, placeIn_nil]
    cases hu : t.join (of v) with
    | some u =>
      have htakes : s.takes (of v) := by simp [takes, ht, hu]
      rw [if_pos htakes, place_of_oneOf_none v (by exact ho), place_of_oneOf_none v ho]
      simp only [assemble]
      rw [joinAt_of_join (by exact ht) hu, joinAt_of_join ht hu, widen_setNullable]
    | none =>
      have htakes : ¬ s.takes (of v) := by simp [takes, ht, hu]
      rw [if_neg htakes, place_of_oneOf_none v (by exact ho)]
      simp only [assemble]
      rw [joinAt_of_conflict (by exact ht) hu]
      obtain ⟨type, nullable, items, properties, oneOf⟩ := s
      obtain rfl : nullable = none := hn
      rfl
  · rw [place_of_oneOf_some v rfl, placeIn_cons]
    split
    · rfl
    · rw [placeIn_cons]
      split <;> rfl

/-! ## One more value among the alternatives -/

@[simp] theorem ofValues_append (vs ws : List Json) :
    ofValues (vs ++ ws) = mergeItems (ofValues vs) ws := by
  simp [ofValues, mergeItems_eq_foldl]

theorem mergeMembers_append (ps : List (String × Schema)) (ms ns : List (String × Json)) :
    mergeMembers ps (ms ++ ns) = mergeMembers (mergeMembers ps ms) ns := by
  simp [mergeMembers_eq_foldl]

/-- Only the values of its kind count for an alternative. -/
theorem alternative_append_of_ne (vs : List Json) {v : Json} {k : DataType} (hk : k.kind = k)
    (hne : (of v).kind ≠ k) : alternative (vs ++ [v]) k = alternative vs k := by
  cases k
  case integer => simp [kind] at hk
  case number =>
    have hv : (of v == DataType.number) = false := by
      cases h : of v <;> simp_all [kind]
    simp [alternative, hasFloat, hv]
  case array =>
    have hv : allItems [v] = [] := by
      cases v <;> simp_all [allItems, Json.items?, of, kind]
    simp [alternative, hv]
  case object =>
    have hv : allMembers [v] = [] := by
      cases v <;> simp_all [allMembers, Json.members?, of, kind]
    simp [alternative, hv]
  all_goals rfl

/-- A value widens the alternative of its kind to what the values with it make. -/
theorem place_alternative (vs : List Json) {v : Json} (hv : v ≠ .null) :
    place v (alternative vs (of v).kind) = alternative (vs ++ [v]) (of v).kind := by
  have ho := (isPlain_alternative vs (kind_eq_unknown.not.2 (of_ne_unknown hv))).oneOf_eq
  rw [place_of_oneOf_none v ho]
  rcases v with _ | b | (n | x) | r | xs | ms
  · exact absurd rfl hv
  · exact joinAt_of_join rfl rfl
  · by_cases h : hasFloat vs
    · have ht : (alternative vs .number).type = some .number := by simp [alternative, h]
      refine (joinAt_of_join ht rfl).trans ?_
      simp_all [widen, alternative, hasFloat, of, kind]
    · have ht : (alternative vs .number).type = some .integer := by simp [alternative, h]
      refine (joinAt_of_join ht rfl).trans ?_
      simp_all [widen, alternative, hasFloat, of, kind]
  · have hf : hasFloat (vs ++ [.number (.float x)]) := by simp [hasFloat, of]
    by_cases h : hasFloat vs
    · have ht : (alternative vs .number).type = some .number := by simp [alternative, h]
      refine (joinAt_of_join ht rfl).trans ?_
      simp [widen, alternative, hf, of, kind]
    · have ht : (alternative vs .number).type = some .integer := by simp [alternative, h]
      refine (joinAt_of_join ht rfl).trans ?_
      simp [widen, alternative, hf, of, kind]
  · exact joinAt_of_join rfl rfl
  · refine (joinAt_of_join rfl rfl).trans ?_
    simp [widen, alternative, of, kind, allItems, Json.items?]
  · refine (joinAt_of_join rfl rfl).trans ?_
    simp [widen, alternative, of, kind, allMembers, Json.members?, mergeMembers_append]

/-- The first value of its kind makes a new alternative. -/
theorem widen_empty_eq_alternative {vs : List Json} {v : Json} (hv : v ≠ .null)
    (h : (of v).kind ∉ kinds vs) :
    widen v (of v) empty = alternative (vs ++ [v]) (of v).kind := by
  have hall : ∀ w ∈ vs, w ≠ .null → (of w).kind ≠ (of v).kind := fun w hw hn hk =>
    h (mem_kinds.2 ⟨w, hw, hn, hk⟩)
  rcases v with _ | b | (n | x) | r | xs | ms
  · exact absurd rfl hv
  · rfl
  · have hf : hasFloat (vs ++ [.number (.int n)]) = false := by
      simp only [hasFloat, List.any_append, List.any_cons, List.any_nil, Bool.or_false,
        Bool.or_eq_false_iff, List.any_eq_false]
      refine ⟨fun w hw hwf => hall w hw ?_ ?_, rfl⟩
      · rintro rfl
        simp [of] at hwf
      · rw [eq_of_beq hwf]
        rfl
    simp [widen, alternative, hf, of, kind, empty]
  · have hf : hasFloat (vs ++ [.number (.float x)]) := by simp [hasFloat, of]
    simp [widen, alternative, hf, of, kind, empty]
  · rfl
  · have hi : allItems vs = [] := by
      refine List.eq_nil_iff_forall_not_mem.2 fun x hx => ?_
      obtain ⟨ys, hys, -⟩ := mem_allItems.1 hx
      exact hall _ hys (by simp) rfl
    have hxs : allItems [.array xs] = xs := by simp [allItems, Json.items?]
    simp [widen, alternative, of, kind, empty, hi, hxs, ofValues, mergeItems_eq_foldl]
  · have hm : allMembers vs = [] := by
      refine List.eq_nil_iff_forall_not_mem.2 fun x hx => ?_
      obtain ⟨ns, hns, -⟩ := mem_allMembers.1 hx
      exact hall _ hns (by simp) rfl
    have hms : allMembers [.object ms] = ms := by simp [allMembers, Json.members?]
    simp [widen, alternative, of, kind, empty, hm, hms]

/-- A value among the alternatives of some kinds. -/
theorem placeIn_alternatives (vs : List Json) {v : Json} (hv : v ≠ .null) : (ks : List DataType) →
    ks.Nodup → (∀ k ∈ ks, k.kind = k ∧ k ≠ .unknown) →
    placeIn v (ks.map (alternative vs)) =
      if (of v).kind ∈ ks then ks.map (alternative (vs ++ [v]))
      else ks.map (alternative (vs ++ [v])) ++ [widen v (of v) empty]
  | [], _, _ => by simp
  | k :: ks, hnd, hks => by
    obtain ⟨hk, hku⟩ := hks k List.mem_cons_self
    obtain ⟨hkn, hnd⟩ := List.nodup_cons.1 hnd
    have htakes : (alternative vs k).takes (of v) ↔ (of v).kind = k := by
      obtain ⟨t, ht, hu⟩ := (isPlain_alternative vs hku).exists_type
      rw [takes_iff (of_ne_unknown hv), alternative_kind vs hk, ht]
      simp [hu, eq_comm]
    rw [List.map_cons, placeIn_cons]
    by_cases h : (of v).kind = k
    · subst h
      have hrest : ks.map (alternative (vs ++ [v])) = ks.map (alternative vs) :=
        List.map_congr_left fun l hl => alternative_append_of_ne vs
          (hks l (List.mem_cons_of_mem _ hl)).1 fun hl' => hkn (hl' ▸ hl)
      rw [if_pos (htakes.2 rfl), if_pos List.mem_cons_self, List.map_cons, hrest,
        place_alternative vs hv]
    · rw [if_neg fun ht => h (htakes.1 ht),
        placeIn_alternatives vs hv ks hnd fun l hl => hks l (List.mem_cons_of_mem _ hl),
        ← alternative_append_of_ne vs hk h]
      simp only [List.mem_cons, h, false_or, List.map_cons]
      split <;> rfl

/-! ## The closed form -/

/-- The values among some sightings. -/
def valuesOf (sightings : List Sighting) : List Json :=
  sightings.filterMap fun x => match x with | .value v => some v | .shapeless => none

theorem mem_valuesOf {v : Json} {sightings : List Sighting} :
    v ∈ valuesOf sightings ↔ .value v ∈ sightings := by
  simp only [valuesOf, List.mem_filterMap]
  constructor
  · rintro ⟨x | _, hx, h⟩ <;> simp at h
    exact h ▸ hx
  · intro h
    exact ⟨_, h, rfl⟩

/-- The alternatives for the kinds of some values. -/
def alternatives (vs : List Json) : List Schema := (kinds vs).map (alternative vs)

theorem isPlain_of_mem_alternatives {vs : List Json} {s : Schema} (h : s ∈ alternatives vs) :
    IsPlain s := by
  obtain ⟨k, hk, rfl⟩ := List.mem_map.1 h
  exact isPlain_alternative vs (kind_of_mem_kinds hk).2

theorem placeIn_alternatives_kinds (vs : List Json) {v : Json} (hv : v ≠ .null) :
    placeIn v (alternatives vs) = alternatives (vs ++ [v]) := by
  rw [alternatives, placeIn_alternatives vs hv _ (nodup_kinds vs) fun k => kind_of_mem_kinds,
    alternatives, kinds_append, noteKind]
  by_cases h : (of v).kind ∈ kinds vs
  · simp [h]
  · simp [h, hv, widen_empty_eq_alternative hv h]

theorem alternatives_append_null (vs : List Json) :
    alternatives (vs ++ [.null]) = alternatives vs := by
  have hk : kinds (vs ++ [.null]) = kinds vs := by
    rw [kinds_append]
    rfl
  rw [alternatives, alternatives, hk]
  refine List.map_congr_left fun k hks => alternative_append_of_ne vs (kind_of_mem_kinds hks).1 ?_
  exact fun h => (kind_of_mem_kinds hks).2 h.symm

/-- **The schema that sightings make**, in closed form. -/
theorem seeAll_empty (sightings : List Sighting) :
    empty.seeAll sightings =
      assemble (nullability (valuesOf sightings)) (!sightings.isEmpty)
        (alternatives (valuesOf sightings)) := by
  induction sightings using List.reverseRecOn with
  | nil => rfl
  | append_singleton seen x ih =>
    have hplain : ∀ s ∈ alternatives (valuesOf seen), IsPlain s :=
      fun s => isPlain_of_mem_alternatives
    have hnull : (!seen.isEmpty) = false → nullability (valuesOf seen) = none := by
      intro h
      obtain rfl : seen = [] := by simpa using h
      rfl
    have hstep : empty.seeAll (seen ++ [x]) = (empty.seeAll seen).see x := by simp [seeAll]
    have hsome : (!(seen ++ [x]).isEmpty) = true := by simp
    rw [hstep, ih, hsome]
    cases x with
    | shapeless =>
      have hvs : valuesOf (seen ++ [.shapeless]) = valuesOf seen := by simp [valuesOf]
      rw [see, hvs, mergeUnknown_assemble hplain hnull]
    | value v =>
      have hvs : valuesOf (seen ++ [.value v]) = valuesOf seen ++ [v] := by simp [valuesOf]
      rw [see, hvs]
      by_cases hv : v = .null
      · subst hv
        have hn : nullability (valuesOf seen ++ [.null]) = some true := by
          simp [nullability]
        rw [merge, mergeNull_assemble hplain hnull, hn, alternatives_append_null]
      · rw [merge_eq_place hv, place_assemble hv _ _ hplain, placeIn_alternatives_kinds _ hv]
        simp [nullability, Ne.symm hv]

theorem ofValues_eq_seeAll (vs : List Json) : ofValues vs = empty.seeAll (vs.map .value) := by
  induction vs using List.reverseRecOn with
  | nil => rfl
  | append_singleton vs v ih => simp_all [ofValues, seeAll, see]

theorem ofValues_eq (vs : List Json) :
    ofValues vs = assemble (nullability vs) (!vs.isEmpty) (alternatives vs) := by
  have hvs : valuesOf (vs.map .value) = vs := by simp [valuesOf, List.filterMap_map]
  rw [ofValues_eq_seeAll, seeAll_empty, hvs, List.isEmpty_map]

/-! ## The properties that members make -/

theorem ordered_mergeMembers {ps : List (String × Schema)} (h : Dict.Ordered ps)
    (ms : List (String × Json)) : Dict.Ordered (mergeMembers ps ms) :=
  mergeMembers_induction (P := Dict.Ordered) (fun _ _ h => Dict.ordered_alter _ _ h) h ms

/-- Under each key stands the schema of the values with that key. -/
theorem seek?_mergeMembers (key : String) (ms : List (String × Json)) :
    Dict.seek? key (mergeMembers [] ms) =
      if under key ms = [] then none else some (ofValues (under key ms)) := by
  induction ms using List.reverseRecOn with
  | nil => simp [mergeMembers, under]
  | append_singleton ms m ih =>
    obtain ⟨k, x⟩ := m
    have hstep : mergeMembers [] (ms ++ [(k, x)]) = mergeMember (mergeMembers [] ms) (k, x) := by
      simp [mergeMembers_eq_foldl]
    rw [hstep, mergeMember]
    by_cases hk : key = k
    · subst hk
      have hunder : under key [(key, x)] = [x] := by simp [under]
      have hold : (Dict.seek? key (mergeMembers [] ms)).getD empty = ofValues (under key ms) := by
        rw [ih]
        split
        · next h => simp [h, ofValues]
        · rfl
      rw [Dict.seek?_alter_self, hold, under_append, hunder, ofValues_append]
      simp [mergeItems]
    · have hunder : under key [(k, x)] = [] := by simp [under, Ne.symm hk]
      rw [Dict.seek?_alter_of_ne hk, ih, under_append, hunder, List.append_nil]

end Schema

end TrafficLens
