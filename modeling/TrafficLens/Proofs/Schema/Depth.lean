import TrafficLens.Proofs.Schema.Absorption
import TrafficLens.Proofs.Schema.Assembly
import TrafficLens.Proofs.Schema.Codec

/-!
# How deep a schema nests

The JSON of a schema nests deeper than the values that the schema was made of. A level of an object
becomes two, the schema of the object and the list of its properties, and where values of several
kinds have been seen there are two more for the alternatives.

So there are two bounds. `Json.levels` counts what the schema of a value needs at least, and a
schema that has absorbed a value is as deep as that (`Absorbed.levels_le`), whatever else it holds.
And a schema of values that nest in `d` levels each is at most `4 * d + 3` levels deep
(`depth_seeAll_empty_le`).
-/

namespace TrafficLens

namespace Json

mutual

/-- The levels that the schema of a value has at least. -/
def levels : Json → Nat
  | .array xs => itemsLevels xs + 1
  | .object ms => membersLevels ms + 2
  | _ => 1
termination_by structural v => v

/-- The levels that the schema of some items has at least. Without items it is an object all the
same. -/
def itemsLevels : List Json → Nat
  | [] => 1
  | x :: xs => max (levels x) (itemsLevels xs)
termination_by structural xs => xs

/-- The levels that the schemas of some members have at least. -/
def membersLevels : List (String × Json) → Nat
  | [] => 0
  | (_, x) :: ms => max (levels x) (membersLevels ms)
termination_by structural ms => ms

end

theorem membersDepth_append (ms ns : List (String × Json)) :
    membersDepth (ms ++ ns) = max (membersDepth ms) (membersDepth ns) := by
  induction ms with
  | nil => exact (Nat.zero_max _).symm
  | cons m ms ih =>
    obtain ⟨k, x⟩ := m
    rw [List.cons_append, membersDepth, membersDepth, ih, Nat.max_assoc]

/-- What nests in an array nests less deep. -/
theorem depth_lt_of_mem_items {xs : List Json} {x : Json} (h : x ∈ xs) :
    x.depth < (Json.array xs).depth :=
  Nat.lt_succ_of_le (itemsDepth_le_iff.1 (Nat.le_refl _) x h)

/-- What nests in an object nests less deep. -/
theorem depth_lt_of_mem_members {ms : List (String × Json)} {m : String × Json} (h : m ∈ ms) :
    m.2.depth < (Json.object ms).depth :=
  Nat.lt_succ_of_le (membersDepth_le_iff.1 (Nat.le_refl _) m h)

end Json

namespace Schema

open Evidence
open Json (levels itemsLevels membersLevels itemsDepth membersDepth)

/-! ## The parts of a schema -/

theorem membersDepth_partMember_le_iff {name : String} {v : Option Json} {n : Nat} :
    membersDepth (partMember name v) ≤ n ↔ ∀ x ∈ v, x.depth ≤ n := by
  cases v with
  | none => simp [partMember, membersDepth]
  | some v => simp [partMember, membersDepth]

/-- A schema is one level deeper than what it is written with. -/
theorem depth_toJson_le_iff {s : Schema} {n : Nat} :
    s.toJson.depth ≤ n + 1 ↔
      (∀ t ∈ s.items, t.toJson.depth ≤ n) ∧
      (∀ ss ∈ s.oneOf, itemsDepth (listToJson ss) + 1 ≤ n) ∧
      ∀ ps ∈ s.properties, membersDepth (propertiesToJson ps) + 1 ≤ n := by
  obtain ⟨type, nullable, items, properties, oneOf⟩ := s
  have hleaf : ∀ v : Json, v.depth = 0 → v.depth ≤ n := fun v hv => hv ▸ Nat.zero_le n
  have hnullable : ∀ x ∈ nullable.map Json.bool, x.depth ≤ n := by
    intro x hx
    obtain ⟨b, -, rfl⟩ := Option.map_eq_some_iff.1 hx
    exact hleaf _ rfl
  have htype : ∀ x ∈ type.map fun t => Json.string t.name, x.depth ≤ n := by
    intro x hx
    obtain ⟨t, -, rfl⟩ := Option.map_eq_some_iff.1 hx
    exact hleaf _ rfl
  rw [toJson_eq, Json.depth_object, Nat.succ_le_succ_iff, members]
  simp only [Json.membersDepth_append, Nat.max_le, membersDepth_partMember_le_iff]
  constructor
  · rintro ⟨hitems, -, honeOf, hproperties, -⟩
    exact ⟨fun t ht => hitems _ (Option.mem_map_of_mem toJson ht),
      fun ss hss => honeOf _ (Option.mem_map_of_mem _ hss),
      fun ps hps => hproperties _ (Option.mem_map_of_mem _ hps)⟩
  · rintro ⟨hitems, honeOf, hproperties⟩
    refine ⟨?_, hnullable, ?_, ?_, htype⟩
    · intro x hx
      obtain ⟨t, ht, rfl⟩ := Option.map_eq_some_iff.1 hx
      exact hitems t ht
    · intro x hx
      obtain ⟨ss, hss, rfl⟩ := Option.map_eq_some_iff.1 hx
      exact honeOf ss hss
    · intro x hx
      obtain ⟨ps, hps, rfl⟩ := Option.map_eq_some_iff.1 hx
      exact hproperties ps hps

theorem itemsDepth_listToJson_le_iff {ss : List Schema} {n : Nat} :
    itemsDepth (listToJson ss) ≤ n ↔ ∀ s ∈ ss, s.toJson.depth ≤ n := by
  induction ss with
  | nil => simp [listToJson, itemsDepth]
  | cons s ss ih => rw [listToJson, itemsDepth, Nat.max_le, ih, List.forall_mem_cons]

theorem membersDepth_propertiesToJson_le_iff {ps : List (String × Schema)} {n : Nat} :
    membersDepth (propertiesToJson ps) ≤ n ↔ ∀ p ∈ ps, p.2.toJson.depth ≤ n := by
  induction ps with
  | nil => simp [propertiesToJson, membersDepth]
  | cons p ps ih =>
    obtain ⟨k, s⟩ := p
    rw [propertiesToJson, membersDepth, Nat.max_le, ih, List.forall_mem_cons]

theorem depth_toJson_pos (s : Schema) : 1 ≤ s.toJson.depth := by
  rw [toJson_eq]
  exact Nat.succ_pos _

/-- The depth of a schema is one more than some bound on its parts. -/
theorem exists_depth_toJson (s : Schema) : ∃ n, s.toJson.depth = n + 1 :=
  Nat.exists_eq_add_one_of_ne_zero (Nat.ne_of_gt (depth_toJson_pos s))

/-! ## What is needed at least -/

mutual

theorem depth_branch?_le {a : DataType} : (s : Schema) → ∀ {p : Schema}, branch? a s = some p →
    p.toJson.depth ≤ s.toJson.depth
  | ⟨type, nullable, items, properties, none⟩, p, h => by
    rw [branch?_of_oneOf_none a rfl] at h
    split at h
    · obtain rfl := Option.some.inj h
      obtain ⟨n, hn⟩ := exists_depth_toJson ⟨type, nullable, items, properties, none⟩
      have hparts := depth_toJson_le_iff.1 (Nat.le_of_eq hn)
      rw [hn]
      exact depth_toJson_le_iff.2 hparts
    · cases h
  | ⟨type, nullable, items, properties, some ss⟩, p, h => by
    rw [branch?_of_oneOf_some a rfl] at h
    obtain ⟨n, hn⟩ := exists_depth_toJson ⟨type, nullable, items, properties, some ss⟩
    have hparts := depth_toJson_le_iff.1 (Nat.le_of_eq hn)
    have hss := hparts.2.1 ss rfl
    have hp := depth_branchIn?_le ss h
    omega

theorem depth_branchIn?_le {a : DataType} : (ss : List Schema) → ∀ {p : Schema},
    branchIn? a ss = some p → p.toJson.depth ≤ itemsDepth (listToJson ss)
  | [], p, h => by simp at h
  | s :: ss, p, h => by
    rw [branchIn?_cons] at h
    rw [listToJson, itemsDepth]
    split at h
    · exact Nat.le_trans (depth_branch?_le s h) (Nat.le_max_left _ _)
    · exact Nat.le_trans (depth_branchIn?_le ss h) (Nat.le_max_right _ _)

end

mutual

/-- **A schema is as deep as what it has absorbed makes it.** -/
theorem Absorbed.levels_le : (v : Json) → ∀ {s : Schema}, Absorbed v s →
    v.levels ≤ s.toJson.depth
  | .null, s, _ => depth_toJson_pos s
  | .bool _, s, _ => depth_toJson_pos s
  | .number _, s, _ => depth_toJson_pos s
  | .string _, s, _ => depth_toJson_pos s
  | .array xs, s, h => by
    obtain ⟨p, items, hp, hitems, hxs⟩ := h
    have hlevels := AbsorbedItems.levels_le xs hxs
    have hbranch := depth_branch?_le s hp
    obtain ⟨n, hn⟩ := exists_depth_toJson p
    have hpart := (depth_toJson_le_iff.1 (Nat.le_of_eq hn)).1 items hitems
    rw [levels]
    omega
  | .object ms, s, h => by
    obtain ⟨p, ps, hp, hps, hms⟩ := h
    have hlevels := AbsorbedMembers.levels_le ms hms
    have hbranch := depth_branch?_le s hp
    obtain ⟨n, hn⟩ := exists_depth_toJson p
    have hpart := (depth_toJson_le_iff.1 (Nat.le_of_eq hn)).2.2 ps hps
    rw [levels]
    omega

theorem AbsorbedItems.levels_le : (xs : List Json) → ∀ {s : Schema}, AbsorbedItems xs s →
    itemsLevels xs ≤ s.toJson.depth
  | [], s, _ => depth_toJson_pos s
  | x :: xs, s, h => by
    rw [itemsLevels]
    exact Nat.max_le.2 ⟨Absorbed.levels_le x h.1, AbsorbedItems.levels_le xs h.2⟩

theorem AbsorbedMembers.levels_le : (ms : List (String × Json)) →
    ∀ {ps : List (String × Schema)}, AbsorbedMembers ms ps →
    membersLevels ms ≤ membersDepth (propertiesToJson ps)
  | [], ps, _ => Nat.zero_le _
  | (k, x) :: ms, ps, h => by
    obtain ⟨⟨s, hs, hx⟩, hms⟩ := h
    have hmem := Dict.mem_of_seek? hs
    have hdepth : s.toJson.depth ≤ membersDepth (propertiesToJson ps) :=
      membersDepth_propertiesToJson_le_iff.1 (Nat.le_refl _) _ hmem
    rw [membersLevels]
    exact Nat.max_le.2 ⟨Nat.le_trans (Absorbed.levels_le x hx) hdepth,
      AbsorbedMembers.levels_le ms hms⟩

end

/-! ## What is needed at most -/

/-- Some alternatives of bounded depth make a schema that is two levels deeper at most. -/
theorem depth_assemble_le {n : Option Bool} {seen : Bool} {ss : List Schema} {b : Nat}
    (h : ∀ s ∈ ss, s.toJson.depth ≤ b + 1) : (assemble n seen ss).toJson.depth ≤ b + 3 := by
  rcases ss with _ | ⟨s, _ | ⟨t, rest⟩⟩
  · refine depth_toJson_le_iff.2 ⟨?_, ?_, ?_⟩ <;> simp [assemble]
  · have hparts := depth_toJson_le_iff.1 (h s (by simp))
    refine Nat.le_trans (depth_toJson_le_iff.2 hparts) ?_
    omega
  · have hlist := itemsDepth_listToJson_le_iff.2 h
    refine depth_toJson_le_iff.2 ⟨by simp [assemble], ?_, by simp [assemble]⟩
    rintro ss ⟨⟩
    omega

/-- The properties are those of the members, each with the schema of the values under its key. -/
theorem eq_ofValues_of_mem {ms : List (String × Json)} {p : String × Schema}
    (h : p ∈ mergeMembers [] ms) : p.2 = ofValues (under p.1 ms) := by
  have hordered := ordered_mergeMembers Dict.ordered_nil ms
  have hseek := (hordered.mem_iff).1 h
  rw [seek?_mergeMembers] at hseek
  split at hseek
  · cases hseek
  · exact (Option.some.inj hseek).symm

theorem exists_array_of_kind {v : Json} (h : (DataType.of v).kind = .array) :
    ∃ xs, v = .array xs := by
  rcases v with _ | _ | (_ | _) | _ | xs | _
  case array => exact ⟨xs, rfl⟩
  all_goals cases h

theorem exists_object_of_kind {v : Json} (h : (DataType.of v).kind = .object) :
    ∃ ms, v = .object ms := by
  rcases v with _ | _ | (_ | _) | _ | _ | ms
  case object => exact ⟨ms, rfl⟩
  all_goals cases h

/-- The alternative for one kind of values, if less deep values are known to make schemas of bounded
depth. -/
theorem depth_alternative_le {d : Nat} {vs : List Json} (h : ∀ v ∈ vs, v.depth ≤ d)
    (hinner : ∀ m < d, ∀ ws : List Json, (∀ w ∈ ws, w.depth ≤ m) →
      (ofValues ws).toJson.depth ≤ 4 * m + 3)
    {k : DataType} (hk : k ∈ kinds vs) : (alternative vs k).toJson.depth ≤ 4 * d + 1 := by
  obtain ⟨v, hv, -, hkind⟩ := mem_kinds.1 hk
  have hscalar : ∀ t : Option DataType, ({ type := t } : Schema).toJson.depth ≤ 4 * d + 1 :=
    fun t => depth_toJson_le_iff.2 ⟨by simp, by simp, by simp⟩
  cases k with
  | array =>
    obtain ⟨xs, rfl⟩ := exists_array_of_kind hkind
    have hpos : 0 < d := Nat.lt_of_lt_of_le (Nat.succ_pos _) (h _ hv)
    have hitems : ∀ w ∈ allItems vs, w.depth ≤ d - 1 := by
      intro w hw
      obtain ⟨ys, hys, hwys⟩ := mem_allItems.1 hw
      have hlt := Json.depth_lt_of_mem_items hwys
      have hle := h _ hys
      omega
    have hdepth := hinner (d - 1) (Nat.sub_lt hpos Nat.one_pos) _ hitems
    refine depth_toJson_le_iff.2 ⟨?_, by simp [alternative], by simp [alternative]⟩
    rintro s ⟨⟩
    omega
  | object =>
    obtain ⟨ms, rfl⟩ := exists_object_of_kind hkind
    have hpos : 0 < d := Nat.lt_of_lt_of_le (Nat.succ_pos _) (h _ hv)
    have hunder : ∀ key, ∀ w ∈ under key (allMembers vs), w.depth ≤ d - 1 := by
      intro key w hw
      obtain ⟨ns, hns, hmem⟩ := mem_allMembers.1 (mem_under.1 hw)
      have hlt : w.depth < (Json.object ns).depth := Json.depth_lt_of_mem_members hmem
      have hle := h _ hns
      omega
    have hproperties : ∀ p ∈ mergeMembers [] (allMembers vs), p.2.toJson.depth ≤ 4 * d - 1 := by
      intro p hp
      have hdepth := hinner (d - 1) (Nat.sub_lt hpos Nat.one_pos) _ (hunder p.1)
      rw [eq_ofValues_of_mem hp]
      omega
    have hall := membersDepth_propertiesToJson_le_iff.2 hproperties
    refine depth_toJson_le_iff.2 ⟨by simp [alternative], by simp [alternative], ?_⟩
    rintro ps ⟨⟩
    omega
  | string | integer | number | boolean | unknown => exact hscalar _

/-- **Values that nest in at most `d` levels make a schema of at most `4 * d + 3`.** -/
theorem depth_ofValues_le (d : Nat) : ∀ vs : List Json, (∀ v ∈ vs, v.depth ≤ d) →
    (ofValues vs).toJson.depth ≤ 4 * d + 3 := by
  induction d using Nat.strongRecOn with
  | ind d ih =>
    intro vs h
    rw [ofValues_eq]
    refine depth_assemble_le fun s hs => ?_
    obtain ⟨k, hk, rfl⟩ := List.mem_map.1 hs
    exact depth_alternative_le h ih hk

/-- The same for sightings, some of which may have no shape. -/
theorem depth_seeAll_empty_le {d : Nat} {sightings : List Sighting}
    (h : ∀ v, .value v ∈ sightings → v.depth ≤ d) :
    (empty.seeAll sightings).toJson.depth ≤ 4 * d + 3 := by
  have hvalues : ∀ v ∈ valuesOf sightings, v.depth ≤ d := fun v hv => h v (mem_valuesOf.1 hv)
  rw [seeAll_empty]
  refine depth_assemble_le fun s hs => ?_
  obtain ⟨k, hk, rfl⟩ := List.mem_map.1 hs
  exact depth_alternative_le hvalues (fun m _ => depth_ofValues_le m) hk

end Schema

end TrafficLens
