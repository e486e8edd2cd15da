import TrafficLens.Proofs.Json.Shape
import TrafficLens.Proofs.Schema.Routing
import TrafficLens.Schema.Codec

/-!
# Schemas in documents

A document holds schemas as JSON, and every step that folds a value into one reads it, widens it and
writes it again. Nothing is lost on the way: what `toJson` writes, `ofJson?` reads as the same
schema, whatever the schema is (`ofJson?_toJson`). The rest of this module says what can be seen of
a schema without reading it: the parts under their names (`member?_toJson`), and that the JSON is in
order if the properties of the schema are (`lawful_toJson`), as they are after any sightings
(`Ordered.see`).
-/

namespace TrafficLens

theorem DataType.ofName?_name (t : DataType) : ofName? t.name = some t := by
  cases t <;> rfl

namespace Schema

/-! ## Reading what was written -/

/-- The members that a part of a schema is written as: one, or none. -/
def partMember (name : String) : Option Json → List (String × Json)
  | none => []
  | some v => [(name, v)]

/-- The members that a schema is written as, in the order of their keys. -/
def members (s : Schema) : List (String × Json) :=
  partMember "items" (s.items.map toJson) ++
    (partMember "nullable" (s.nullable.map .bool) ++
      (partMember "oneOf" (s.oneOf.map fun ss => .array (listToJson ss)) ++
        (partMember "properties" (s.properties.map fun ps => .object (propertiesToJson ps)) ++
          partMember "type" (s.type.map fun t => .string t.name))))

theorem toJson_eq (s : Schema) : s.toJson = .object s.members := by
  obtain ⟨type, nullable, items, properties, oneOf⟩ := s
  cases items <;> cases nullable <;> cases oneOf <;> cases properties <;> cases type <;> rfl

/-- Add a part that may be absent to a schema that was read. -/
def readPart (part : Part) (v : Option Json) (s : Option Schema) : Option Schema :=
  match v with
  | none => s
  | some v => s.bind fun s => addPart? part s v

/-- A member that is a part is read after the members that follow it. -/
theorem ofMembers?_partMember {n : String} {p : Part} (hp : Part.ofName? n = some p)
    (v : Option Json) (rest : List (String × Json)) :
    ofMembers? (partMember n v ++ rest) = readPart p v (ofMembers? rest) := by
  cases v with
  | none => rfl
  | some v => simp [partMember, ofMembers?, readPart, hp]

mutual

/-- **What is written is read as the same schema.** The parts are read from the last to the first.
-/
theorem ofJson?_toJson : (s : Schema) → ofJson? s.toJson = some s
  | ⟨type, nullable, items, properties, oneOf⟩ => by
    have htype : readPart .type (type.map fun t => .string t.name) (some empty) =
        some ({ type } : Schema) := by
      cases type with
      | none => rfl
      | some t => simp [readPart, addPart?, DataType.ofName?_name, empty]
    have hproperties : readPart .properties
        (properties.map fun ps => .object (propertiesToJson ps)) (some { type }) =
        some ({ type, properties } : Schema) := by
      cases properties with
      | none => rfl
      | some ps => simp [readPart, addPart?, propertiesOfJson?_propertiesToJson ps]
    have honeOf : readPart .oneOf (oneOf.map fun ss => .array (listToJson ss))
        (some { type, properties }) = some ({ type, properties, oneOf } : Schema) := by
      cases oneOf with
      | none => rfl
      | some ss => simp [readPart, addPart?, listOfJson?_listToJson ss]
    have hnullable : readPart .nullable (nullable.map .bool) (some { type, properties, oneOf }) =
        some ({ type, nullable, properties, oneOf } : Schema) := by
      cases nullable <;> rfl
    have hitems : readPart .items (items.map toJson) (some { type, nullable, properties, oneOf }) =
        some ({ type, nullable, items, properties, oneOf } : Schema) := by
      cases items with
      | none => rfl
      | some s =>
        have hs := ofJson?_toJson s
        rw [toJson_eq, ofJson?] at hs
        simp [readPart, toJson_eq, addPart?, hs]
    rw [toJson_eq, ofJson?, members, ← List.append_nil (partMember "type" _),
      ofMembers?_partMember (p := .items) rfl, ofMembers?_partMember (p := .nullable) rfl,
      ofMembers?_partMember (p := .oneOf) rfl, ofMembers?_partMember (p := .properties) rfl,
      ofMembers?_partMember (p := .type) rfl, ofMembers?, htype, hproperties, honeOf, hnullable,
      hitems]

theorem propertiesOfJson?_propertiesToJson : (ps : List (String × Schema)) →
    propertiesOfJson? (propertiesToJson ps) = some ps
  | [] => rfl
  | (k, s) :: ps => by
    simp [propertiesToJson, propertiesOfJson?, ofJson?_toJson s,
      propertiesOfJson?_propertiesToJson ps]

theorem listOfJson?_listToJson : (ss : List Schema) → listOfJson? (listToJson ss) = some ss
  | [] => rfl
  | s :: ss => by
    simp [listToJson, listOfJson?, ofJson?_toJson s, listOfJson?_listToJson ss]

end

/-! ## The parts under their names -/

theorem find?_partMember (key n : String) (v : Option Json) :
    Dict.find? key (partMember n v) = if n = key then v else none := by
  cases v with
  | none => simp [partMember]
  | some v => simp [partMember, Dict.find?_cons]

theorem member?_toJson (key : String) (s : Schema) :
    s.toJson.member? key = Dict.find? key s.members := by
  rw [toJson_eq]
  rfl

@[simp] theorem member?_items (s : Schema) : s.toJson.member? "items" = s.items.map toJson := by
  simp [member?_toJson, members, Dict.find?_append, find?_partMember]

@[simp] theorem member?_properties (s : Schema) :
    s.toJson.member? "properties" = s.properties.map fun ps => .object (propertiesToJson ps) := by
  simp [member?_toJson, members, Dict.find?_append, find?_partMember]

/-- A schema that was written is no reference to another place. -/
@[simp] theorem member?_ref (s : Schema) : s.toJson.member? "$ref" = none := by
  simp [member?_toJson, members, Dict.find?_append, find?_partMember]

theorem find?_propertiesToJson (key : String) (ps : List (String × Schema)) :
    Dict.find? key (propertiesToJson ps) = (Dict.find? key ps).map toJson := by
  induction ps with
  | nil => rfl
  | cons p ps ih =>
    obtain ⟨k, s⟩ := p
    rw [propertiesToJson, Dict.find?_cons, Dict.find?_cons, ih]
    split <;> rfl

theorem keys_propertiesToJson (ps : List (String × Schema)) :
    Dict.keys (propertiesToJson ps) = Dict.keys ps := by
  induction ps with
  | nil => rfl
  | cons p ps ih => exact congrArg (p.1 :: ·) ih

/-! ## Order -/

mutual

/-- The properties are in the order of their names, at every depth. -/
def Ordered : Schema → Prop
  | ⟨_, _, items, properties, oneOf⟩ =>
    (match items with
      | none => True
      | some s => Ordered s) ∧
      (match properties with
       | none => True
       | some ps => Dict.Ordered ps ∧ OrderedProperties ps) ∧
      (match oneOf with
       | none => True
       | some ss => OrderedEach ss)
termination_by structural s => s

/-- The schemas of all the properties are in order. -/
def OrderedProperties : List (String × Schema) → Prop
  | [] => True
  | (_, s) :: ps => Ordered s ∧ OrderedProperties ps
termination_by structural ps => ps

/-- All the schemas are in order. -/
def OrderedEach : List Schema → Prop
  | [] => True
  | s :: ss => Ordered s ∧ OrderedEach ss
termination_by structural ss => ss

end

theorem orderedProperties_iff {ps : List (String × Schema)} :
    OrderedProperties ps ↔ ∀ p ∈ ps, p.2.Ordered := by
  induction ps with
  | nil => simp [OrderedProperties]
  | cons p ps ih =>
    obtain ⟨k, s⟩ := p
    rw [OrderedProperties, ih, List.forall_mem_cons]

theorem orderedEach_iff {ss : List Schema} : OrderedEach ss ↔ ∀ s ∈ ss, s.Ordered := by
  induction ss with
  | nil => simp [OrderedEach]
  | cons s ss ih => rw [OrderedEach, ih, List.forall_mem_cons]

/-- A schema is in order if its parts are. -/
theorem ordered_iff {s : Schema} :
    s.Ordered ↔ (∀ i ∈ s.items, i.Ordered) ∧
      (∀ ps ∈ s.properties, Dict.Ordered ps ∧ ∀ p ∈ ps, p.2.Ordered) ∧
      ∀ ss ∈ s.oneOf, ∀ x ∈ ss, x.Ordered := by
  obtain ⟨type, nullable, items, properties, oneOf⟩ := s
  rw [Ordered.eq_def]
  refine and_congr ?_ (and_congr ?_ ?_)
  · cases items <;> simp
  · cases properties <;> simp [orderedProperties_iff]
  · cases oneOf <;> simp [orderedEach_iff]

theorem ordered_empty : empty.Ordered := ⟨trivial, trivial, trivial⟩

theorem sublist_keys_partMember (n : String) (v : Option Json) :
    (Dict.keys (partMember n v)).Sublist [n] := by
  cases v with
  | none => exact List.nil_sublist _
  | some v => exact List.Sublist.refl _

/-- The parts of a schema are written in the order of their names. -/
theorem ordered_members (s : Schema) : Dict.Ordered s.members := by
  have hkeys : (Dict.keys s.members).Sublist
      (["items"] ++ (["nullable"] ++ (["oneOf"] ++ (["properties"] ++ ["type"])))) := by
    unfold members Dict.keys
    simp only [List.map_append]
    exact (sublist_keys_partMember _ _).append <| (sublist_keys_partMember _ _).append <|
      (sublist_keys_partMember _ _).append <| (sublist_keys_partMember _ _).append <|
        sublist_keys_partMember _ _
  have hnames : ["items", "nullable", "oneOf", "properties", "type"].Pairwise
      fun a b => compare a b = .lt := by decide
  exact Dict.ordered_iff_keys.2 (hnames.sublist hkeys)

variable {allowed : JsonNumber → Prop}

theorem lawful_partMember {n : String} {v : Option Json} (h : ∀ x ∈ v, x.Lawful allowed) :
    ∀ m ∈ partMember n v, m.2.Lawful allowed := by
  cases v with
  | none => simp [partMember]
  | some v => simpa [partMember] using h v rfl

mutual

/-- **A schema in order is written in order.** -/
theorem lawful_toJson : (s : Schema) → s.Ordered → s.toJson.Lawful allowed
  | ⟨type, nullable, items, properties, oneOf⟩, h => by
    rw [Ordered.eq_def] at h
    obtain ⟨hitems, hproperties, honeOf⟩ := h
    rw [toJson_eq, Json.lawful_object_iff]
    refine ⟨ordered_members _, ?_⟩
    simp only [members, List.forall_mem_append]
    refine ⟨lawful_partMember ?_, lawful_partMember ?_, lawful_partMember ?_, lawful_partMember ?_,
      lawful_partMember ?_⟩
    · cases items with
      | none => simp
      | some s => simpa using lawful_toJson s hitems
    · cases nullable with
      | none => simp
      | some b => simp [Json.Lawful]
    · cases oneOf with
      | none => simp
      | some ss => simpa [Json.lawful_array_iff] using lawful_listToJson ss honeOf
    · cases properties with
      | none => simp
      | some ps =>
        have hkeys : Dict.Ordered (propertiesToJson ps) := by
          rw [Dict.ordered_iff_keys, keys_propertiesToJson]
          exact Dict.ordered_iff_keys.1 hproperties.1
        simpa [Json.lawful_object_iff, hkeys] using lawful_propertiesToJson ps hproperties.2
    · cases type with
      | none => simp
      | some t => simp [Json.Lawful]

theorem lawful_propertiesToJson : (ps : List (String × Schema)) → OrderedProperties ps →
    ∀ k v, (k, v) ∈ propertiesToJson ps → v.Lawful allowed
  | [], _ => by simp [propertiesToJson]
  | (l, s) :: ps, h => by
    have hs := lawful_toJson s h.1
    have hps := lawful_propertiesToJson ps h.2
    intro k v hv
    rcases List.mem_cons.1 hv with hv | hv
    · rw [(Prod.mk.inj hv).2]
      exact hs
    · exact hps k v hv

theorem lawful_listToJson : (ss : List Schema) → OrderedEach ss →
    ∀ v ∈ listToJson ss, v.Lawful allowed
  | [], _ => by simp [listToJson]
  | s :: ss, h => by
    rw [listToJson, List.forall_mem_cons]
    exact ⟨lawful_toJson s h.1, lawful_listToJson ss h.2⟩

end

/-! ## Order is kept -/

mutual

theorem ordered_routeTo {a : DataType} {change : Schema → Schema}
    (hchange : ∀ s : Schema, s.Ordered → (change s).Ordered) :
    (s : Schema) → s.Ordered → (routeTo a change s).Ordered
  | ⟨type, nullable, items, properties, none⟩, h => hchange _ h
  | ⟨type, nullable, items, properties, some ss⟩, h => by
    rw [Ordered.eq_def] at h
    rw [routeTo, Ordered.eq_def]
    exact ⟨h.1, h.2.1, ordered_routeList hchange ss h.2.2⟩

theorem ordered_routeList {a : DataType} {change : Schema → Schema}
    (hchange : ∀ s : Schema, s.Ordered → (change s).Ordered) :
    (ss : List Schema) → OrderedEach ss → OrderedEach (routeList a change ss)
  | [], _ => ⟨hchange empty ordered_empty, trivial⟩
  | s :: ss, h => by
    rw [routeList]
    split
    · exact ⟨ordered_routeTo hchange s h.1, h.2⟩
    · exact ⟨h.1, ordered_routeList hchange ss h.2⟩

end

/-- Only items, properties and alternatives count. -/
theorem Ordered.congr {s t : Schema} (h : s.Ordered) (hi : t.items = s.items)
    (hp : t.properties = s.properties) (ho : t.oneOf = s.oneOf) : t.Ordered := by
  rw [ordered_iff, hi, hp, ho]
  exact ordered_iff.1 h

theorem ordered_joinAt {a : DataType} {f : DataType → Schema → Schema}
    (hf : ∀ (t : DataType) (s : Schema), s.Ordered → (f t s).Ordered) {s : Schema}
    (h : s.Ordered) : (joinAt a f s).Ordered := by
  unfold joinAt
  split
  · exact hf _ _ h
  · exact ⟨trivial, trivial, h.congr rfl rfl rfl, hf _ _ ordered_empty, trivial⟩

/-- A value that is not `null` keeps the order if its parts do. -/
theorem ordered_place {v : Json} (hv : ∀ (t : DataType) (s : Schema), s.Ordered →
    (widen v t s).Ordered) {s : Schema} (h : s.Ordered) : (place v s).Ordered :=
  ordered_routeTo (fun _ hs => ordered_joinAt hv hs) s h

theorem ordered_getD {s : Option Schema} (h : ∀ t ∈ s, t.Ordered) : (s.getD empty).Ordered := by
  cases s with
  | none => exact ordered_empty
  | some t => exact h t rfl

mutual

/-- **Folding in a value keeps the order**, whatever the value is. -/
theorem Ordered.merge : (v : Json) → ∀ {s : Schema}, s.Ordered → (merge s v).Ordered
  | .null, s, h => by
    rw [Schema.merge, mergeNull]
    split
    · exact ⟨trivial, trivial, trivial⟩
    · exact h.congr rfl rfl rfl
  | .bool b, s, h => by
    rw [merge_eq_place (by simp)]
    exact ordered_place (fun _ _ hs => hs.congr rfl rfl rfl) h
  | .number n, s, h => by
    rw [merge_eq_place (by simp)]
    exact ordered_place (fun _ _ hs => hs.congr rfl rfl rfl) h
  | .string t, s, h => by
    rw [merge_eq_place (by simp)]
    exact ordered_place (fun _ _ hs => hs.congr rfl rfl rfl) h
  | .array xs, s, h => by
    rw [merge_eq_place (by simp)]
    refine ordered_place (fun t s hs => ?_) h
    obtain ⟨hitems, hproperties, -⟩ := ordered_iff.1 hs
    have hmerged := Ordered.mergeItems xs (ordered_getD hitems)
    exact ordered_iff.2 ⟨by simpa [widen] using hmerged, hproperties, by simp [widen]⟩
  | .object ms, s, h => by
    rw [merge_eq_place (by simp)]
    refine ordered_place (fun t s hs => ?_) h
    obtain ⟨hitems, hproperties, -⟩ := ordered_iff.1 hs
    have hold : Dict.Ordered (s.properties.getD []) ∧ OrderedProperties (s.properties.getD []) := by
      cases hp : s.properties with
      | none => exact ⟨Dict.ordered_nil, trivial⟩
      | some ps => exact ⟨(hproperties ps hp).1, orderedProperties_iff.2 (hproperties ps hp).2⟩
    obtain ⟨hkeys, hall⟩ := Ordered.mergeMembers ms hold.1 hold.2
    have hnew : ∀ ps ∈ (widen (.object ms) t s).properties,
        Dict.Ordered ps ∧ ∀ p ∈ ps, p.2.Ordered := by
      rintro ps ⟨⟩
      exact ⟨hkeys, orderedProperties_iff.1 hall⟩
    exact ordered_iff.2 ⟨hitems, hnew, by simp [widen]⟩

theorem Ordered.mergeItems : (xs : List Json) → ∀ {s : Schema}, s.Ordered →
    (mergeItems s xs).Ordered
  | [], s, h => h
  | x :: xs, s, h => by
    rw [Schema.mergeItems]
    exact Ordered.mergeItems xs (Ordered.merge x h)

theorem Ordered.mergeMembers : (ms : List (String × Json)) → ∀ {ps : List (String × Schema)},
    Dict.Ordered ps → OrderedProperties ps →
    Dict.Ordered (mergeMembers ps ms) ∧ OrderedProperties (mergeMembers ps ms)
  | [], ps, hkeys, hall => ⟨hkeys, hall⟩
  | (k, x) :: ms, ps, hkeys, hall => by
    rw [Schema.mergeMembers]
    refine Ordered.mergeMembers ms (Dict.ordered_alter k _ hkeys) ?_
    rw [orderedProperties_iff] at hall ⊢
    exact Dict.forall_mem_alter hall fun old hold => Ordered.merge x (ordered_getD hold)

end

theorem Ordered.see {s : Schema} (h : s.Ordered) (x : Sighting) : (s.see x).Ordered := by
  cases x with
  | value v => exact Ordered.merge v h
  | shapeless =>
    rw [Schema.see, mergeUnknown]
    split
    · exact ⟨trivial, trivial, trivial⟩
    · exact h

mutual

/-- **What is read from a value in order is in order.** -/
theorem ordered_ofJson? : (v : Json) → v.Ordered → ∀ s, ofJson? v = some s → s.Ordered
  | .object ms, h, s, hs => ordered_ofMembers? ms h.2 s hs
  | .array xs, h, s, hs => ordered_ofParts? xs h Part.all s hs
  | .null, _, s, hs => by simp [ofJson?] at hs
  | .bool _, _, s, hs => by simp [ofJson?] at hs
  | .number _, _, s, hs => by simp [ofJson?] at hs
  | .string _, _, s, hs => by simp [ofJson?] at hs

theorem ordered_addPart? : (v : Json) → v.Ordered → ∀ (p : Part) (s t : Schema), s.Ordered →
    addPart? p s v = some t → t.Ordered
  | .null, _, p, s, t, hs, ht => by
    obtain rfl : s = t := by simpa [addPart?] using ht
    exact hs
  | .bool b, _, p, s, t, hs, ht => by
    obtain ⟨-, rfl⟩ : p = .nullable ∧ { s with nullable := some b } = t := by
      simpa [addPart?] using ht
    exact hs.congr rfl rfl rfl
  | .number _, _, p, s, t, hs, ht => by simp [addPart?] at ht
  | .string _, _, p, s, t, hs, ht => by
    obtain ⟨-, u, -, rfl⟩ : p = .type ∧ _ := by simpa [addPart?] using ht
    exact hs.congr rfl rfl rfl
  | .array xs, h, p, s, t, hs, ht => by
    obtain ⟨hi, hp, ho⟩ := ordered_iff.1 hs
    cases p with
    | items =>
      obtain ⟨x, hx, rfl⟩ : ∃ x, ofParts? Part.all xs = some x ∧ _ := by simpa [addPart?] using ht
      have hx := ordered_ofParts? xs h Part.all x hx
      exact ordered_iff.2 ⟨by simpa using hx, hp, ho⟩
    | oneOf =>
      obtain ⟨ss, hss, rfl⟩ : ∃ ss, listOfJson? xs = some ss ∧ _ := by simpa [addPart?] using ht
      have hss := orderedEach_iff.1 (ordered_listOfJson? xs h ss hss)
      exact ordered_iff.2 ⟨hi, hp, by simpa using hss⟩
    | type | nullable | properties => simp [addPart?] at ht
  | .object ms, h, p, s, t, hs, ht => by
    obtain ⟨hi, hp, ho⟩ := ordered_iff.1 hs
    cases p with
    | type =>
      obtain ⟨u, -, rfl⟩ : ∃ u, Json.asName? DataType.ofName? (.object ms) = some u ∧ _ := by
        simpa [addPart?] using ht
      exact ordered_iff.2 ⟨hi, hp, ho⟩
    | items =>
      obtain ⟨x, hx, rfl⟩ : ∃ x, ofMembers? ms = some x ∧ _ := by simpa [addPart?] using ht
      have hx := ordered_ofMembers? ms h.2 x hx
      exact ordered_iff.2 ⟨by simpa using hx, hp, ho⟩
    | properties =>
      obtain ⟨ps, hps, rfl⟩ : ∃ ps, propertiesOfJson? ms = some ps ∧ _ := by
        simpa [addPart?] using ht
      obtain ⟨hkeys, hall⟩ := ordered_propertiesOfJson? ms h.2 ps hps
      have hordered : Dict.Ordered ps := by
        rw [Dict.ordered_iff_keys, hkeys]
        exact Dict.ordered_iff_keys.1 h.1
      have hnew : ∀ qs ∈ some ps, Dict.Ordered qs ∧ ∀ q ∈ qs, q.2.Ordered := by
        rintro qs ⟨⟩
        exact ⟨hordered, orderedProperties_iff.1 hall⟩
      exact ordered_iff.2 ⟨hi, hnew, ho⟩
    | nullable | oneOf => simp [addPart?] at ht

theorem ordered_ofMembers? : (ms : List (String × Json)) →
    Json.LawfulMembers (fun _ => True) ms → ∀ s, ofMembers? ms = some s → s.Ordered
  | [], _, s, hs => by
    obtain rfl : empty = s := by simpa [ofMembers?] using hs
    exact ordered_empty
  | (k, v) :: ms, h, s, hs => by
    rw [ofMembers?] at hs
    split at hs
    · exact ordered_ofMembers? ms h.2 s hs
    · obtain ⟨r, hr, hs⟩ := Option.bind_eq_some_iff.1 hs
      exact ordered_addPart? v h.1 _ r s (ordered_ofMembers? ms h.2 r hr) hs

theorem ordered_ofParts? : (xs : List Json) → Json.LawfulItems (fun _ => True) xs →
    ∀ parts s, ofParts? parts xs = some s → s.Ordered
  | [], _, parts, s, hs => by
    obtain rfl : empty = s := by simpa [ofParts?] using hs
    exact ordered_empty
  | v :: xs, h, parts, s, hs => by
    cases parts with
    | nil => simp [ofParts?] at hs
    | cons part parts =>
      rw [ofParts?] at hs
      obtain ⟨r, hr, hs⟩ := Option.bind_eq_some_iff.1 hs
      exact ordered_addPart? v h.1 part r s (ordered_ofParts? xs h.2 parts r hr) hs

theorem ordered_listOfJson? : (xs : List Json) → Json.LawfulItems (fun _ => True) xs →
    ∀ ss, listOfJson? xs = some ss → OrderedEach ss
  | [], _, ss, hss => by
    obtain rfl : [] = ss := by simpa [listOfJson?] using hss
    trivial
  | v :: xs, h, ss, hss => by
    rw [listOfJson?] at hss
    obtain ⟨s, hs, hss⟩ := Option.bind_eq_some_iff.1 hss
    obtain ⟨rest, hrest, rfl⟩ := Option.map_eq_some_iff.1 hss
    exact ⟨ordered_ofJson? v h.1 s hs, ordered_listOfJson? xs h.2 rest hrest⟩

theorem ordered_propertiesOfJson? : (ms : List (String × Json)) →
    Json.LawfulMembers (fun _ => True) ms → ∀ ps, propertiesOfJson? ms = some ps →
    Dict.keys ps = Dict.keys ms ∧ OrderedProperties ps
  | [], _, ps, hps => by
    obtain rfl : [] = ps := by simpa [propertiesOfJson?] using hps
    exact ⟨rfl, trivial⟩
  | (k, v) :: ms, h, ps, hps => by
    rw [propertiesOfJson?] at hps
    obtain ⟨s, hs, hps⟩ := Option.bind_eq_some_iff.1 hps
    obtain ⟨rest, hrest, rfl⟩ := Option.map_eq_some_iff.1 hps
    obtain ⟨hkeys, hall⟩ := ordered_propertiesOfJson? ms h.2 rest hrest
    exact ⟨congrArg (k :: ·) hkeys, ordered_ofJson? v h.1 s hs, hall⟩

end

end Schema

end TrafficLens
