import TrafficLens.Proofs.Document.Generated
import TrafficLens.Proofs.Json.Reading
import TrafficLens.Proofs.Schema.Depth

/-!
# Loading a saved document

A generated document is saved as text and read again before the next traffic is merged. The reader
opens a bounded number of arrays and objects at once, the writer does not, and the schema of a body
nests deeper than the body. So a document that was read can become one that cannot be read, and
`parse?_saved` says when: what stands at some place that the trace says something to is too deep,
with the keys that lead to it.

Two conditions on the traffic alone follow from the bounds on schemas. If no value nests in more
than 29 levels then the document can be read (`parse?_generatedFrom`). If a body needs more levels
than are left at its place, then it cannot, whatever else is in the document
(`parse?_eq_none_of_levels`); for the body of a request 61 nested objects suffice.
-/

namespace TrafficLens.Document

open Json (maxDepth ReadsBack)

/-! ## The depth of a tree that is edited -/

/-- A member is less deep than the value that it is looked up in. -/
theorem exists_depth_lt_of_seek? {v : Option Json} {k : String} {x : Json}
    (h : Dict.seek? k (membersOf v) = some x) : ∃ y ∈ v, x.depth < y.depth :=
  ⟨_, eq_object_of_seek? h, Json.depth_lt_of_mem_members (Dict.mem_of_seek? h)⟩

/-- What stands at the end of a path is less deep than the tree, by as many levels as there are
keys. -/
theorem depth_add_length_le {path : List String} {v w : Json}
    (h : valueAt path (some v) = some w) : w.depth + path.length ≤ v.depth := by
  induction path generalizing v with
  | nil =>
    obtain rfl := Option.some.inj h
    exact Nat.le_refl _
  | cons k ks ih =>
    rw [valueAt] at h
    cases hk : Dict.seek? k (membersOf (some v)) with
    | none =>
      rw [hk, valueAt_none] at h
      cases h
    | some x =>
      obtain ⟨y, hy, hlt⟩ := exists_depth_lt_of_seek? hk
      obtain rfl := Option.some.inj hy
      rw [hk] at h
      have hx := ih h
      rw [List.length_cons]
      omega

section Run

variable {α : Type} {act : α → Option Json → Json}

/-- No edit ends on the way to another one. -/
def Apart (edits : List (List String × α)) : Prop :=
  ∀ d ∈ edits, ∀ e ∈ edits, d.1 <+: e.1 → d.1 = e.1

theorem Apart.below {edits : List (List String × α)} (h : Apart edits) (key : String) :
    Apart (below key edits) := by
  rintro ⟨p, a⟩ hp ⟨q, b⟩ hq hprefix
  have hwhole := h _ (mem_below.1 hp) _ (mem_below.1 hq) ((List.prefix_cons_inj key).2 hprefix)
  exact (List.cons.inj hwhole).2

/-- Where an edit is made stands something. -/
theorem exists_valueAt_run {edits : List (List String × α)} (hapart : Apart edits)
    {e : List String × α} (he : e ∈ edits) (v : Option Json) :
    ∃ w, valueAt e.1 (run act edits v) = some w := by
  have hmem : ([], e.2) ∈ belowPath e.1 edits := by
    rw [mem_belowPath, List.append_nil]
    exact he
  rw [valueAt_run fun d hd => hapart d hd e he]
  exact exists_run_eq_some (List.ne_nil_of_mem hmem) _

/-- What the edits below a key leave has one level less, if all edits have the levels of the
tree. -/
theorem depth_below_le {n : Nat} {edits : List (List String × α)} (hkeys : ∀ e ∈ edits, e.1 ≠ [])
    {v : Option Json}
    (h : ∀ d ∈ edits, ∀ w ∈ valueAt d.1 (run act edits v), w.depth + d.1.length ≤ n)
    (k : String) :
    ∀ d ∈ below k edits,
      ∀ w ∈ valueAt d.1 (run act (below k edits) (Dict.seek? k (membersOf v))),
        w.depth + d.1.length ≤ n - 1 := by
  rintro ⟨q, a⟩ hd w hw
  have hwhole : w.depth + (q.length + 1) ≤ n :=
    h _ (mem_below.1 hd) w (by rwa [valueAt, seek?_membersOf_run hkeys])
  exact Nat.le_sub_one_of_lt hwhole

/-- A tree stays within some levels if what the edits leave at their places does. The induction is
on the levels: below a key there is one less, and fewer edits. -/
theorem depth_run_le {n : Nat} {edits : List (List String × α)} (hapart : Apart edits)
    {v : Option Json} (hv : ∀ x ∈ v, x.depth ≤ n) (hordered : ∀ x ∈ run act edits v, x.Ordered)
    (h : ∀ d ∈ edits, ∀ w ∈ valueAt d.1 (run act edits v), w.depth + d.1.length ≤ n) :
    ∀ x ∈ run act edits v, x.depth ≤ n := by
  induction n using Nat.strongRecOn generalizing edits v with
  | ind n ih =>
    intro x hx
    by_cases hnil : edits = []
    · subst hnil
      exact hv x hx
    by_cases hroot : ∃ d ∈ edits, d.1 = []
    · obtain ⟨d, hd, hkeys⟩ := hroot
      have hdepth := h d hd x (by rwa [hkeys])
      omega
    -- All edits are below the root, so it is an object, and there is a level to spare.
    have hkeys : ∀ e ∈ edits, e.1 ≠ [] := fun e he hkey => hroot ⟨e, he, hkey⟩
    obtain ⟨e, he⟩ := List.exists_mem_of_ne_nil edits hnil
    obtain ⟨w, hw⟩ : ∃ w, valueAt e.1 (run act edits v) = some w :=
      exists_valueAt_run hapart he v
    have hplace := h e he w hw
    have hlength := List.length_pos_of_ne_nil (hkeys e he)
    have hobject : run act edits v = some (.object (membersOf (run act edits v))) :=
      run_eq_object hnil hkeys v
    obtain ⟨hsorted, hinner⟩ := Json.lawful_object_iff.1 (hordered _ hobject)
    have hbound : ∀ m ∈ membersOf (run act edits v), m.2.depth ≤ n - 1 := by
      rintro ⟨k, y⟩ hm
      have hseek : run act (below k edits) (Dict.seek? k (membersOf v)) = some y := by
        rw [← seek?_membersOf_run hkeys, ← hsorted.mem_iff]
        exact hm
      refine ih (n - 1) (by omega) (hapart.below k) ?_ ?_ (depth_below_le hkeys h k) y hseek
      · intro z hz
        obtain ⟨u, hu, hlt⟩ := exists_depth_lt_of_seek? hz
        have hle := hv u hu
        omega
      · rw [hseek]
        rintro z ⟨⟩
        exact hinner _ hm
    have hdepth := Json.membersDepth_le_iff.2 hbound
    rw [hobject] at hx
    obtain rfl := Option.some.inj hx
    rw [Json.depth_object]
    omega

/-- **A tree stays within some levels** exactly if what the edits leave at their places does. -/
theorem depth_run_le_iff {n : Nat} {edits : List (List String × α)} (hapart : Apart edits)
    {v : Option Json} (hv : ∀ x ∈ v, x.depth ≤ n) (hordered : ∀ x ∈ run act edits v, x.Ordered) :
    (∀ x ∈ run act edits v, x.depth ≤ n) ↔
      ∀ d ∈ edits, ∀ w ∈ valueAt d.1 (run act edits v), w.depth + d.1.length ≤ n := by
  constructor
  · intro h d hd w hw
    cases hrun : run act edits v with
    | none =>
      rw [hrun, valueAt_none] at hw
      cases hw
    | some x =>
      rw [hrun] at hw
      exact Nat.le_trans (depth_add_length_le hw) (h x hrun)
  · exact depth_run_le hapart hv hordered

end Run

theorem apart_editsOfAll (traffic : List (Endpoint × Trace)) : Apart (editsOfAll traffic) := by
  rintro ⟨p, a⟩ hp ⟨q, b⟩ hq hprefix
  obtain ⟨s, -, -, rfl⟩ := mem_editsOfAll.1 hp
  obtain ⟨t, -, -, rfl⟩ := mem_editsOfAll.1 hq
  obtain ⟨hoperation, hkeys⟩ := places_eq_of_begins hprefix
  exact congrArg₂ (· ++ ·) hoperation hkeys

/-! ## Which documents can be read -/

/-- What stands at the place of an entry, with the keys that lead to it, is within the levels that
may be open. -/
def Fits (doc : Json) (endpoint : Endpoint) (e : Entry) : Prop :=
  ∀ w ∈ valueAt (operationKeys endpoint ++ e.keys) (some doc),
    w.depth + (operationKeys endpoint ++ e.keys).length ≤ maxDepth

instance (doc : Json) (endpoint : Endpoint) (e : Entry) : Decidable (Fits doc endpoint e) :=
  inferInstanceAs (Decidable (∀ w ∈ valueAt (operationKeys endpoint ++ e.keys) (some doc),
    w.depth + (operationKeys endpoint ++ e.keys).length ≤ maxDepth))

/-- Merging traffic keeps a document within the levels that may be open exactly if it fits wherever
the traffic says something. -/
theorem depth_mergeAll_le_iff {members : Members} (hdepth : (Json.object members).depth ≤ maxDepth)
    (hordered : (Json.object members).Ordered) (traffic : List (Endpoint × Trace)) :
    (mergeAll (.object members) traffic).depth ≤ maxDepth ↔
      ∀ p ∈ traffic, ∀ e ∈ entriesOf p.1 p.2, Fits (mergeAll (.object members) traffic) p.1 e := by
  have hrun := run_editsOfAll members traffic
  have hstart : ∀ x ∈ some (Json.object members), x.depth ≤ maxDepth := by
    rintro x ⟨⟩
    exact hdepth
  have hend : ∀ x ∈ run Entry.write (editsOfAll traffic) (some (.object members)), x.Ordered := by
    rw [hrun]
    rintro x ⟨⟩
    exact lawful_mergeAll hordered traffic
  have hiff := depth_run_le_iff (apart_editsOfAll traffic) hstart hend
  rw [hrun] at hiff
  constructor
  · intro h p hp e he w hw
    have hall := hiff.1 (by rintro x ⟨⟩; exact h)
    exact hall _ (mem_editsOfAll.2 ⟨p, hp, he, rfl⟩) w hw
  · intro h
    refine hiff.2 ?_ _ rfl
    rintro ⟨path, e⟩ hd w hw
    obtain ⟨p, hp, he, rfl⟩ := mem_editsOfAll.1 hd
    exact h p hp e he w hw

/-- **A document that was read, with traffic merged into it,** can be read again exactly if it fits
wherever the traffic says something; and then it is read as itself. -/
theorem parse?_mergeAll {text : String} {members : Members}
    (hread : Json.parse? text = some (.object members))
    (hfloats : (Json.object members).Lawful Json.FloatReadsBack)
    (traffic : List (Endpoint × Trace)) :
    Json.parse? (mergeAll (.object members) traffic).toText =
      if ∀ p ∈ traffic, ∀ e ∈ entriesOf p.1 p.2, Fits (mergeAll (.object members) traffic) p.1 e
      then some (mergeAll (.object members) traffic) else none := by
  have hlawful := Json.lawful_of_parse? hread hfloats
  have hordered := Json.Lawful.mono (fun _ _ => trivial) _ hlawful
  have hdepth := (Json.within_of_parse? hread).depth_le
  rw [Json.parse?_toText (lawful_mergeAll hlawful traffic)]
  simp only [depth_mergeAll_le_iff hdepth hordered traffic]

/-- To merge one more trace is to generate from one more trace. -/
theorem generatedFrom_append_singleton (host : String) (traffic : List (Endpoint × Trace))
    (endpoint : Endpoint) (trace : Trace) :
    generatedFrom host (traffic ++ [(endpoint, trace)]) =
      (mergeTrace (generatedFrom host traffic) endpoint trace).2 := by
  rw [generatedFrom, mergeAll, List.foldl_append]
  rfl

theorem exists_generatedFrom_eq_object (host : String) (traffic : List (Endpoint × Trace)) :
    ∃ members, generatedFrom host traffic = .object members :=
  exists_mergeAll_eq_object _ traffic

/-- **A saved document is read as itself** if it fits wherever the trace that was merged last says
something. If it does not, it cannot be read at all. -/
theorem parse?_saved (host : String) (traffic : List (Endpoint × Trace)) {text : String}
    (hread : Json.parse? text = some (generatedFrom host traffic)) (endpoint : Endpoint)
    (trace : Trace) :
    let saved := (mergeTrace (generatedFrom host traffic) endpoint trace).2
    Json.parse? saved.toText =
      if ∀ e ∈ entriesOf endpoint trace, Fits saved endpoint e then some saved else none := by
  have hfloats : (generatedFrom host traffic).Lawful Json.FloatReadsBack :=
    lawful_generatedFrom host traffic
  obtain ⟨members, hmembers⟩ := exists_generatedFrom_eq_object host traffic
  rw [hmembers] at hread hfloats ⊢
  have hsaved := parse?_mergeAll hread hfloats [(endpoint, trace)]
  simp only [List.forall_mem_singleton] at hsaved
  exact hsaved

/-- One more body with an object is merged into a document that was saved before, and the document
can still be read. -/
theorem parse?_saved_small :
    let endpoint : Endpoint :=
      { id := .ofNat 1, host := "h", method := "POST", path := "/a", pathPattern := "",
        numberParams := 0 }
    let trace := Trace.bare (.ofNat 2) ⟨0, 0⟩ "h" "POST" "/a" 200
    let doc := generatedFrom "h" [(endpoint, { trace with requestBody := "[1]" })]
    let saved := (mergeTrace doc endpoint { trace with requestBody := "\x7b\"k\":[]\x7d" }).2
    Json.parse? doc.toText = some doc ∧ Json.parse? saved.toText = some saved := by
  intro endpoint trace doc saved
  have hread : Json.parse? doc.toText = some doc := by
    rw [Json.parse?_toText (lawful_generatedFrom _ _), if_pos (by decide +kernel)]
  have hsaved := parse?_saved "h" [(endpoint, { trace with requestBody := "[1]" })] hread endpoint
    { trace with requestBody := "\x7b\"k\":[]\x7d" }
  exact ⟨hread, hsaved.trans (if_pos (by decide +kernel))⟩

/-! ## Traffic that nests too deeply -/

/-- **Too deep a body makes a document that cannot be read**, whatever else the traffic holds. -/
theorem parse?_eq_none_of_levels (host : String) {traffic : List (Endpoint × Trace)}
    {endpoint : Endpoint} {spot : Spot} {v : Json}
    (h : Said traffic endpoint (.sighting spot (.value v)))
    (hdeep : maxDepth < v.levels + (operationKeys endpoint ++ spot.keys).length) :
    Json.parse? (generatedFrom host traffic).toText = none := by
  obtain ⟨xs, hxs, hmem⟩ := exists_sightings host h
  have hlevels := (Schema.Absorbed.of_mem ((hmem _).2 h) Schema.empty).levels_le
  have hplace := depth_add_length_le hxs
  rw [Json.parse?_toText (lawful_generatedFrom host traffic), if_neg (by omega)]

/-- A text that can be read is not empty, and shows the value. -/
theorem bodySighting_of_parse? {raw : String} {v : Json} (h : Json.parse? raw = some v) :
    ¬ raw.isEmpty ∧ bodySighting raw = .value v := by
  refine ⟨fun hempty => ?_, by rw [bodySighting, h]⟩
  obtain rfl := String.isEmpty_iff.1 hempty
  cases h

section Bodies

variable {traffic : List (Endpoint × Trace)} {endpoint : Endpoint} {trace : Trace} {v : Json}

/-- A body that needs more levels than are left at its place. -/
theorem parse?_eq_none_of_body (host : String) {raw : String} {spot : Spot}
    (hsaid : ¬ raw.isEmpty → Said traffic endpoint (.sighting spot (bodySighting raw)))
    (hv : Json.parse? raw = some v) (hdeep : maxDepth < v.levels + (3 + spot.keys.length)) :
    Json.parse? (generatedFrom host traffic).toText = none := by
  obtain ⟨hraw, hsighting⟩ := bodySighting_of_parse? hv
  have hshown := hsaid hraw
  rw [hsighting] at hshown
  have hkeys : (operationKeys endpoint).length = 3 := rfl
  refine parse?_eq_none_of_levels host hshown ?_
  rwa [List.length_append, hkeys]

/-- A request leaves its body 120 levels. -/
theorem parse?_eq_none_of_requestBody (host : String) (hmem : (endpoint, trace) ∈ traffic)
    (hv : Json.parse? trace.requestBody = some v) (hdeep : 120 < v.levels) :
    Json.parse? (generatedFrom host traffic).toText = none :=
  parse?_eq_none_of_body host (fun h => said_of_mem hmem (requestBody_mem_entriesOf endpoint h)) hv
    (Nat.add_lt_add_right hdeep 7)

/-- A response leaves its body 119 levels. -/
theorem parse?_eq_none_of_responseBody (host : String) (hmem : (endpoint, trace) ∈ traffic)
    (hv : Json.parse? trace.responseBody = some v) (hdeep : 119 < v.levels) :
    Json.parse? (generatedFrom host traffic).toText = none :=
  parse?_eq_none_of_body host (fun h => said_of_mem hmem (responseBody_mem_entriesOf endpoint h)) hv
    (Nat.add_lt_add_right hdeep 8)

end Bodies

/-- Objects inside each other, one more than `n`. -/
def nested : Nat → Json
  | 0 => .object []
  | n + 1 => .object [("a", nested n)]

theorem depth_nested (n : Nat) : (nested n).depth = n + 1 := by
  induction n with
  | zero => rfl
  | succ n ih =>
    rw [nested, Json.depth_object, Json.membersDepth, ih, Json.membersDepth, Nat.max_zero]

/-- Every object is two levels of its schema. -/
theorem levels_nested (n : Nat) : (nested n).levels = 2 * n + 2 := by
  induction n with
  | zero => rfl
  | succ n ih =>
    rw [nested, Json.levels, Json.membersLevels, ih, Json.membersLevels, Nat.max_zero]
    omega

theorem lawful_nested {allowed : JsonNumber → Prop} (n : Nat) : (nested n).Lawful allowed := by
  induction n with
  | zero => exact ⟨Dict.ordered_nil, trivial⟩
  | succ n ih => exact ⟨List.pairwise_singleton _ _, ih, trivial⟩

theorem parse?_nested {n : Nat} (h : n < maxDepth) :
    Json.parse? (nested n).toText = some (nested n) := by
  rw [Json.parse?_toText (lawful_nested n), if_pos (by rwa [depth_nested])]

/-- The body of a request that has 61 objects inside each other can be read, and so can the document
before it. The document with the body cannot. -/
theorem parse?_saved_nested :
    let endpoint : Endpoint :=
      { id := .ofNat 1, host := "h", method := "POST", path := "/a", pathPattern := "",
        numberParams := 0 }
    let trace : Trace :=
      { Trace.bare (.ofNat 2) ⟨0, 0⟩ "h" "POST" "/a" 200 with requestBody := (nested 60).toText }
    Json.parse? trace.requestBody = some (nested 60) ∧
      Json.parse? (generatedFrom "h" []).toText = some (generatedFrom "h" []) ∧
      Json.parse? (mergeTrace (generatedFrom "h" []) endpoint trace).2.toText = none := by
  intro endpoint trace
  have hbody : Json.parse? trace.requestBody = some (nested 60) := parse?_nested (by decide)
  have hread : Json.parse? (generatedFrom "h" []).toText = some (generatedFrom "h" []) := by
    rw [Json.parse?_toText (lawful_generatedFrom _ _), if_pos (by decide)]
  have hdeep : 120 < (nested 60).levels := by
    rw [levels_nested]
    decide
  have hmem : (endpoint, trace) ∈ [] ++ [(endpoint, trace)] := List.mem_singleton_self _
  have hsaved := parse?_eq_none_of_requestBody "h" hmem hbody hdeep
  rw [generatedFrom_append_singleton] at hsaved
  exact ⟨hbody, hread, hsaved⟩

/-! ## Traffic that does not -/

/-- The value that an entry shows. -/
def Entry.value? : Entry → Option Json
  | parameter _ _ v => some v
  | sighting _ (.value v) => some v
  | _ => none

theorem depth_parameterJson_le {p : (String × String) × Schema} {b : Nat}
    (h : p.2.toJson.depth ≤ b) : (parameterJson p).depth ≤ b + 1 := by
  have hnew : ∀ m ∈ newParameter p.1.1 p.1.2, m.2.depth ≤ b := by
    unfold newParameter
    split <;> simp [Json.depth]
  have hall : ∀ m ∈ Dict.insert "schema" p.2.toJson (newParameter p.1.1 p.1.2), m.2.depth ≤ b :=
    Dict.forall_mem_alter (P := fun v => Json.depth v ≤ b) hnew fun _ _ => h
  exact Nat.succ_le_succ (Json.membersDepth_le_iff.2 hall)

section Shallow

variable {host : String} {traffic : List (Endpoint × Trace)} {d : Nat}

/-- What traffic leaves at a place, if its values nest in at most `d` levels. -/
theorem depth_add_keys_le (h : ∀ p ∈ traffic, ∀ e ∈ entriesOf p.1 p.2, ∀ v ∈ e.value?, v.depth ≤ d)
    {endpoint : Endpoint} {e : Entry} (he : Said traffic endpoint e) {w : Json}
    (hw : valueAt (operationKeys endpoint ++ e.keys) (some (generatedFrom host traffic)) = some w) :
    w.depth + e.keys.length ≤ 4 * d + 8 := by
  have hsaid : ∀ {e : Entry}, Said traffic endpoint e → ∀ v ∈ e.value?, v.depth ≤ d := by
    rintro e ⟨p, hp, -, he⟩
    exact h p hp e he
  cases e with
  | parameter name location value =>
    obtain ⟨entries, ps, hps, hcollects, hmem⟩ := exists_parameters host he
    obtain rfl := Option.some.inj (hw.symm.trans hps)
    have hschema : ∀ p ∈ ps, p.2.toJson.depth ≤ 4 * d + 3 := by
      intro p hp
      obtain ⟨vs, -, hvs, hvalues⟩ := hcollects.schema p hp
      rw [hvs]
      exact Schema.depth_ofValues_le d vs fun v hv =>
        hsaid ((hmem _ _ _).1 ((hvalues v).1 hv)) v rfl
    have hitems : Json.itemsDepth (ps.map parameterJson) ≤ 4 * d + 4 := by
      refine Json.itemsDepth_le_iff.2 fun x hx => ?_
      obtain ⟨p, hp, rfl⟩ := List.mem_map.1 hx
      exact depth_parameterJson_le (hschema p hp)
    have hkeys : (Entry.parameter name location value).keys.length = 1 := rfl
    rw [Json.depth_array, hkeys]
    omega
  | sighting spot x =>
    obtain ⟨xs, hxs, hmem⟩ := exists_sightings host he
    obtain rfl := Option.some.inj (hw.symm.trans hxs)
    have hvalues : ∀ v, .value v ∈ xs → v.depth ≤ d := fun v hv => hsaid ((hmem _).1 hv) v rfl
    have hdepth := Schema.depth_seeAll_empty_le hvalues
    have hkeys := (Entry.sighting spot x).length_keys_le
    omega
  | status s =>
    obtain rfl := Option.some.inj (hw.symm.trans (valueAt_description host he))
    have hdepth : (Json.string (s ++ " description")).depth = 0 := rfl
    have hkeys := (Entry.status s).length_keys_le
    omega

/-- **A document of traffic that nests in at most 29 levels can be read.** -/
theorem parse?_generatedFrom
    (h : ∀ p ∈ traffic, ∀ e ∈ entriesOf p.1 p.2, ∀ v ∈ e.value?, v.depth ≤ 29) :
    Json.parse? (generatedFrom host traffic).toText = some (generatedFrom host traffic) := by
  have hspec : (generated host).spec = .object (membersOf (some (generated host).spec)) := rfl
  have hdepth : (generated host).spec.depth ≤ maxDepth := by
    have hthree : (generated host).spec.depth = 3 := rfl
    rw [hthree]
    decide
  have hordered : (generated host).spec.Ordered := lawful_spec_generated host
  have hmax : maxDepth = 127 := rfl
  have hfits : ∀ p ∈ traffic, ∀ e ∈ entriesOf p.1 p.2, Fits (generatedFrom host traffic) p.1 e := by
    intro p hp e he w hw
    have hplace := depth_add_keys_le h (said_of_mem hp he) hw
    have hkeys : (operationKeys p.1).length = 3 := rfl
    rw [List.length_append, hkeys]
    omega
  rw [hspec] at hdepth hordered
  have hall : (generatedFrom host traffic).depth ≤ maxDepth :=
    (depth_mergeAll_le_iff hdepth hordered traffic).2 hfits
  rw [Json.parse?_toText (lawful_generatedFrom host traffic), if_pos hall]

end Shallow

end TrafficLens.Document
