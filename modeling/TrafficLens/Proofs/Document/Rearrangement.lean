import Mathlib.Data.List.Perm.Basic
import TrafficLens.Proofs.Document.Generated
import TrafficLens.Proofs.Increasing
import TrafficLens.Proofs.Schema.Rearrangement

/-!
# The order of traffic makes no difference

Documents that are generated from the same traffic in different orders are equal up to the order of
the parameters of an operation and the order of the alternatives in schemas (`Rearranged`).

Nothing is commuted. Two runs of the same edits in different orders are followed side by side, key
by key (`rearranged_run`): below each key are the same edits on both sides again, in different
orders. At the end of a path stand on both sides the schemas of the same sightings, or the
parameters that the same entries name (`rearranged_place`).
-/

namespace TrafficLens.Document

/-! ## Documents that are alike -/

/-- Two parameters with the same name and location, whose schemas are alike. -/
def AlikeParameters (p q : Json) : Prop :=
  ∃ key s t, p = parameterJson (key, s) ∧ q = parameterJson (key, t) ∧ Schema.Alike s t

/-- The values at the end of a path of keys are equal, but for the order of parameters in the list
of an operation, and of alternatives in the schemas there. -/
inductive Rearranged : List String → Json → Json → Prop where
  | same (path : List String) (v : Json) : Rearranged path v v
  | schema (endpoint : Endpoint) (spot : Spot) {s t : Schema} (h : Schema.Alike s t) :
    Rearranged (operationKeys endpoint ++ spot.keys) s.toJson t.toJson
  | parameters (endpoint : Endpoint) {ps qs rs : List Json} (h : List.Forall₂ AlikeParameters ps rs)
      (hperm : rs.Perm qs) :
    Rearranged (operationKeys endpoint ++ ["parameters"]) (.array ps) (.array qs)
  | object {path : List String} {ms ns : Members} (hkeys : Dict.keys ms = Dict.keys ns)
      (h : ∀ k v w, (k, v) ∈ ms → (k, w) ∈ ns → Rearranged (path ++ [k]) v w) :
    Rearranged path (.object ms) (.object ns)

/-! ## At a place -/

/-- The same entries name the same parameters, whose schemas are alike. -/
theorem Collects.exists_rearranged {entries others : List Entry}
    {ps qs : List ((String × String) × Schema)} (hp : Collects entries ps)
    (hq : Collects others qs) (h : ∀ e, e ∈ entries ↔ e ∈ others) :
    ∃ rs : List Json, List.Forall₂ AlikeParameters (ps.map parameterJson) rs ∧
      rs.Perm (qs.map parameterJson) := by
  have hnamed : ∀ {es fs : List Entry} {xs ys : List ((String × String) × Schema)},
      Collects es xs → Collects fs ys → (∀ e, e ∈ es → e ∈ fs) →
      ∀ k ∈ Dict.keys xs, k ∈ Dict.keys ys := by
    intro es fs xs ys hxs hys hsub k hk
    obtain ⟨p, hp, rfl⟩ := List.mem_map.1 hk
    obtain ⟨vs, hvs, -, hmem⟩ := hxs.schema p hp
    obtain ⟨v, hv⟩ := List.exists_mem_of_ne_nil vs hvs
    exact hys.complete _ _ _ (hsub _ ((hmem v).1 hv))
  have hkeys : (Dict.keys ps).Perm (Dict.keys qs) :=
    (List.perm_ext_iff_of_nodup hp.nodup hq.nodup).2 fun k =>
      ⟨hnamed hp hq (fun e => (h e).1) k, hnamed hq hp (fun e => (h e).2) k⟩
  have halike : ∀ p ∈ ps, ∀ q ∈ qs, p.1 = q.1 →
      AlikeParameters (parameterJson p) (parameterJson q) := by
    rintro ⟨key, s⟩ hps ⟨_, t⟩ hqs rfl
    obtain ⟨vs, -, hs, hvs⟩ := hp.schema _ hps
    obtain ⟨ws, -, ht, hws⟩ := hq.schema _ hqs
    refine ⟨key, s, t, rfl, rfl, ?_⟩
    have hsame : ∀ v, v ∈ vs ↔ v ∈ ws := fun v => by rw [hvs, hws, h]
    obtain rfl : s = Schema.ofValues vs := hs
    obtain rfl : t = Schema.ofValues ws := ht
    rw [Schema.ofValues_eq_seeAll, Schema.ofValues_eq_seeAll]
    exact Schema.alike_of_subset (List.map_subset _ fun v => (hsame v).1)
      (List.map_subset _ fun v => (hsame v).2)
  -- bring the parameters of the second list into the order of the first one
  have hself : List.Forall₂ (fun k (q : (String × String) × Schema) => k = q.1) (Dict.keys qs) qs :=
    List.forall₂_map_left_iff.2 (List.forall₂_same.2 fun q _ => rfl)
  obtain ⟨rs, hrs, hperm⟩ := List.perm_comp_forall₂ hkeys hself
  have hzip : List.Forall₂ (fun p q => p.1 = q.1) ps rs := List.forall₂_map_left_iff.1 hrs
  refine ⟨rs.map parameterJson, ?_, hperm.map parameterJson⟩
  rw [List.forall₂_map_left_iff, List.forall₂_map_right_iff]
  obtain ⟨hlen, hpairs⟩ := List.forall₂_iff_zip.1 hzip
  refine List.forall₂_iff_zip.2 ⟨hlen, fun {p q} hmem => ?_⟩
  obtain ⟨hmp, hmq⟩ := List.of_mem_zip hmem
  exact halike p hmp q (hperm.subset hmq) (hpairs hmem)

/-- **At a place**, the same entries in different orders make values that are alike of nothing. -/
theorem rearranged_place {endpoint : Endpoint} {e : Entry}
    {edits others : List (List String × Entry)}
    (hperm : edits.Perm others) (hne : edits ≠ [])
    (h : ∀ d ∈ edits, d.1 = [] ∧ d.2.keys = e.keys) :
    ∃ a b, run Entry.write edits none = some a ∧ run Entry.write others none = some b ∧
      Rearranged (operationKeys endpoint ++ e.keys) a b := by
  have hne' : others ≠ [] := by
    rintro rfl
    exact hne hperm.eq_nil
  have h' : ∀ d ∈ others, d.1 = [] ∧ d.2.keys = e.keys := fun d hd => h d (hperm.mem_iff.2 hd)
  cases e with
  | parameter name location value =>
    obtain ⟨ps, hps, hcollects⟩ := exists_collects hne fun d hd =>
      Entry.exists_eq_parameter (h d hd).1 (h d hd).2
    obtain ⟨qs, hqs, hcollects'⟩ := exists_collects hne' fun d hd =>
      Entry.exists_eq_parameter (h' d hd).1 (h' d hd).2
    obtain ⟨rs, hrs, hrq⟩ := hcollects.exists_rearranged hcollects' fun e =>
      (hperm.map Prod.snd).mem_iff
    exact ⟨_, _, hps, hqs, .parameters endpoint hrs hrq⟩
  | sighting spot x =>
    obtain ⟨xs, hxs, hmem⟩ := run_sightings_none hne fun d hd =>
      Entry.exists_eq_sighting (h d hd).1 (h d hd).2
    obtain ⟨ys, hys, hmem'⟩ := run_sightings_none hne' fun d hd =>
      Entry.exists_eq_sighting (h' d hd).1 (h' d hd).2
    have hsame : ∀ y, y ∈ xs ↔ y ∈ ys := fun y => by rw [hmem, hmem', hperm.mem_iff]
    exact ⟨_, _, hxs, hys, .schema endpoint spot
      (Schema.alike_of_subset (fun y => (hsame y).1) (fun y => (hsame y).2))⟩
  | status s =>
    exact ⟨_, _, run_status hne fun d hd => Entry.eq_status (h d hd).1 (h d hd).2,
      run_status hne' fun d hd => Entry.eq_status (h' d hd).1 (h' d hd).2, .same _ _⟩

/-! ## On the way to the places -/

/-- Ordered objects are alike if under each key stands the same on both sides, or what is alike. -/
theorem rearranged_object {path : List String} {ms ns : Members} (hms : Dict.Ordered ms)
    (hns : Dict.Ordered ns)
    (h : ∀ k, Dict.seek? k ms = Dict.seek? k ns ∨
      ∃ v w, Dict.seek? k ms = some v ∧ Dict.seek? k ns = some w ∧ Rearranged (path ++ [k]) v w) :
    Rearranged path (.object ms) (.object ns) := by
  have hmem : ∀ {xs : Members}, Dict.Ordered xs → ∀ k,
      k ∈ Dict.keys xs ↔ ∃ v, Dict.seek? k xs = some v := by
    intro xs hxs k
    simp only [Dict.keys, List.mem_map, Prod.exists, exists_and_right, exists_eq_right,
      hxs.mem_iff]
  have hkeys : Dict.keys ms = Dict.keys ns := by
    refine Increasing.ext hms.increasing_keys hns.increasing_keys fun k => ?_
    rw [hmem hms, hmem hns]
    rcases h k with heq | ⟨v, w, hv, hw, -⟩
    · rw [heq]
    · exact ⟨fun _ => ⟨w, hw⟩, fun _ => ⟨v, hv⟩⟩
  refine .object hkeys fun k v w hv hw => ?_
  rw [hms.mem_iff] at hv
  rw [hns.mem_iff] at hw
  rcases h k with heq | ⟨v', w', hv', hw', hvw⟩
  · rw [heq, hw] at hv
    obtain rfl := Option.some.inj hv
    exact .same _ _
  · obtain rfl := Option.some.inj (hv.symm.trans hv')
    obtain rfl := Option.some.inj (hw.symm.trans hw')
    exact hvw

theorem ordered_membersOf_run (edits : List (List String × Entry)) {v : Option Json}
    (hv : ∀ x ∈ v, x.Ordered) : Dict.Ordered (membersOf (run Entry.write edits v)) := by
  have hwrite : ∀ e ∈ edits, ∀ old : Option Json, (∀ x ∈ old, x.Ordered) →
      (e.2.write old).Ordered :=
    fun e _ old hold => e.2.lawful_write hold
  have hrun := lawful_run hwrite hv
  rcases hx : run Entry.write edits v with _ | _ | _ | _ | _ | _ | ms
  case some.object => exact (Json.lawful_object_iff.1 (hrun _ hx)).1
  all_goals exact Dict.ordered_nil

/-- If one of the edits ends here, then all of them do. -/
theorem rearranged_leaf {path : List String} {edits others : List (List String × Entry)}
    {v : Option Json} (hperm : edits.Perm others)
    (hplace : ∀ d ∈ edits, ∃ endpoint, path ++ d.1 = operationKeys endpoint ++ d.2.keys)
    (hblank : ∀ d ∈ edits, valueAt d.1 v = none) {e : Entry} (he : ([], e) ∈ edits) :
    ∃ a b, run Entry.write edits v = some a ∧ run Entry.write others v = some b ∧
      Rearranged path a b := by
  obtain ⟨endpoint, hpath⟩ := hplace _ he
  obtain rfl : v = none := hblank _ he
  rw [List.append_nil] at hpath
  rw [hpath]
  refine rearranged_place hperm (List.ne_nil_of_mem he) fun d hmem => ?_
  obtain ⟨other, hother⟩ := hplace d hmem
  rw [hpath] at hother
  obtain ⟨hop, hkeys⟩ := places_eq_of_begins ⟨d.1, hother⟩
  rw [hop, hkeys, List.append_right_eq_self] at hother
  exact ⟨hother, hkeys.symm⟩

/-- **Two runs of the same edits are followed side by side.** The induction is on a bound for the
length of the paths, which get shorter with each key. -/
theorem rearranged_run (n : Nat) {path : List String} {edits others : List (List String × Entry)}
    {v : Option Json} (hperm : edits.Perm others) (hne : edits ≠ [])
    (hlen : ∀ d ∈ edits, d.1.length ≤ n)
    (hplace : ∀ d ∈ edits, ∃ endpoint, path ++ d.1 = operationKeys endpoint ++ d.2.keys)
    (hblank : ∀ d ∈ edits, valueAt d.1 v = none) (hv : ∀ x ∈ v, x.Ordered) :
    ∃ a b, run Entry.write edits v = some a ∧ run Entry.write others v = some b ∧
      Rearranged path a b := by
  induction n generalizing path edits others v with
  | zero =>
    obtain ⟨⟨q, e⟩, hd⟩ := List.exists_mem_of_ne_nil edits hne
    obtain rfl : q = [] := List.eq_nil_of_length_eq_zero (Nat.le_zero.1 (hlen _ hd))
    exact rearranged_leaf hperm hplace hblank hd
  | succ n ih =>
    by_cases hleaf : ∃ e, ([], e) ∈ edits
    · obtain ⟨e, he⟩ := hleaf
      exact rearranged_leaf hperm hplace hblank he
    have hroot : ∀ d ∈ edits, d.1 ≠ [] := by
      rintro ⟨_, e⟩ hd rfl
      exact hleaf ⟨e, hd⟩
    have hroot' : ∀ d ∈ others, d.1 ≠ [] := fun d hd => hroot d (hperm.mem_iff.2 hd)
    have hne' : others ≠ [] := by
      rintro rfl
      exact hne hperm.eq_nil
    refine ⟨_, _, run_eq_object hne hroot v, run_eq_object hne' hroot' v, ?_⟩
    refine rearranged_object (ordered_membersOf_run edits hv) (ordered_membersOf_run others hv)
      fun k => ?_
    rw [seek?_membersOf_run hroot, seek?_membersOf_run hroot']
    by_cases hbelow : below k edits = []
    · have hbelow' : below k others = [] := by
        have hperm' : (below k edits).Perm (below k others) := below_perm hperm
        rw [hbelow] at hperm'
        exact hperm'.symm.eq_nil
      rw [hbelow, hbelow']
      exact .inl rfl
    · refine .inr (ih (below_perm hperm) hbelow ?_ ?_ ?_ (lawful_valueAt hv [k]))
      · rintro ⟨q, a⟩ hd
        exact Nat.le_of_succ_le_succ (hlen _ (mem_below.1 hd))
      · rintro ⟨q, a⟩ hd
        rw [List.append_assoc]
        exact hplace _ (mem_below.1 hd)
      · rintro ⟨q, a⟩ hd
        exact hblank _ (mem_below.1 hd)

/-- **The order of traffic makes no difference**: documents that are generated from the same traffic
in different orders are equal up to the order of parameters and of alternatives. -/
theorem generated_rearranged (host : String) {traffic others : List (Endpoint × Trace)}
    (h : traffic.Perm others) :
    Rearranged [] (mergeAll (generated host).spec traffic)
      (mergeAll (generated host).spec others) := by
  cases traffic with
  | nil =>
    obtain rfl := h.nil_eq
    exact .same _ _
  | cons p rest =>
    set traffic := p :: rest
    have hperm : (editsOfAll traffic).Perm (editsOfAll others) := h.flatMap_right _
    have hne : editsOfAll traffic ≠ [] := by
      simp [editsOfAll, traffic, editsOf, entriesOf_ne_nil]
    have hspec : (generated host).spec = .object (membersOf (some (generated host).spec)) := rfl
    have hblank : ∀ d ∈ editsOfAll traffic, valueAt d.1 (some (generated host).spec) = none := by
      rintro ⟨_, a⟩ hd
      obtain ⟨q, -, -, rfl⟩ := mem_editsOfAll.1 hd
      exact valueAt_spec_generated host _ _
    have hordered : ∀ x ∈ some (generated host).spec, x.Ordered := by
      rintro x ⟨⟩
      exact lawful_spec_generated host
    have hlength : ∀ d ∈ editsOfAll traffic, d.1.length ≤ 8 := by
      rintro ⟨_, a⟩ hd
      obtain ⟨q, -, -, rfl⟩ := mem_editsOfAll.1 hd
      have hkeys := a.length_keys_le
      simp only [operationKeys, List.length_append, List.length_cons, List.length_nil]
      omega
    have hplace : ∀ d ∈ editsOfAll traffic,
        ∃ endpoint, [] ++ d.1 = operationKeys endpoint ++ d.2.keys :=
      exists_operation_of_mem_editsOfAll
    obtain ⟨a, b, ha, hb, hab⟩ := rearranged_run 8 hperm hne hlength hplace hblank hordered
    rw [hspec, run_editsOfAll, ← hspec] at ha hb
    obtain rfl := Option.some.inj ha
    obtain rfl := Option.some.inj hb
    exact hab

/-- A list, a text that is no JSON and an object under one media type, with different parameters.
The documents of the two orders differ. -/
theorem generated_rearranged_mixed :
    let endpoint : Endpoint :=
      { id := .ofNat 1, host := "h", method := "POST", path := "/a", pathPattern := "",
        numberParams := 0 }
    let trace := Trace.bare (.ofNat 2) ⟨0, 0⟩ "h" "POST" "/a" 200
    let list := (endpoint, { trace with requestBody := "[1]", requestParameters := [⟨"q", "1"⟩] })
    let text := (endpoint, { trace with requestBody := "[1", requestParameters := [⟨"r", "1"⟩] })
    let object := (endpoint, { trace with requestBody := "\x7b\"k\":null\x7d" })
    let traffic := [list, text, object]
    let others := [object, text, list]
    traffic.Perm others ∧
      Rearranged [] (mergeAll (generated "h").spec traffic) (mergeAll (generated "h").spec others) ∧
      mergeAll (generated "h").spec traffic ≠ mergeAll (generated "h").spec others := by
  intro endpoint trace list text object traffic others
  have h : traffic.Perm others := (List.reverse_perm traffic).symm
  exact ⟨h, generated_rearranged "h" h, by decide +kernel⟩

end TrafficLens.Document
