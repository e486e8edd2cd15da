import TrafficLens.Proofs.Analysis.Detection
import TrafficLens.Proofs.Analysis.Leaf

/-!
# What is found in a query

The values of query parameters are read as JSON, like bodies, but they are not taken apart. So the
text that is looked at is that of a value which is itself a text, and no other: what stands inside
an array or an object is not looked at. `found_in_query` says so for all traces, and for all fields
that are there before, also for lists that have several fields at one place.
-/

namespace TrafficLens

open Reconciliation

/-! ## The observations of a query -/

namespace Observation

theorem sec_of_mem_ofBody {sec : Section} {raw : String} {o : Observation}
    (h : o ∈ ofBody sec raw) : o.sec = sec := by
  rw [ofBody] at h
  split at h
  · cases h
  split at h
  · rw [leaves_eq_map] at h
    obtain ⟨l, -, rfl⟩ := List.mem_map.1 h
    rfl
  · rw [List.mem_singleton.1 h]

end Observation

/-- What is observed in the query is what its parameters show. -/
theorem Trace.mem_observations_query {t : Trace} {o : Observation} (ho : o ∈ t.observations)
    (hsec : o.sec = .requestQuery) : ∃ p ∈ t.requestParameters, .ofParameter p = o := by
  have hheader : ∀ {sec : Section} {headers : List Pair}, o ∈ headers.map (.ofHeader sec) →
      o.sec = sec := by
    intro sec headers h
    obtain ⟨p, -, rfl⟩ := List.mem_map.1 h
    rfl
  rw [Trace.observations] at ho
  simp only [List.mem_append] at ho
  obtain (((ho | ho) | ho) | ho) | ho := ho
  · exact List.mem_map.1 ho
  · cases hsec.symm.trans (hheader ho)
  · cases hsec.symm.trans (Observation.sec_of_mem_ofBody ho)
  · cases hsec.symm.trans (hheader ho)
  · cases hsec.symm.trans (Observation.sec_of_mem_ofBody ho)

theorem Trace.ofParameter_mem_observations {t : Trace} {p : Pair} (h : p ∈ t.requestParameters) :
    .ofParameter p ∈ t.observations := by
  simp only [Trace.observations, List.mem_append]
  exact .inl (.inl (.inl (.inl (List.mem_map_of_mem h))))

/-! ## What is recorded at a place -/

section Recorded

variable {scanner : Scanner} {newId : Nat → Uuid} {endpointId id : Uuid} {fields : List Field}
  {trace : Trace} {known : Option Field} {os : List Observation} {f : Field} {c : String}

/-- A class that is reported is identified, and it is recorded unless it is marked as wrong. -/
theorem Field.recorded_of_follow (h : follow scanner endpointId id known os = some f)
    (hreports : ∃ o ∈ os, scanner.Reports o c) :
    c ∈ f.identified ∧ (c ∈ f.classes ∨ c ∈ f.falsePositives) := by
  have hidentified : c ∈ (follow scanner endpointId id known os).elim [] identified :=
    mem_identified_follow.2 (.inr hreports)
  have hmarks : (follow scanner endpointId id known os).elim [] falsePositives =
      known.elim [] falsePositives := falsePositives_follow os
  have hclasses : c ∉ known.elim [] falsePositives →
      c ∈ (follow scanner endpointId id known os).elim [] classes :=
    fun hmark => mem_classes_follow.2 (.inr ⟨hreports, hmark⟩)
  rw [h] at hidentified hmarks hclasses
  rw [← hmarks] at hclasses
  exact ⟨hidentified, or_iff_not_imp_right.2 hclasses⟩

/-- What is identified was identified before, or is reported. -/
theorem Field.identified_of_follow (h : follow scanner endpointId id known os = some f)
    (hc : c ∈ f.identified) :
    (∃ g ∈ known, c ∈ g.identified) ∨ ∃ o ∈ os, scanner.Reports o c := by
  have hidentified : c ∈ (follow scanner endpointId id known os).elim [] identified := by
    rwa [h]
  refine (mem_identified_follow.1 hidentified).imp_left fun hbefore => ?_
  cases known with
  | none => cases hbefore
  | some g => exact ⟨g, rfl, hbefore⟩

/-- A class that is reported is in the field that is stored at the place then. -/
theorem exists_mem_track_of_reports {o : Observation} (ho : o ∈ trace.observations)
    (h : scanner.Reports o c) :
    ∃ f ∈ track scanner newId endpointId fields trace, f.place = o.place ∧
      c ∈ f.identified ∧ (c ∈ f.classes ∨ c ∈ f.falsePositives) := by
  obtain ⟨id, hid⟩ := seek?_passOver scanner newId endpointId (ordered_byPlace fields)
    trace.observations o.place
  have hreports : ∃ o' ∈ observationsAt trace.observations o.place, scanner.Reports o' c :=
    exists_reports_observationsAt.2 ⟨o, ho, rfl, h⟩
  cases hf : Dict.seek? o.place (tracePass scanner newId endpointId fields trace).fields with
  | none =>
    have hnone := (Field.follow_eq_none.1 (hid.symm.trans hf)).2
    exact absurd rfl (observationsAt_eq_nil.1 hnone o ho)
  | some f =>
    have hmem := ordered_tracePass.mem_iff.2 hf
    exact ⟨f, mem_track_of_mem_tracePass hmem, place_of_mem_tracePass hmem,
      Field.recorded_of_follow (hid.symm.trans hf) hreports⟩

/-- A class that is identified in a stored field was identified at its place before, or is reported
there. -/
theorem identified_of_mem_track (hf : f ∈ track scanner newId endpointId fields trace)
    (hc : c ∈ f.identified) :
    (∃ g ∈ fields, g.place = f.place ∧ c ∈ g.identified) ∨
      ∃ o ∈ trace.observations, o.place = f.place ∧ scanner.Reports o c := by
  rcases mem_tracePass_of_mem_track hf with hf | hf
  · exact .inl ⟨f, hf, rfl, hc⟩
  · obtain ⟨id, hid⟩ := seek?_passOver scanner newId endpointId (ordered_byPlace fields)
      trace.observations f.place
    have hseek := ordered_tracePass.mem_iff.1 hf
    refine (Field.identified_of_follow (hid.symm.trans hseek) hc).imp ?_
      exists_reports_observationsAt.1
    rintro ⟨g, hg, hcg⟩
    obtain ⟨hmem, hplace⟩ := of_mem_byPlace ((ordered_byPlace fields).mem_iff.2 hg)
    exact ⟨g, hmem, hplace, hcg⟩

end Recorded

/-! ## The main statement -/

/-- **What is found in a query.** If the value of a parameter is itself a text then the classes that
the scanner finds in it are identified at the name of the parameter, and recorded there unless they
are marked as wrong. And no others are: a class that is identified anywhere in the query was so
before, or it is found in a value that is itself a text. -/
theorem found_in_query (scanner : Scanner) (newId : Nat → Uuid) (endpointId : Uuid) (trace : Trace)
    (existing : List Field) :
    let after := storeFields existing (reconcile scanner newId trace endpointId existing).changed
    (∀ p ∈ trace.requestParameters, ∀ text, (Json.ofTextOrString p.value).HasText text →
      ∀ found ∈ scanner.scan text, ∃ f ∈ after, f.place = ⟨Section.requestQuery.name, p.name⟩ ∧
        found.1 ∈ f.identified ∧ (found.1 ∈ f.classes ∨ found.1 ∈ f.falsePositives)) ∧
    ∀ f ∈ after, f.sectionName = Section.requestQuery.name → ∀ c ∈ f.identified,
      (∃ g ∈ existing, g.place = f.place ∧ c ∈ g.identified) ∨
        ∃ p ∈ trace.requestParameters, p.name = f.path ∧
          ∃ text, (Json.ofTextOrString p.value).HasText text ∧
            ∃ found ∈ scanner.scan text, found.1 = c := by
  intro after
  constructor
  · rintro p hp text htext ⟨c, samples⟩ hfound
    exact exists_mem_track_of_reports (Trace.ofParameter_mem_observations hp)
      ⟨text, samples, htext, hfound⟩
  · intro f hf hsec c hc
    refine (identified_of_mem_track hf hc).imp_right ?_
    rintro ⟨o, ho, hplace, text, samples, htext, hfound⟩
    obtain ⟨hname, hpath⟩ := Place.mk.inj hplace
    obtain ⟨p, hp, rfl⟩ :=
      Trace.mem_observations_query ho (Section.name_injective (hname.trans hsec))
    exact ⟨p, hp, hpath, text, htext, (c, samples), hfound, rfl⟩

/-- A value stands in another one, at any depth. -/
inductive Json.PartOf (v : Json) : Json → Prop where
  | self : PartOf v v
  | item {x : Json} {xs : List Json} (hx : x ∈ xs) (h : PartOf v x) : PartOf v (.array xs)
  | member {k : String} {x : Json} {ms : List (String × Json)} (hx : (k, x) ∈ ms)
    (h : PartOf v x) : PartOf v (.object ms)

/-- A trace with two parameters: an array of a text, and a text. -/
def queryTrace : Trace :=
  { Trace.bare (.ofNat 1) ⟨0, 0⟩ "api.local" "GET" "/users" 200 with
    requestParameters := [⟨"filter", "[\"a@b.io\"]"⟩, ⟨"mail", "a@b.io"⟩] }

/-- The class is identified at the name of the second parameter. -/
theorem found_in_query_text :
    ∃ f ∈ storeFields [] (reconcile textScanner .ofNat queryTrace (.ofNat 3) []).changed,
      f.place = ⟨"req.params", "mail"⟩ ∧ "TEXT" ∈ f.identified ∧
        ("TEXT" ∈ f.classes ∨ "TEXT" ∈ f.falsePositives) := by
  have htext : (Json.ofTextOrString "a@b.io").HasText "a@b.io" := by
    have hvalue : Json.ofTextOrString "a@b.io" = .string "a@b.io" := by decide +kernel
    rw [hvalue]
    exact .string (by decide)
  exact (found_in_query textScanner .ofNat (.ofNat 3) queryTrace []).1 ⟨"mail", "a@b.io"⟩
    (by decide) "a@b.io" htext ("TEXT", ["a@b.io"]) List.mem_cons_self

/-- The value of the first parameter holds the same text, and nothing is identified at its name or
at any path that extends it. -/
theorem exists_query_text_not_found :
    ∃ p ∈ queryTrace.requestParameters, ∃ text ≠ "",
      (Json.string text).PartOf (Json.ofTextOrString p.value) ∧
      (∃ found ∈ textScanner.scan text, found.1 = "TEXT") ∧
      ∀ f ∈ storeFields [] (reconcile textScanner .ofNat queryTrace (.ofNat 3) []).changed,
        f.sectionName = "req.params" → p.name.toList <+: f.path.toList → "TEXT" ∉ f.identified := by
  have hvalue : Json.ofTextOrString "[\"a@b.io\"]" = .array [.string "a@b.io"] := by decide +kernel
  refine ⟨⟨"filter", "[\"a@b.io\"]"⟩, by decide, "a@b.io", by decide, ?_,
    ⟨("TEXT", ["a@b.io"]), List.mem_cons_self, rfl⟩, by decide +kernel⟩
  rw [hvalue]
  exact .item List.mem_cons_self .self

end TrafficLens
