import Mathlib.Data.List.Nodup
import TrafficLens.Analysis.Alert
import TrafficLens.Proofs.Analysis.Detection
import TrafficLens.Proofs.Analysis.Difference
import TrafficLens.Proofs.Text.Parts

/-!
# What sets alerts off

An alert is stored only if its trigger is new, so two alerts with one trigger had better be about one
thing. Triggers are texts put together from names, a separator and whatever a client sends, and
`triggers_tell_apart` says that they can be taken apart again. A key begins with a name that is not
the beginning of another one, and it ends behind its last colon, as long as classes have none. The
alerts that one trace sets off have different triggers, and over two traces the triggers are equal
exactly if what the alerts are about is.
-/

namespace TrafficLens

/-! ## Names that texts begin with -/

theorem Section.prefixFree (a b : Section) : a.name.toList <+: b.name.toList → a = b := by
  cases a <;> cases b <;> decide

theorem SpecDiffKind.prefixFree (a b : SpecDiffKind) : a.name.toList <+: b.name.toList → a = b := by
  cases a <;> cases b <;> decide

/-! ## Keys -/

/-- A difference is determined by its key. -/
theorem SpecDiff.key_injective : Function.Injective SpecDiff.key := by
  rintro ⟨k, l⟩ ⟨k', l'⟩ h
  have h : k.name.toList ++ ':' :: l.toList = k'.name.toList ++ ':' :: l'.toList := by
    simpa [key] using congrArg String.toList h
  obtain ⟨rfl, hrest⟩ := append_inj_of_prefixFree SpecDiffKind.prefixFree h
  rw [String.ext (List.cons.inj hrest).2]

namespace Alert

variable {scanner scanner' : Scanner} {endpoint endpoint' : Endpoint} {trace trace' : Trace}

/-- A found class is determined by the key of its alert if classes have no colon. -/
theorem key_sensitiveData_inj {x y : FoundClass} (hx : ':' ∉ x.className.toList)
    (hy : ':' ∉ y.className.toList) (h : (sensitiveData scanner endpoint trace x).key =
      (sensitiveData scanner' endpoint' trace' y).key) : x = y := by
  obtain ⟨s, p, c⟩ := x
  obtain ⟨s', p', c'⟩ := y
  have h : (s.name.toList ++ '.' :: p.toList) ++ ':' :: c.toList =
      (s'.name.toList ++ '.' :: p'.toList) ++ ':' :: c'.toList := by
    simpa [sensitiveData, ofTrace] using congrArg String.toList h
  obtain ⟨hlocation, hclass⟩ := append_cons_inj_of_last h hx hy
  obtain ⟨rfl, hpath⟩ := append_inj_of_prefixFree Section.prefixFree hlocation
  rw [String.ext (List.cons.inj hpath).2, String.ext hclass]

/-- What an alert tells under some keys of its context. -/
def tells (keys : List String) (a : Alert) : List (Option Json) := keys.map a.context.member?

theorem tells_sensitiveData_eq_iff {x y : FoundClass} :
    (sensitiveData scanner endpoint trace x).tells ["dataSection", "dataPath", "dataClass"] =
        (sensitiveData scanner' endpoint' trace' y).tells ["dataSection", "dataPath", "dataClass"] ↔
      x = y := by
  obtain ⟨s, p, c⟩ := x
  obtain ⟨s', p', c'⟩ := y
  simp [tells, sensitiveData, ofTrace, Json.member?, Dict.find?_cons, Section.name_injective.eq_iff]

theorem tells_specDiff_eq_iff {d d' : SpecDiff} :
    (specDiff endpoint trace d).tells ["kind", "location"] =
        (specDiff endpoint' trace' d').tells ["kind", "location"] ↔ d = d' := by
  obtain ⟨k, l⟩ := d
  obtain ⟨k', l'⟩ := d'
  have hkind : k.name = k'.name ↔ k = k' :=
    ⟨fun h => SpecDiffKind.prefixFree k k' (h ▸ List.prefix_refl _), congrArg _⟩
  simp [tells, specDiff, ofTrace, Json.member?, Dict.find?_cons, hkind]

theorem trigger_sensitiveData_eq_iff {x y : FoundClass} (h : endpoint.id = endpoint'.id)
    (hx : ':' ∉ x.className.toList) (hy : ':' ∉ y.className.toList) :
    (sensitiveData scanner endpoint trace x).trigger =
      (sensitiveData scanner' endpoint' trace' y).trigger ↔ x = y := by
  constructor
  · intro htrigger
    exact key_sensitiveData_inj hx hy (Prod.mk.inj (Prod.mk.inj htrigger).2).2
  · rintro rfl
    simp [trigger, sensitiveData, ofTrace, h]

theorem trigger_specDiff_eq_iff {d d' : SpecDiff} (h : endpoint.id = endpoint'.id) :
    (specDiff endpoint trace d).trigger = (specDiff endpoint' trace' d').trigger ↔ d = d' := by
  simp [trigger, specDiff, ofTrace, h, SpecDiff.key_injective.eq_iff]

/-! ## The alerts of one trace -/

/-- Alerts of different kinds do not have one trigger. -/
theorem nodup_triggers_append {as bs : List Alert} (has : (as.map trigger).Nodup)
    (hbs : (bs.map trigger).Nodup) (hkind : ∀ a ∈ as, ∀ b ∈ bs, a.kind ≠ b.kind) :
    ((as ++ bs).map trigger).Nodup := by
  rw [List.map_append]
  refine List.nodup_append.2 ⟨has, hbs, ?_⟩
  simp only [List.mem_map]
  rintro _ ⟨a, ha, rfl⟩ _ ⟨b, hb, rfl⟩ h
  exact hkind a ha b hb (congrArg Prod.fst h)

end Alert

/-- What alerts are made from: a trace of an endpoint, the fields and the document of the endpoint and
what else counts. -/
structure Occasion where
  scanner : Scanner
  hstsWanted : Bool
  newId : Nat → Uuid
  endpoint : Endpoint
  trace : Trace
  existing : List Field
  document : Option Json
  isNew : Bool

namespace Occasion

variable {p q : Occasion} {a b : Alert}

/-- What the trace changes about the fields. -/
def outcome (p : Occasion) : Reconciliation :=
  reconcile p.scanner p.newId p.trace p.endpoint.id p.existing

/-- The alerts that the trace sets off. -/
def alerts (p : Occasion) : List Alert :=
  pendingAlerts p.scanner p.hstsWanted p.endpoint p.trace p.outcome p.document p.isNew

/-- Each place has one field at most, and no class that is found has a colon. -/
structure Sound (p : Occasion) : Prop where
  distinctPlaces : DistinctPlaces p.existing
  plainClasses (text : String) : ∀ c ∈ Dict.keys (p.scanner.scan text), ':' ∉ c.toList

/-- The differences from the document, if there is one. -/
def diffs (p : Occasion) : List SpecDiff :=
  p.document.elim [] fun doc => SpecDiff.diff doc p.endpoint.path p.endpoint.method p.trace

/-- The alerts other than those about differences and classes. -/
def otherAlerts (p : Occasion) : List Alert :=
  (Alert.unauthenticated? p.endpoint p.trace p.outcome.responseClasses).toList ++
    (if p.hstsWanted && !p.trace.hasResponseHeader Alert.hstsHeader then
      [Alert.missingHsts p.endpoint p.trace]
    else []) ++
    (if p.isNew then [Alert.newEndpoint p.endpoint p.trace] else [])

theorem alerts_eq (p : Occasion) : p.alerts =
    p.diffs.map (Alert.specDiff p.endpoint p.trace) ++
      p.outcome.newClasses.map (Alert.sensitiveData p.scanner p.endpoint p.trace) ++
      p.otherAlerts := by
  unfold alerts pendingAlerts otherAlerts diffs
  cases p.document <;> simp

theorem nodup_diffs (p : Occasion) : p.diffs.Nodup := by
  unfold diffs
  cases p.document with
  | none => exact List.nodup_nil
  | some doc => exact (SpecDiff.increasing_diff ..).nodup

theorem nodup_newClasses (p : Occasion) : p.outcome.newClasses.Nodup :=
  (increasing_sortDistinct _).nodup

/-- A new class comes from the scanner. -/
theorem Sound.plain_of_mem_newClasses (hp : p.Sound) {x : FoundClass}
    (hx : x ∈ p.outcome.newClasses) : ':' ∉ x.className.toList := by
  obtain ⟨hnow, hbefore⟩ := (mem_newClasses hp.distinctPlaces).1 hx
  obtain ⟨⟨_, -, -, text, samples, -, hscan⟩, -⟩ :=
    ((mem_classesAt_track hp.distinctPlaces).1 hnow).resolve_left hbefore
  exact hp.plainClasses text _ (List.mem_map_of_mem hscan)

/-- The other alerts are of different kinds. -/
theorem kind_otherAlerts_sublist (p : Occasion) : (p.otherAlerts.map Alert.kind).Sublist
    ([.unauthenticatedData] ++ [.missingHsts] ++ [.newEndpoint]) := by
  unfold otherAlerts Alert.unauthenticated?
  rw [List.map_append, List.map_append]
  refine .append (.append ?_ ?_) ?_
  all_goals
    split
    · exact .refl _
    · exact List.nil_sublist _

theorem kind_of_mem_otherAlerts (h : a ∈ p.otherAlerts) :
    a.kind ≠ .specDiff ∧ a.kind ≠ .sensitiveData := by
  have hkind := p.kind_otherAlerts_sublist.subset (List.mem_map_of_mem h)
  generalize a.kind = kind at hkind
  revert hkind
  cases kind <;> decide

theorem nodup_triggers_otherAlerts (p : Occasion) : (p.otherAlerts.map Alert.trigger).Nodup := by
  refine List.Nodup.of_map Prod.fst ?_
  rw [List.map_map]
  exact p.kind_otherAlerts_sublist.nodup (by decide)

/-- The alerts about classes are those for the new classes. -/
theorem mem_alerts_of_sensitiveData (ha : a ∈ p.alerts) (hkind : a.kind = .sensitiveData) :
    ∃ x ∈ p.outcome.newClasses, a = Alert.sensitiveData p.scanner p.endpoint p.trace x := by
  rw [alerts_eq, List.mem_append, List.mem_append, List.mem_map, List.mem_map] at ha
  obtain (⟨d, -, rfl⟩ | ⟨x, hx, rfl⟩) | hother := ha
  · cases hkind
  · exact ⟨x, hx, rfl⟩
  · exact absurd hkind (kind_of_mem_otherAlerts hother).2

/-- The alerts about differences are those for the differences. -/
theorem mem_alerts_of_specDiff (ha : a ∈ p.alerts) (hkind : a.kind = .specDiff) :
    ∃ d, a = Alert.specDiff p.endpoint p.trace d := by
  rw [alerts_eq, List.mem_append, List.mem_append, List.mem_map, List.mem_map] at ha
  obtain (⟨d, -, rfl⟩ | ⟨x, -, rfl⟩) | hother := ha
  · exact ⟨d, rfl⟩
  · cases hkind
  · exact absurd hkind (kind_of_mem_otherAlerts hother).1

theorem Sound.nodup_triggers (hp : p.Sound) : (p.alerts.map Alert.trigger).Nodup := by
  have hdiffs :
      ((p.diffs.map (Alert.specDiff p.endpoint p.trace)).map Alert.trigger).Nodup := by
    rw [List.map_map]
    exact List.Nodup.map (fun _ _ => (Alert.trigger_specDiff_eq_iff rfl).1) p.nodup_diffs
  have hclasses : ((p.outcome.newClasses.map
      (Alert.sensitiveData p.scanner p.endpoint p.trace)).map Alert.trigger).Nodup := by
    rw [List.map_map]
    refine List.Nodup.map_on (fun x hx y hy => ?_) p.nodup_newClasses
    exact (Alert.trigger_sensitiveData_eq_iff rfl (hp.plain_of_mem_newClasses hx)
      (hp.plain_of_mem_newClasses hy)).1
  rw [alerts_eq]
  refine Alert.nodup_triggers_append (Alert.nodup_triggers_append hdiffs hclasses ?_)
    p.nodup_triggers_otherAlerts ?_
  · simp only [List.mem_map]
    rintro _ ⟨d, -, rfl⟩ _ ⟨x, -, rfl⟩
    exact nofun
  · simp only [List.mem_append, List.mem_map]
    rintro _ (⟨d, -, rfl⟩ | ⟨x, -, rfl⟩) b hb
    · exact (kind_of_mem_otherAlerts hb).1.symm
    · exact (kind_of_mem_otherAlerts hb).2.symm

end Occasion

open Occasion in
/-- **Triggers tell apart what alerts are about.** The alerts that a trace sets off have different
triggers. Of two traces of one endpoint, alerts about classes have the same trigger exactly if they
tell the same section, path and class, and alerts about differences exactly if they tell the same kind
and location. -/
theorem triggers_tell_apart :
    (∀ p : Occasion, p.Sound → (p.alerts.map Alert.trigger).Nodup) ∧
      ∀ p q : Occasion, p.Sound → q.Sound → p.endpoint.id = q.endpoint.id →
        ∀ a ∈ p.alerts, ∀ b ∈ q.alerts,
          (a.kind = .sensitiveData → b.kind = .sensitiveData →
            (a.trigger = b.trigger ↔ a.tells ["dataSection", "dataPath", "dataClass"] =
              b.tells ["dataSection", "dataPath", "dataClass"])) ∧
          (a.kind = .specDiff → b.kind = .specDiff →
            (a.trigger = b.trigger ↔
              a.tells ["kind", "location"] = b.tells ["kind", "location"])) := by
  refine ⟨fun p hp => hp.nodup_triggers, fun p q hp hq hid a ha b hb => ⟨fun hka hkb => ?_,
    fun hka hkb => ?_⟩⟩
  · obtain ⟨x, hx, rfl⟩ := mem_alerts_of_sensitiveData ha hka
    obtain ⟨y, hy, rfl⟩ := mem_alerts_of_sensitiveData hb hkb
    rw [Alert.trigger_sensitiveData_eq_iff hid (hp.plain_of_mem_newClasses hx)
      (hq.plain_of_mem_newClasses hy), Alert.tells_sensitiveData_eq_iff]
  · obtain ⟨d, rfl⟩ := mem_alerts_of_specDiff ha hka
    obtain ⟨d', rfl⟩ := mem_alerts_of_specDiff hb hkb
    rw [Alert.trigger_specDiff_eq_iff hid, Alert.tells_specDiff_eq_iff]

/-- The first trace with a query parameter of a name. -/
def parameterOccasion (name : String) : Occasion where
  scanner := textScanner
  hstsWanted := true
  newId := .ofNat
  endpoint := .ofTemplate (.ofNat 3) "api.local" "GET"
    ⟨"/lists/\x7bparam1\x7d", "^/lists/[^/]+(/)*$", 1, false⟩
  trace := { SpecDiff.listTrace with requestParameters := [⟨name, "x"⟩] }
  existing := []
  document := some SpecDiff.listDocument
  isNew := true

theorem sound_parameterOccasion (name : String) : (parameterOccasion name).Sound where
  distinctPlaces := List.nodup_nil
  plainClasses text c hc := by
    obtain rfl : c = "TEXT" := by simpa [parameterOccasion, textScanner, Dict.keys] using hc
    decide

/-- Names of parameters that look like keys. -/
theorem triggers_tell_apart_parameter :
    (parameterOccasion "a").Sound ∧ (parameterOccasion "a:TEXT").Sound ∧
      (parameterOccasion "a").alerts.map Alert.key =
        ["undocumented_query_parameter:query.a",
          "undocumented_response_property:res.body.200.next.size",
          "req.params.a:TEXT", "res.body.next.size:TEXT", "res.body.next.tags[].k:TEXT", "", ""] ∧
      ((parameterOccasion "a").alerts.map Alert.trigger).Nodup ∧
      ∀ a ∈ (parameterOccasion "a").alerts, ∀ b ∈ (parameterOccasion "a:TEXT").alerts,
        a.kind = .sensitiveData → b.kind = .sensitiveData →
          (a.trigger = b.trigger ↔ a.tells ["dataSection", "dataPath", "dataClass"] =
            b.tells ["dataSection", "dataPath", "dataClass"]) := by
  refine ⟨sound_parameterOccasion "a", sound_parameterOccasion "a:TEXT", by decide +kernel,
    triggers_tell_apart.1 _ (sound_parameterOccasion "a"), ?_⟩
  intro a ha b hb
  exact (triggers_tell_apart.2 _ _ (sound_parameterOccasion "a") (sound_parameterOccasion "a:TEXT")
    rfl a ha b hb).1

end TrafficLens
