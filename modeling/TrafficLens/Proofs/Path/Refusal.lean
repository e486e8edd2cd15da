import TrafficLens.Proofs.Path.Imitation
import TrafficLens.Traffic.Endpoint

/-!
# Whom an endpoint turns away

An endpoint whose document was generated is refused for a path that has a plain segment where the
endpoint has a placeholder. The endpoint knows its placeholders by the spelling of its path, though,
and inference keeps a plain segment as it was sent, also one in braces. So an endpoint is refused for
the path that it was made from exactly if inference kept such a segment, and then it is refused for
every other path with the same slots as well (`refuses_own_iff_keeps_braces`). An endpoint of a
GraphQL path is never refused.
-/

namespace TrafficLens

/-- The endpoint, after it was described in a generated document. -/
def Endpoint.inGenerated (e : Endpoint) (document : String) : Endpoint :=
  { e with documentName := some document, documentGenerated := some true }

namespace IdentifierPolicy

open TrafficLens.Path

variable (policy : IdentifierPolicy)

/-- A segment of the path is spelled like a placeholder, and inference keeps it. -/
def KeepsBraces (path : String) : Prop :=
  ¬ policy.isGraphql path ∧ ∃ s ∈ segments path, isPlaceholder s ∧ ¬ policy.isIdentifier s

theorem Agrees.refl (slot : String → Bool) (segs : List String) : Agrees slot slot segs segs :=
  List.forall₂_same.2 fun _ _ => ⟨rfl, fun _ => rfl⟩

theorem segments_template (path : String) : segments (policy.template path).path =
    nameSlots (policy.isSlot path) 0 (segments path) :=
  segments_spell (segment_nameSlots _ 0 fun _ => segment_ne)

/-- Against segments with the same slots, a template has a placeholder in a wrong place exactly where
a segment that is kept is spelled like one. -/
theorem any_zip_nameSlots {slot : String → Bool} {segs segs' : List String}
    (h : Agrees slot slot segs segs') (count : Nat) :
    ((nameSlots slot count segs).zip segs').any (fun s => isPlaceholder s.1 && !slot s.2) =
      segs.any fun s => isPlaceholder s && !slot s := by
  induction h generalizing count with
  | nil => rfl
  | @cons s s' segs segs' hs _ ih =>
    obtain ⟨hslot, -⟩ := hs
    rw [nameSlots, List.any_cons]
    cases hs' : slot s' with
    | true =>
      -- a slot takes the other path's segment, so neither side finds anything here
      rw [hslot, hs', if_pos rfl, List.zip_cons_cons, List.any_cons, ih, hs', Bool.not_true,
        Bool.and_false, Bool.and_false]
    | false =>
      rw [hslot, hs', if_neg Bool.false_ne_true, List.zip_cons_cons, List.any_cons, ih, hs']

/-- What the bypass says of an endpoint with the path of a template, for a path with its slots. -/
theorem refuses_template_iff {path other : String} {e : Endpoint}
    (hpath : e.path = (policy.template path).path) (hgraphql : e.isGraphql = policy.isGraphql path)
    (hgenerated : e.documentGenerated = some true)
    (h : Agrees policy.isIdentifier policy.isIdentifier (segments path) (segments other)) :
    Bypass.generated.refuses policy e other ↔ policy.KeepsBraces path := by
  rw [KeepsBraces, Bypass.refuses, hgenerated, hgraphql, hpath, segments_template]
  by_cases hwhole : policy.isGraphql path = true
  · simp [hwhole]
  · rw [isSlot_of_not_isGraphql policy hwhole, any_zip_nameSlots h 0]
    simp [hwhole]

/-- **For which paths of its own an endpoint is refused.** Once the endpoint that was made from a
path is described in a generated document, the bypass refuses it for that path exactly if inference
kept a segment of the path that is spelled like a placeholder. The same holds for every path with as
many segments that has identifiers in the same places and is the same elsewhere. -/
theorem refuses_own_iff_keeps_braces {path : String} {t : PathTemplate}
    (ht : policy.infer path = some t) (id : Uuid) (host method document : String) :
    let endpoint := (Endpoint.ofTemplate id host method t).inGenerated document
    (Bypass.generated.refuses policy endpoint path ↔ policy.KeepsBraces path) ∧
      ∀ other, Agrees policy.isIdentifier policy.isIdentifier (segments path) (segments other) →
        (Bypass.generated.refuses policy endpoint other ↔ policy.KeepsBraces path) := by
  obtain ⟨-, rfl⟩ := policy.infer_eq_some_iff.1 ht
  have hall : ∀ other,
      Agrees policy.isIdentifier policy.isIdentifier (segments path) (segments other) →
        (Bypass.generated.refuses policy
          ((Endpoint.ofTemplate id host method (policy.template path)).inGenerated document) other ↔
            policy.KeepsBraces path) :=
    fun other h => policy.refuses_template_iff rfl rfl rfl h
  exact ⟨hall path (Agrees.refl _ _), hall⟩

/-- An endpoint with a segment in braces and a slot is refused for its own path and for another
one. -/
theorem refuses_own_iff_keeps_braces_me :
    let policy : IdentifierPolicy := {}
    let t : PathTemplate :=
      ⟨"/\x7bme\x7d/\x7bparam1\x7d", "^/\\\x7bme\\\x7d/[^/]+(/)*$", 1, false⟩
    let endpoint := (Endpoint.ofTemplate (.ofNat 1) "api.local" "GET" t).inGenerated "api"
    policy.infer "/\x7bme\x7d/7" = some t ∧ policy.KeepsBraces "/\x7bme\x7d/7" ∧
      Bypass.generated.refuses policy endpoint "/\x7bme\x7d/7" ∧
        Bypass.generated.refuses policy endpoint "/\x7bme\x7d/42" := by
  intro policy t endpoint
  have ht : policy.infer "/\x7bme\x7d/7" = some t := by decide +kernel
  have hkeeps : policy.KeepsBraces "/\x7bme\x7d/7" :=
    ⟨by decide +kernel, "\x7bme\x7d", by decide +kernel, by decide +kernel, by decide +kernel⟩
  have hagrees : Agrees policy.isIdentifier policy.isIdentifier (segments "/\x7bme\x7d/7")
      (segments "/\x7bme\x7d/42") := by
    rw [show segments "/\x7bme\x7d/7" = ["\x7bme\x7d", "7"] by decide +kernel,
      show segments "/\x7bme\x7d/42" = ["\x7bme\x7d", "42"] by decide +kernel]
    exact .cons ⟨rfl, fun _ => rfl⟩ (.cons ⟨by decide +kernel, fun h => absurd h (by decide +kernel)⟩
      .nil)
  obtain ⟨hown, hother⟩ :=
    policy.refuses_own_iff_keeps_braces ht (.ofNat 1) "api.local" "GET" "api"
  exact ⟨ht, hkeeps, hown.2 hkeeps, (hother _ hagrees).2 hkeeps⟩

/-- There is an endpoint that is refused for the path that it was made from. -/
theorem exists_own_path_refused : ∃ (path : String) (t : PathTemplate),
    path ≠ "" ∧ IdentifierPolicy.infer {} path = some t ∧
      Bypass.generated.refuses {}
        ((Endpoint.ofTemplate (.ofNat 1) "api.local" "GET" t).inGenerated "api") path :=
  ⟨"/users/\x7bme\x7d", ⟨"/users/\x7bme\x7d", "^/users/\\\x7bme\\\x7d(/)*$", 0, false⟩,
    by decide, by decide +kernel, by decide +kernel⟩

end IdentifierPolicy

end TrafficLens
