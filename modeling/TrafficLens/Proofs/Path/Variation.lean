import TrafficLens.Proofs.Path.Slots

/-!
# Paths that differ in their identifiers

Two paths that are not GraphQL paths and differ only in segments that look like identifiers have the
same template (`Varies.template_eq`), and no inferred pattern tells them apart
(`Varies.isMatch_eq`): where a pattern has a slot both fit, and a segment that it keeps does not look
like an identifier, so that both paths have it.

Of all templates that match a path its own has the fewest slots (`paramCount_lt_of_isMatch`).
-/

namespace TrafficLens

namespace IdentifierPolicy

open TrafficLens.Path TrafficLens.Pattern PathTemplate

variable (policy : IdentifierPolicy)

/-! ## Segments -/

theorem fits_of_agrees {slot : String → Bool} {segs path other : List String}
    (hfits : List.Forall₂ (fun s t => Fits slot s t.toList) segs path)
    (h : Agrees slot slot path other) (hother : ∀ t ∈ other, t.toList ≠ [] ∧ '/' ∉ t.toList) :
    List.Forall₂ (fun s t => Fits slot s t.toList) segs other := by
  induction hfits generalizing other with
  | nil =>
    cases h
    exact .nil
  | @cons s t segs path hst _ ih =>
    obtain ⟨t', other, ⟨_, hkept⟩, hrest, rfl⟩ := List.forall₂_cons_left_iff.1 h
    obtain ⟨ht', hother⟩ := List.forall_mem_cons.1 hother
    refine .cons ?_ (ih hrest hother)
    rw [Fits] at hst ⊢
    split
    · exact ht'
    · next hslot =>
      -- the template keeps its segment, so the path has it, and then the other one too
      rw [if_neg hslot] at hst
      obtain rfl := String.toList_inj.1 hst
      rw [hkept (Bool.eq_false_iff.2 hslot)]

/-- Segments that fit have at most as many slots, and with as many they agree. -/
theorem countP_le_of_fits {slot : String → Bool} {segs path : List String}
    (h : List.Forall₂ (fun s t => Fits slot s t.toList) segs path) :
    path.countP slot ≤ segs.countP slot ∧
      (path.countP slot = segs.countP slot → Agrees slot slot segs path) := by
  induction h with
  | nil => exact ⟨Nat.le_refl _, fun _ => .nil⟩
  | @cons s t segs path hst _ ih =>
    obtain ⟨hle, hagrees⟩ := ih
    rw [List.countP_cons, List.countP_cons]
    rw [Fits] at hst
    cases hs : slot s with
    | false =>
      rw [hs, if_neg Bool.false_ne_true] at hst
      obtain rfl := String.toList_inj.1 hst
      simp only [hs, Bool.false_eq_true, if_false, Nat.add_zero]
      exact ⟨hle, fun heq => .cons ⟨rfl, fun _ => rfl⟩ (hagrees heq)⟩
    | true =>
      cases ht : slot t with
      | false =>
        simp only [Bool.false_eq_true, if_false, if_true]
        exact ⟨by omega, fun heq => by omega⟩
      | true =>
        simp only [if_true]
        refine ⟨by omega, fun heq => .cons ⟨hs.trans ht.symm, ?_⟩ (hagrees (by omega))⟩
        exact fun hkept => absurd (hkept.symm.trans hs) Bool.false_ne_true

/-! ## Templates -/

variable {policy} {path other source : String}

/-- Two paths differ only in segments that look like identifiers. -/
def Varies (policy : IdentifierPolicy) (path other : String) : Prop :=
  ¬ policy.isGraphql path ∧ ¬ policy.isGraphql other ∧
    Agrees policy.isIdentifier policy.isIdentifier (segments path) (segments other)

theorem Varies.symm (h : policy.Varies path other) : policy.Varies other path :=
  ⟨h.2.1, h.1, h.2.2.symm⟩

/-- Paths that differ in their identifiers have one template. -/
theorem Varies.template_eq (h : policy.Varies path other) :
    policy.template path = policy.template other := by
  obtain ⟨hpath, hother, hagrees⟩ := h
  rw [template, template, isSlot_of_not_isGraphql _ hpath, isSlot_of_not_isGraphql _ hother,
    nameSlots_of_agrees hagrees, allPieces_of_agrees hagrees, countP_of_agrees hagrees,
    Bool.eq_false_iff.2 hpath, Bool.eq_false_iff.2 hother]

/-- What fits the template of a GraphQL path is a GraphQL path. -/
theorem not_isGraphql_of_fits (hpath : ¬ policy.isGraphql path)
    (h : List.Forall₂ (fun s t => Fits (policy.isSlot source) s t.toList)
      (segments source) (segments path)) : ¬ policy.isGraphql source := by
  intro hsource
  rw [isSlot_of_isGraphql policy hsource] at h
  have hsegs : segments source = segments path := by
    rw [← List.forall₂_eq_eq_eq]
    exact h.imp fun s t hst => (String.toList_inj.1 hst).symm
  refine hpath ?_
  rwa [isGraphql, ← hsegs]

/-- No inferred pattern tells paths apart that differ in their identifiers. -/
theorem Varies.isMatch_eq (h : policy.Varies path other) (hpath : path ≠ "") (hother : other ≠ "")
    (source : String) :
    isMatch (policy.template source).pattern (normalize path) =
      isMatch (policy.template source).pattern (normalize other) := by
  have himp : ∀ {path other : String}, policy.Varies path other → path ≠ "" → other ≠ "" →
      isMatch (policy.template source).pattern (normalize path) →
        isMatch (policy.template source).pattern (normalize other) := by
    intro path other h hpath hother hmatch
    rw [policy.isMatch_normalize_iff hpath] at hmatch
    rw [policy.isMatch_normalize_iff hother]
    obtain ⟨hcompiles, hfits⟩ := hmatch
    have hslot := isSlot_of_not_isGraphql policy (not_isGraphql_of_fits h.1 hfits)
    rw [hslot] at hfits ⊢
    exact ⟨hcompiles, fits_of_agrees hfits h.2.2 fun t => segment_ne⟩
  rw [Bool.eq_iff_iff]
  exact ⟨himp h hpath hother, himp h.symm hother hpath⟩

/-- **Of the templates that match a path its own has the fewest slots.** -/
theorem paramCount_lt_of_isMatch (hpath : path ≠ "") (hgraphql : ¬ policy.isGraphql path)
    (h : isMatch (policy.template source).pattern (normalize path)) :
    policy.template source = policy.template path ∨
      (policy.template path).paramCount < (policy.template source).paramCount := by
  obtain ⟨-, hfits⟩ := (policy.isMatch_normalize_iff hpath).1 h
  have hsource := not_isGraphql_of_fits hgraphql hfits
  rw [isSlot_of_not_isGraphql policy hsource] at hfits
  obtain ⟨hle, hagrees⟩ := countP_le_of_fits hfits
  rw [policy.paramCount_template path, policy.paramCount_template source, if_neg hgraphql,
    if_neg hsource]
  rcases hle.eq_or_lt with heq | hlt
  · exact .inl (Varies.template_eq ⟨hsource, hgraphql, hagrees heq⟩)
  · exact .inr hlt

end IdentifierPolicy

end TrafficLens
