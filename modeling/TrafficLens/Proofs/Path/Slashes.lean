import TrafficLens.Proofs.Path.Slots

/-!
# Spellings of one path

A path can be written with or without its first slash, with several slashes for one, and with any
number of them at the end. None of this matters: a template is made from the segments of a path and
from nothing else (`template_eq_of_segments_eq`), and its pattern describes the normal spelling of
every path with these segments (`infer_respects_segments`).

The one thing that can keep a path from being matched by its own pattern is the size of the pattern,
and a path of very many identifiers is kept from it (`not_isMatch_infer_longPath`).
-/

namespace TrafficLens

namespace Path

/-- No two slashes in a row are left, and behind a slash not even one at the front. -/
theorem not_slashes_infix_squeeze (afterSlash : Bool) (cs : List Char) :
    ¬ ['/', '/'] <:+: squeeze afterSlash cs ∧
      (afterSlash = true → (squeeze afterSlash cs).head? ≠ some '/') := by
  induction cs generalizing afterSlash with
  | nil => simp [squeeze]
  | cons c cs ih =>
    obtain ⟨hbehind, hhead⟩ := ih true
    by_cases hc : c = '/'
    · subst hc
      cases afterSlash with
      | true => exact ⟨by simpa [squeeze] using hbehind, by simpa [squeeze] using hhead⟩
      | false =>
        refine ⟨?_, by simp⟩
        rw [squeeze, if_pos rfl, if_neg Bool.false_ne_true, List.infix_cons_iff]
        rintro (⟨rest, hrest⟩ | h)
        · have hslash := (List.cons.inj hrest).2
          exact hhead rfl (by simp [← hslash])
        · exact hbehind h
    · obtain ⟨hrest, -⟩ := ih false
      rw [squeeze, if_neg hc]
      refine ⟨?_, fun _ => by simpa using hc⟩
      rw [List.infix_cons_iff]
      rintro (⟨rest, hrest'⟩ | h)
      · exact hc (List.cons.inj hrest').1.symm
      · exact hrest h

/-- A path in its normal spelling begins with a slash and has no two slashes in a row. -/
theorem normalize_spelling {path : String} (h : path ≠ "") :
    (normalize path).toList.head? = some '/' ∧ ¬ ['/', '/'] <:+: (normalize path).toList := by
  have hpath : path.toList ≠ [] := by simpa using h
  have hsqueezed : '/' :: squeeze true path.toList = squeeze false ('/' :: path.toList) := by
    rw [squeeze, if_pos rfl, if_neg Bool.false_ne_true]
  rw [normalize, String.toList_ofList, normalizeChars_eq_cons hpath]
  refine ⟨rfl, ?_⟩
  rw [hsqueezed]
  exact (not_slashes_infix_squeeze false _).1

end Path

namespace IdentifierPolicy

open TrafficLens.Path TrafficLens.Pattern

variable (policy : IdentifierPolicy)

/-- A template is made from the segments of a path. -/
theorem template_eq_of_segments_eq {path other : String} (h : segments path = segments other) :
    policy.template path = policy.template other := by
  have hgraphql : policy.isGraphql path = policy.isGraphql other := by
    rw [isGraphql, isGraphql, h]
  have hslot : policy.isSlot path = policy.isSlot other := by
    funext s
    rw [isSlot, isSlot, hgraphql]
  rw [template, template, h, hgraphql, hslot]

/-- A pattern describes the path that it was made from. -/
theorem describes_template {path : String} (h : path ≠ "") :
    Describes (policy.template path).pattern (normalize path) := by
  have hne : normalize path ≠ "" := by simpa using normalize_ne_empty h
  rw [template, ← policy.pieces_normalize, describes_pieces]
  exact policy.spells_pieces (normalize_normalize path) hne

/-- **The slashes of a path do not matter.** Paths with the same segments have one template, and its
pattern describes the normal spelling of each of them; so it matches them, unless it is too large for
the matcher. The normal spelling has the segments of the path. It is its own normal spelling, begins
with a slash unless the path is empty, and never has two slashes in a row. -/
theorem infer_respects_segments :
    (∀ path other, path ≠ "" → other ≠ "" → segments path = segments other →
      ∃ t, policy.infer path = some t ∧ policy.infer other = some t ∧
        ∀ text ∈ [normalize path, normalize other],
          Describes t.pattern text ∧ (isMatch t.pattern text ↔ compiles t.pattern)) ∧
    ∀ path, normalize (normalize path) = normalize path ∧
      segments (normalize path) = segments path ∧
        (path ≠ "" → (normalize path).toList.head? = some '/' ∧
          ¬ ['/', '/'] <:+: (normalize path).toList) := by
  refine ⟨fun path other hpath hother hsegs => ?_, fun path =>
    ⟨normalize_normalize path, segments_normalize path, normalize_spelling⟩⟩
  have htemplate := policy.template_eq_of_segments_eq hsegs
  have hdescribes : ∀ text ∈ [normalize path, normalize other],
      Describes (policy.template path).pattern text := by
    intro text htext
    rcases List.mem_pair.1 htext with rfl | rfl
    · exact policy.describes_template hpath
    · exact htemplate ▸ policy.describes_template hother
  refine ⟨policy.template path, policy.infer_eq hpath, htemplate ▸ policy.infer_eq hother, ?_⟩
  intro text htext
  refine ⟨hdescribes text htext, ?_⟩
  rw [isMatch_iff_describes]
  exact and_iff_left (hdescribes text htext)

/-- Two spellings of a path with an identifier. -/
theorem infer_respects_segments_users :
    ∃ t, IdentifierPolicy.infer {} "users//1" = some t ∧
      IdentifierPolicy.infer {} "///users/1/" = some t ∧ isMatch t.pattern "/users/1" ∧
        isMatch t.pattern "/users/1/" := by
  obtain ⟨t, hpath, hother, hmatch⟩ := (infer_respects_segments {}).1 "users//1" "///users/1/"
    (by decide) (by decide) (by decide)
  have ht : t = ⟨"/users/\x7bparam1\x7d", "^/users/[^/]+(/)*$", 1, false⟩ :=
    Option.some.inj (hpath.symm.trans (by decide +kernel))
  have hcompiles : compiles t.pattern := by
    rw [ht]
    decide +kernel
  exact ⟨t, hpath, hother, (hmatch _ (by decide)).2.2 hcompiles, (hmatch _ (by decide)).2.2 hcompiles⟩

/-! ## Paths that are too long -/

/-- The pattern of a path with very many identifiers matches nothing. -/
theorem not_isMatch_template {path : String} (hgraphql : policy.isGraphql path = false)
    (hroom : sizeBound < Piece.segment.node.weight * (segments path).countP policy.isIdentifier)
    (text : String) :
    isMatch (policy.template path).pattern text = false := by
  rw [← Bool.not_eq_true, isMatch_iff_describes]
  rintro ⟨hcompiles, -⟩
  have hfits := policy.mul_paramCount_le_of_compiles path hcompiles
  rw [paramCount_template, hgraphql, if_neg Bool.false_ne_true] at hfits
  exact absurd hroom (Nat.not_lt.2 hfits)

/-- A path of forty thousand numbers. -/
def longPath : String := String.ofList (slashed (List.replicate 40000 ['1']))

theorem segments_longPath : segments longPath = List.replicate 40000 "1" := by
  have hsegment : ∀ s ∈ List.replicate 40000 ['1'], s ≠ [] ∧ '/' ∉ s := by
    intro s hs
    obtain rfl := List.eq_of_mem_replicate hs
    decide
  rw [segments, longPath, String.toList_ofList, segmentChars_slashed_nil hsegment,
    List.map_replicate]

/-- A path of very many numbers is not even matched by the pattern that is made from it. -/
theorem not_isMatch_infer_longPath :
    longPath ≠ "" ∧ ∃ t, IdentifierPolicy.infer {} longPath = some t ∧
      isMatch t.pattern (normalize longPath) = false := by
  have hne : longPath ≠ "" := by
    intro hempty
    have hsegs := segments_longPath
    rw [hempty, List.replicate_succ] at hsegs
    exact absurd hsegs nofun
  have hgraphql : isGraphql {} longPath = false := by
    rw [isGraphql, segments_longPath, List.replicate_succ', List.getLast?_concat]
    decide +kernel
  have hroom : sizeBound <
      Piece.segment.node.weight * (segments longPath).countP (isIdentifier {}) := by
    rw [segments_longPath, weight_segment, List.countP_replicate, if_pos (by decide)]
    decide
  exact ⟨hne, _, infer_eq {} hne, not_isMatch_template {} hgraphql hroom _⟩

end IdentifierPolicy

end TrafficLens
