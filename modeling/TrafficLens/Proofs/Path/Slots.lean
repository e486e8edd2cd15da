import Mathlib.Data.List.Forall2
import TrafficLens.Proofs.Path.Inference

/-!
# Templates by their slots

Inference decides for each segment of a path whether it becomes a placeholder, a *slot* of the
template, or is kept. No segment of a GraphQL path is a slot. The slots determine everything else:
`infer_eq` gives the template of a path in closed form, its segments with the slots numbered from
one and its pattern as pieces.

The pattern matches exactly the texts that follow the path: a slash and a part for each segment, the
segment itself or, in a slot, any text without a slash, and any number of slashes behind
(`isMatch_infer_iff_covers`). For a path in its normal spelling this is a comparison of its segments
with those of the template (`isMatch_normalize_iff`).
-/

namespace TrafficLens

namespace IdentifierPolicy

open TrafficLens.Path TrafficLens.Pattern PathTemplate

variable (policy : IdentifierPolicy) (path : String)

/-- Does a segment of the path become a placeholder? -/
def isSlot (segment : String) : Bool := !policy.isGraphql path && policy.isIdentifier segment

/-- The segments of a template. `count` slots came before. -/
def nameSlots (slot : String → Bool) : (count : Nat) → List String → List String
  | _, [] => []
  | count, s :: rest =>
    if slot s then placeholder (count + 1) :: nameSlots slot (count + 1) rest
    else s :: nameSlots slot count rest

/-- Segments as a path. Without any it is a slash. -/
def spell : List String → String
  | [] => "/"
  | segments => String.ofList (slashed (segments.map String.toList))

/-- The pieces for a segment and the slash before it. -/
def slotPieces (slot : String → Bool) (s : String) : List Piece :=
  .literal '/' :: if slot s then [.segment] else s.toList.map .literal

/-- The pieces for segments. Without any it is a slash. -/
def allPieces (slot : String → Bool) : List String → List Piece
  | [] => [.literal '/']
  | segments => segments.flatMap (slotPieces slot)

/-- The template of a path, from its slots. -/
def template : PathTemplate where
  path := spell (nameSlots (policy.isSlot path) 0 (segments path))
  pattern := String.ofList (Piece.patternChars (allPieces (policy.isSlot path) (segments path)))
  paramCount := (segments path).countP (policy.isSlot path)
  isGraphql := policy.isGraphql path

/-! ## Segments of a path -/

theorem segment_ne {path s : String} (h : s ∈ segments path) :
    s.toList ≠ [] ∧ '/' ∉ s.toList := by
  obtain ⟨cs, hcs, rfl⟩ := List.mem_map.1 h
  rw [String.toList_ofList]
  exact segment_of_mem hcs

theorem map_toList_segments (path : String) :
    (segments path).map String.toList = segmentChars path.toList := by
  rw [segments, List.map_map]
  refine (List.map_congr_left fun cs _ => ?_).trans (List.map_id _)
  exact String.toList_ofList

theorem isGraphql_normalize : policy.isGraphql (normalize path) = policy.isGraphql path := by
  rw [isGraphql, isGraphql, segments_normalize]

theorem segments_ne_nil_of_isGraphql {path : String} (h : policy.isGraphql path = true) :
    segments path ≠ [] := by
  intro hnil
  rw [isGraphql, hnil] at h
  cases h

theorem isSlot_of_isGraphql {path : String} (h : policy.isGraphql path = true) :
    policy.isSlot path = fun _ => false := by
  funext s
  rw [isSlot, h]
  rfl

theorem isSlot_of_not_isGraphql {path : String} (h : ¬ policy.isGraphql path = true) :
    policy.isSlot path = policy.isIdentifier := by
  funext s
  rw [isSlot, Bool.eq_false_iff.2 h]
  rfl

theorem spell_of_ne_nil {segs : List String} (h : segs ≠ []) :
    spell segs = String.ofList (slashed (segs.map String.toList)) := by
  cases segs with
  | nil => exact absurd rfl h
  | cons s segs => rfl

theorem allPieces_of_ne_nil {slot : String → Bool} {segs : List String} (h : segs ≠ []) :
    allPieces slot segs = segs.flatMap (slotPieces slot) := by
  cases segs with
  | nil => exact absurd rfl h
  | cons s segs => rfl

theorem length_nameSlots (slot : String → Bool) (count : Nat) (segs : List String) :
    (nameSlots slot count segs).length = segs.length := by
  induction segs generalizing count with
  | nil => rfl
  | cons s segs ih =>
    rw [nameSlots]
    split <;> simp [ih]

theorem nameSlots_ne_nil {slot : String → Bool} {count : Nat} {segs : List String}
    (h : segs ≠ []) : nameSlots slot count segs ≠ [] := by
  rw [← List.length_pos_iff] at h ⊢
  rwa [length_nameSlots]

theorem nameSlots_false (count : Nat) (segs : List String) :
    nameSlots (fun _ => false) count segs = segs := by
  induction segs with
  | nil => rfl
  | cons s segs ih => rw [nameSlots, if_neg Bool.false_ne_true, ih]

/-! ## Segments that agree -/

/-- The segments have the same slots, and are the same elsewhere. -/
def Agrees (slot slot' : String → Bool) (segs segs' : List String) : Prop :=
  List.Forall₂ (fun s s' => slot s = slot' s' ∧ (slot s = false → s = s')) segs segs'

theorem Agrees.symm {slot slot' : String → Bool} {segs segs' : List String}
    (h : Agrees slot slot' segs segs') : Agrees slot' slot segs' segs :=
  List.Forall₂.flip <| List.Forall₂.imp
    (fun _ _ ⟨hslot, hkept⟩ => ⟨hslot.symm, fun hs => (hkept (hslot.trans hs)).symm⟩) h

theorem allPieces_of_agrees {slot slot' : String → Bool} {segs segs' : List String}
    (h : Agrees slot slot' segs segs') : allPieces slot segs = allPieces slot' segs' := by
  have hpieces : segs.flatMap (slotPieces slot) = segs'.flatMap (slotPieces slot') := by
    induction h with
    | nil => rfl
    | @cons s s' segs segs' hs _ ih =>
      obtain ⟨hslot, hkept⟩ := hs
      rw [List.flatMap_cons, List.flatMap_cons, ih, slotPieces, slotPieces, hslot]
      cases hs' : slot' s' with
      | true => rfl
      | false => rw [hkept (hslot.trans hs')]
  cases h with
  | nil => rfl
  | cons hs hsegs => exact hpieces

theorem countP_of_agrees {slot slot' : String → Bool} {segs segs' : List String}
    (h : Agrees slot slot' segs segs') : segs.countP slot = segs'.countP slot' := by
  induction h with
  | nil => rfl
  | cons hs _ ih => rw [List.countP_cons, List.countP_cons, hs.1, ih]

theorem nameSlots_of_agrees {slot slot' : String → Bool} {segs segs' : List String}
    (h : Agrees slot slot' segs segs') (count : Nat) :
    nameSlots slot count segs = nameSlots slot' count segs' := by
  induction h generalizing count with
  | nil => rfl
  | @cons s s' segs segs' hs _ ih =>
    obtain ⟨hslot, hkept⟩ := hs
    rw [nameSlots, nameSlots, hslot]
    cases hs' : slot' s' with
    | true => rw [if_pos rfl, if_pos rfl, ih]
    | false => rw [if_neg Bool.false_ne_true, if_neg Bool.false_ne_true, ih, hkept (hslot.trans hs')]

/-! ## Inference in closed form -/

theorem map_literal_slashed (segs : List String) :
    (slashed (segs.map String.toList)).map Piece.literal =
      segs.flatMap (slotPieces fun _ => false) := by
  induction segs with
  | nil => rfl
  | cons s segs ih =>
    rw [List.map_cons, slashed_cons, List.map_cons, List.map_append, ih, List.flatMap_cons]
    rfl

/-- The pieces that inference writes the pattern for are those of the slots. -/
theorem pieces_normalize :
    policy.pieces (normalize path) = allPieces (policy.isSlot path) (segments path) := by
  rw [pieces, isGraphql_normalize]
  split
  · next hgraphql =>
    have hne := policy.segments_ne_nil_of_isGraphql hgraphql
    have hpath : path.toList ≠ [] := by
      intro hnil
      rw [segments, hnil] at hne
      exact hne rfl
    rw [isSlot_of_isGraphql _ hgraphql, allPieces_of_ne_nil hne, ← map_literal_slashed,
      map_toList_segments, Path.normalize, String.toList_ofList, normalizeChars_eq hpath,
      trimEndChar_slashed (fun s => segment_of_mem) fun c => eq_slash_of_mem_finalSlash]
  · next hgraphql =>
    rw [isSlot_of_not_isGraphql _ hgraphql, segments_normalize]
    cases segments path <;> rfl

theorem assemble_path (count : Nat) (segs : List String) :
    (policy.assemble count segs).1.toList =
      slashed ((nameSlots policy.isIdentifier count segs).map String.toList) := by
  induction segs generalizing count with
  | nil => rfl
  | cons s segs ih =>
    rw [assemble, nameSlots]
    split <;> simp [ih]

theorem assemble_count (count : Nat) (segs : List String) :
    (policy.assemble count segs).2.2 = count + segs.countP policy.isIdentifier := by
  induction segs generalizing count with
  | nil => rfl
  | cons s segs ih =>
    rw [assemble, List.countP_cons]
    split
    · rw [ih]
      omega
    · exact ih count

theorem normalize_ne_empty {path : String} (h : path ≠ "") :
    (normalize path).isEmpty = false := by
  have hpath : path.toList ≠ [] := by simpa using h
  have hne : normalize path ≠ "" := by
    rw [Path.normalize, normalizeChars_eq_cons hpath]
    simp
  simpa using hne

/-- The spelling of a path does not matter for its template. -/
theorem template_normalize : policy.template (normalize path) = policy.template path := by
  have hslot : policy.isSlot (normalize path) = policy.isSlot path := by
    funext s
    rw [isSlot, isSlot, isGraphql_normalize]
  rw [template, template, segments_normalize, hslot, isGraphql_normalize]

/-- **Inference in closed form**: every path but the empty one has the template of its slots. -/
theorem infer_eq {path : String} (h : path ≠ "") :
    policy.infer path = some (policy.template path) := by
  cases hinfer : policy.infer path with
  | none =>
    rw [infer, normalize_ne_empty h, if_neg Bool.false_ne_true] at hinfer
    split at hinfer <;> cases hinfer
  | some t =>
    have hpattern := policy.pattern_of_infer hinfer
    rw [pieces_normalize] at hpattern
    rw [infer, normalize_ne_empty h, if_neg Bool.false_ne_true, isGraphql_normalize] at hinfer
    have hpath : path.toList ≠ [] := by simpa using h
    split at hinfer
    · next hgraphql =>
      have hne := policy.segments_ne_nil_of_isGraphql hgraphql
      obtain rfl := Option.some.inj hinfer
      rw [template, ← hpattern, isSlot_of_isGraphql _ hgraphql, nameSlots_false, hgraphql,
        spell_of_ne_nil hne, map_toList_segments, List.countP_false, wholeTemplate, Path.normalize,
        String.toList_ofList, normalizeChars_eq hpath,
        trimEndChar_slashed (fun s => segment_of_mem) fun c => eq_slash_of_mem_finalSlash]
      rfl
    · next hgraphql =>
      rw [segmentTemplate, segments_normalize] at hinfer
      rw [template, ← hpattern, isSlot_of_not_isGraphql _ hgraphql, Bool.eq_false_iff.2 hgraphql]
      cases hsegs : segments path with
      | nil =>
        rw [hsegs] at hinfer
        obtain rfl := Option.some.inj hinfer
        rfl
      | cons s segs =>
        rw [hsegs] at hinfer
        obtain rfl := Option.some.inj hinfer
        rw [spell_of_ne_nil (nameSlots_ne_nil (List.cons_ne_nil s segs)), ← assemble_path,
          String.ofList_toList, ← Nat.zero_add (List.countP _ _), ← assemble_count]

theorem infer_eq_some_iff {path : String} {t : PathTemplate} :
    policy.infer path = some t ↔ path ≠ "" ∧ policy.template path = t := by
  constructor
  · intro h
    have hne : path ≠ "" := by
      rintro rfl
      cases h
    rw [policy.infer_eq hne] at h
    exact ⟨hne, Option.some.inj h⟩
  · rintro ⟨hne, rfl⟩
    exact policy.infer_eq hne

/-! ## What the pattern matches -/

/-- The part of a text that a segment of the template can take: anything without a slash in a slot,
and the segment itself elsewhere. -/
def Fits (slot : String → Bool) (s : String) (part : List Char) : Prop :=
  if slot s then part ≠ [] ∧ '/' ∉ part else part = s.toList

theorem spells_append_iff {ps qs : List Piece} {text : List Char} :
    Piece.Spells (ps ++ qs) text ↔
      ∃ x y, text = x ++ y ∧ Piece.Spells ps x ∧ Piece.Spells qs y := by
  constructor
  · intro h
    induction ps generalizing text with
    | nil => exact ⟨[], text, rfl, rfl, h⟩
    | cons p ps ih =>
      obtain ⟨first, others, rfl, hp, hps⟩ := h
      obtain ⟨x, y, rfl, hx, hy⟩ := ih hps
      exact ⟨first ++ x, y, (List.append_assoc ..).symm, ⟨first, x, rfl, hp, hx⟩, hy⟩
  · rintro ⟨x, y, rfl, hx, hy⟩
    exact spells_append hx hy

theorem spells_literal_iff {cs text : List Char} :
    Piece.Spells (cs.map .literal) text ↔ text = cs := by
  constructor
  · intro h
    induction cs generalizing text with
    | nil => exact h
    | cons c cs ih =>
      obtain ⟨first, others, rfl, hc, hcs⟩ := h
      obtain rfl : first = [c] := hc
      rw [ih hcs, List.singleton_append]
  · intro h
    exact h ▸ spells_literal text

theorem spells_segment_iff {text : List Char} :
    Piece.Spells [.segment] text ↔ text ≠ [] ∧ '/' ∉ text := by
  constructor
  · rintro ⟨first, _, rfl, h, rfl⟩
    rwa [List.append_nil]
  · intro h
    exact ⟨text, [], (List.append_nil text).symm, h, rfl⟩

theorem spells_slotPieces {slot : String → Bool} {s : String} {text : List Char} :
    Piece.Spells (slotPieces slot s) text ↔ ∃ part, text = '/' :: part ∧ Fits slot s part := by
  have hpart : ∀ part, Piece.Spells (if slot s then [.segment] else s.toList.map .literal) part ↔
      Fits slot s part := fun part => by
    rw [Fits]
    split
    · exact spells_segment_iff
    · exact spells_literal_iff
  constructor
  · rintro ⟨_, part, rfl, rfl, h⟩
    exact ⟨part, rfl, (hpart part).1 h⟩
  · rintro ⟨part, rfl, h⟩
    exact ⟨['/'], part, rfl, rfl, (hpart part).2 h⟩

/-- The pieces for segments spell a slash and a fitting part for each of them. -/
theorem spells_slots {slot : String → Bool} {segs : List String} {text : List Char} :
    Piece.Spells (segs.flatMap (slotPieces slot)) text ↔
      ∃ parts, text = slashed parts ∧ List.Forall₂ (Fits slot) segs parts := by
  induction segs generalizing text with
  | nil =>
    constructor
    · intro h
      exact ⟨[], h, .nil⟩
    · rintro ⟨parts, rfl, h⟩
      obtain rfl := List.forall₂_nil_left_iff.1 h
      rfl
  | cons s segs ih =>
    rw [List.flatMap_cons, spells_append_iff]
    constructor
    · rintro ⟨_, _, rfl, hs, hsegs⟩
      obtain ⟨part, rfl, hpart⟩ := spells_slotPieces.1 hs
      obtain ⟨parts, rfl, hparts⟩ := ih.1 hsegs
      exact ⟨part :: parts, rfl, .cons hpart hparts⟩
    · rintro ⟨_, rfl, h⟩
      obtain ⟨part, parts, hpart, hparts, rfl⟩ := List.forall₂_cons_left_iff.1 h
      exact ⟨'/' :: part, slashed parts, rfl, spells_slotPieces.2 ⟨part, rfl, hpart⟩,
        ih.2 ⟨parts, rfl, hparts⟩⟩

/-- The text is one of the paths of the template: for a GraphQL path the path itself, for a path
without segments a slash, and else a slash and a part for each segment, which is the segment itself
or, for one that looks like an identifier, any text without a slash. Any number of slashes may
follow. -/
def Covers (path text : String) : Prop :=
  if policy.isGraphql path then
    ∃ slashes, text.toList = Text.trimEndChar '/' (normalize path).toList ++ slashes ∧
      ∀ c ∈ slashes, c = '/'
  else if segments path = [] then text ≠ "" ∧ ∀ c ∈ text.toList, c = '/'
  else
    ∃ parts slashes, text.toList = slashed parts ++ slashes ∧
      List.Forall₂ (Fits policy.isIdentifier) (segments path) parts ∧ ∀ c ∈ slashes, c = '/'

theorem exists_spells_root {text : List Char} :
    (∃ spelled slashes, text = spelled ++ slashes ∧ Piece.Spells [.literal '/'] spelled ∧
      ∀ c ∈ slashes, c = '/') ↔ text ≠ [] ∧ ∀ c ∈ text, c = '/' := by
  constructor
  · rintro ⟨_, slashes, rfl, ⟨_, _, rfl, rfl, rfl⟩, h⟩
    exact ⟨by simp, by simpa using h⟩
  · rintro ⟨hne, h⟩
    obtain ⟨c, cs, rfl⟩ := List.exists_cons_of_ne_nil hne
    obtain ⟨rfl, hcs⟩ := List.forall_mem_cons.1 h
    exact ⟨['/'], cs, rfl, ⟨['/'], [], rfl, rfl, rfl⟩, hcs⟩

/-- The pieces of a path spell, with slashes behind, the paths of its template. -/
theorem exists_spells_iff_covers {path : String} (h : path ≠ "") (text : String) :
    (∃ spelled slashes, text.toList = spelled ++ slashes ∧
      Piece.Spells (allPieces (policy.isSlot path) (segments path)) spelled ∧
        ∀ c ∈ slashes, c = '/') ↔ policy.Covers path text := by
  have hpath : path.toList ≠ [] := by simpa using h
  rw [Covers]
  split
  · next hgraphql =>
    have hne := policy.segments_ne_nil_of_isGraphql hgraphql
    rw [isSlot_of_isGraphql _ hgraphql, allPieces_of_ne_nil hne, ← map_literal_slashed,
      map_toList_segments, Path.normalize, String.toList_ofList, normalizeChars_eq hpath,
      trimEndChar_slashed (fun s => segment_of_mem) fun c => eq_slash_of_mem_finalSlash]
    constructor
    · rintro ⟨spelled, slashes, htext, hspelled, h⟩
      obtain rfl := spells_literal_iff.1 hspelled
      exact ⟨slashes, htext, h⟩
    · rintro ⟨slashes, htext, h⟩
      exact ⟨_, slashes, htext, spells_literal _, h⟩
  · next hgraphql =>
    rw [isSlot_of_not_isGraphql _ hgraphql]
    split
    · next hsegs =>
      have hempty : text ≠ "" ↔ text.toList ≠ [] := by simp
      rw [hsegs, hempty]
      exact exists_spells_root
    · next hsegs =>
      rw [allPieces_of_ne_nil hsegs]
      constructor
      · rintro ⟨_, slashes, htext, hspelled, h⟩
        obtain ⟨parts, rfl, hparts⟩ := spells_slots.1 hspelled
        exact ⟨parts, slashes, htext, hparts, h⟩
      · rintro ⟨parts, slashes, htext, hparts, h⟩
        exact ⟨slashed parts, slashes, htext, spells_slots.2 ⟨parts, rfl, hparts⟩, h⟩

theorem isMatch_template_iff {path : String} (h : path ≠ "") (text : String) :
    isMatch (policy.template path).pattern text ↔
      compiles (policy.template path).pattern ∧ policy.Covers path text := by
  rw [← policy.exists_spells_iff_covers h]
  exact isMatch_pieces _ text

theorem count_segment_allPieces (slot : String → Bool) (segs : List String) :
    (allPieces slot segs).count .segment = segs.countP slot := by
  have hpieces : ∀ segs : List String,
      (segs.flatMap (slotPieces slot)).count .segment = segs.countP slot := fun segs => by
    induction segs with
    | nil => rfl
    | cons s segs ih =>
      rw [List.flatMap_cons, List.count_append, ih, List.countP_cons, slotPieces,
        List.count_cons_of_ne (by simp), Nat.add_comm]
      split
      · rfl
      · rw [List.count_eq_zero_of_not_mem (by simp)]
  cases segs with
  | nil => rfl
  | cons s segs => exact hpieces _

/-- A template with very many placeholders has a pattern that is too large. -/
theorem mul_paramCount_le_of_compiles (h : compiles (policy.template path).pattern) :
    Piece.segment.node.weight * (policy.template path).paramCount ≤ sizeBound := by
  rw [template, ← count_segment_allPieces]
  exact count_segment_le_of_compiles h

theorem paramCount_le_of_compiles (h : compiles (policy.template path).pattern) :
    (policy.template path).paramCount ≤ sizeBound := by
  have hroom := policy.mul_paramCount_le_of_compiles path h
  rw [weight_segment] at hroom
  omega

theorem paramCount_template (path : String) :
    (policy.template path).paramCount =
      if policy.isGraphql path then 0 else (segments path).countP policy.isIdentifier := by
  rw [template]
  split
  · next hgraphql => rw [isSlot_of_isGraphql _ hgraphql, List.countP_false]; rfl
  · next hgraphql => rw [isSlot_of_not_isGraphql _ hgraphql]

/-- **An inferred pattern accepts exactly the paths of its template**, unless it is too large to
compile. Every path but the empty one has a template, with a placeholder for each segment that looks
like an identifier, and with none for a GraphQL path. -/
theorem isMatch_infer_iff_covers {path : String} (h : path ≠ "") :
    ∃ template, policy.infer path = some template ∧
      (∀ text, isMatch template.pattern text ↔
        compiles template.pattern ∧ policy.Covers path text) ∧
      template.paramCount =
        if policy.isGraphql path then 0 else (segments path).countP policy.isIdentifier :=
  ⟨policy.template path, policy.infer_eq h, policy.isMatch_template_iff h,
    policy.paramCount_template path⟩

theorem isMatch_infer_iff_covers_mixed :
    let policy : IdentifierPolicy := {}
    let path := "v1.0//42/a+b/"
    path ≠ "" ∧ compiles "^/v1\\.0/[^/]+/a\\+b(/)*$" ∧
      ∃ template, policy.infer path = some template ∧
        (∀ text, isMatch template.pattern text ↔
          compiles template.pattern ∧ policy.Covers path text) ∧
        template.paramCount =
          if policy.isGraphql path then 0 else (segments path).countP policy.isIdentifier :=
  ⟨by decide, by decide +kernel, isMatch_infer_iff_covers {} (by decide)⟩

/-! ## Paths in their normal spelling -/

/-- Parts that fit segments are segments. -/
theorem segments_of_fits {slot : String → Bool} {segs : List String} {parts : List (List Char)}
    (h : List.Forall₂ (Fits slot) segs parts)
    (hsegs : ∀ s ∈ segs, s.toList ≠ [] ∧ '/' ∉ s.toList) :
    ∀ part ∈ parts, part ≠ [] ∧ '/' ∉ part := by
  induction h with
  | nil => simp
  | @cons s part segs parts hpart _ ih =>
    obtain ⟨hs, hsegs⟩ := List.forall_mem_cons.1 hsegs
    refine List.forall_mem_cons.2 ⟨?_, ih hsegs⟩
    rw [Fits] at hpart
    split at hpart
    · exact hpart
    · exact hpart ▸ hs

theorem toList_normalize {path : String} (h : path ≠ "") :
    (normalize path).toList = slashed ((segments path).map String.toList) ++
      finalSlash path.toList := by
  have hpath : path.toList ≠ [] := by simpa using h
  rw [Path.normalize, String.toList_ofList, normalizeChars_eq hpath, map_toList_segments]

/-- The pattern of a template matches a path in its normal spelling if it is not too large and the
segments of the path fit those of the template one by one. -/
theorem isMatch_normalize_iff {path other : String} (hother : other ≠ "") :
    isMatch (policy.template path).pattern (normalize other) ↔
      compiles (policy.template path).pattern ∧
        List.Forall₂ (fun s t => Fits (policy.isSlot path) s t.toList)
          (segments path) (segments other) := by
  have hslashes : ∀ c ∈ finalSlash other.toList, c = '/' := fun c => eq_slash_of_mem_finalSlash
  have hsegments : ∀ s ∈ (segments other).map String.toList, s ≠ [] ∧ '/' ∉ s := by
    rw [map_toList_segments]
    exact fun s => segment_of_mem
  refine (isMatch_pieces _ _).trans (and_congr_right fun _ => ?_)
  rw [toList_normalize hother, ← List.forall₂_map_right_iff]
  by_cases hnil : segments path = []
  · rw [hnil, allPieces, exists_spells_root, List.forall₂_nil_left_iff]
    constructor
    · rintro ⟨-, h⟩
      rw [← segmentChars_slashed hsegments hslashes, segmentChars_slashes h]
    · intro h
      have hne : (normalize other).toList ≠ [] := by
        simpa using normalize_ne_empty hother
      rw [toList_normalize hother, h] at hne
      rw [h]
      exact ⟨hne, hslashes⟩
  · rw [allPieces_of_ne_nil hnil]
    constructor
    · rintro ⟨_, slashes, htext, hspelled, h⟩
      obtain ⟨parts, rfl, hparts⟩ := spells_slots.1 hspelled
      have hread := segmentChars_slashed hsegments hslashes
      rw [htext, segmentChars_slashed (segments_of_fits hparts fun s => segment_ne) h] at hread
      rwa [← hread]
    · intro h
      exact ⟨_, _, rfl, spells_slots.2 ⟨_, rfl, h⟩, hslashes⟩

end IdentifierPolicy

end TrafficLens
