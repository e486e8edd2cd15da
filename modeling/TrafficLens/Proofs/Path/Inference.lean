import TrafficLens.Path.Template
import TrafficLens.Proofs.Path.Spelling
import TrafficLens.Proofs.Pattern.Notation

/-!
# The pattern of an inferred template

The pattern that is inferred for a path is written for pieces (`pattern_of_infer`): a slash and the
characters of the segment, or a slash and a placeholder, for each segment; a GraphQL path is taken
character by character. The pieces stand for the path itself, so the pattern of a template matches
the path that it was inferred from, unless the pattern is too large (`isMatch_infer`).
-/

namespace TrafficLens

namespace IdentifierPolicy

open TrafficLens.Path TrafficLens.Pattern PathTemplate

variable (policy : IdentifierPolicy)

/-- The pieces for a segment and the slash before it. -/
def segmentPieces (s : String) : List Piece :=
  .literal '/' :: if policy.isIdentifier s then [.segment] else s.toList.map .literal

/-- The pieces that are inferred for a path in its normal spelling. -/
def pieces (path : String) : List Piece :=
  if policy.isGraphql path then (Text.trimEndChar '/' path.toList).map .literal
  else
    match Path.segments path with
    | [] => [.literal '/']
    | segments => segments.flatMap policy.segmentPieces

/-! ## How the pattern is written -/

theorem flatMap_chars_literal (cs : List Char) :
    (cs.map Piece.literal).flatMap Piece.chars = escapeChars cs := by
  induction cs with
  | nil => rfl
  | cons c cs ih => simp [Piece.chars, escapeChars, ih] 

theorem chars_segmentPieces (s : String) : (policy.segmentPieces s).flatMap Piece.chars =
    '/' :: if policy.isIdentifier s then paramPattern.toList else escapeChars s.toList := by
  rw [segmentPieces, List.flatMap_cons]
  split
  · rfl
  · rw [flatMap_chars_literal]
    rfl

theorem assemble_pattern (count : Nat) (segments : List String) :
    (policy.assemble count segments).2.1.toList =
      (segments.flatMap policy.segmentPieces).flatMap Piece.chars := by
  induction segments generalizing count with
  | nil => rfl
  | cons s rest ih =>
    rw [assemble, List.flatMap_cons, List.flatMap_append, chars_segmentPieces]
    split
    · simp [ih]
    · simp [ih, escape]

theorem ofList_patternChars (body : String) {ps : List Piece}
    (h : body.toList = ps.flatMap Piece.chars) :
    "^" ++ body ++ patternEnd = String.ofList (Piece.patternChars ps) := by
  rw [← String.toList_inj]
  simp [Piece.patternChars, patternEnd, h]

/-- **The pattern of an inferred template is written for the pieces of the path.** -/
theorem pattern_of_infer {path : String} {template : PathTemplate}
    (h : policy.infer path = some template) :
    template.pattern =
      String.ofList (Piece.patternChars (policy.pieces (Path.normalize path))) := by
  rw [infer] at h
  split at h
  · cases h
  rw [pieces]
  split at h
  · next hgraphql =>
    obtain rfl := Option.some.inj h
    rw [if_pos hgraphql]
    refine ofList_patternChars _ ?_
    simp [escape, flatMap_chars_literal]
  · next hgraphql =>
    obtain rfl := Option.some.inj h
    rw [if_neg hgraphql, segmentTemplate]
    cases Path.segments (Path.normalize path) with
    | nil =>
      have hroot : "^/" ++ patternEnd = String.ofList (Piece.patternChars [.literal '/']) := by
        decide
      exact hroot
    | cons s rest => exact ofList_patternChars _ (policy.assemble_pattern 0 (s :: rest))

/-! ## The path itself -/

theorem spells_append {ps qs : List Piece} {x y : List Char} (hx : Piece.Spells ps x)
    (hy : Piece.Spells qs y) : Piece.Spells (ps ++ qs) (x ++ y) := by
  induction ps generalizing x with
  | nil =>
    obtain rfl : x = [] := hx
    exact hy
  | cons p ps ih =>
    obtain ⟨first, others, rfl, hp, hps⟩ := hx
    exact ⟨first, others ++ y, List.append_assoc .., hp, ih hps⟩

theorem spells_literal (cs : List Char) : Piece.Spells (cs.map .literal) cs := by
  induction cs with
  | nil => rfl
  | cons c cs ih => exact ⟨[c], cs, rfl, rfl, ih⟩

theorem spells_segmentPieces {s : List Char} (hne : s ≠ []) (hs : '/' ∉ s) :
    Piece.Spells (policy.segmentPieces (String.ofList s)) ('/' :: s) := by
  refine ⟨['/'], s, rfl, rfl, ?_⟩
  split
  · exact ⟨s, [], (List.append_nil s).symm, ⟨hne, hs⟩, rfl⟩
  · rw [String.toList_ofList]
    exact spells_literal s

theorem spells_slashed {segs : List (List Char)} (h : ∀ s ∈ segs, s ≠ [] ∧ '/' ∉ s) :
    Piece.Spells ((segs.map String.ofList).flatMap policy.segmentPieces) (slashed segs) := by
  induction segs with
  | nil => rfl
  | cons s segs ih =>
    obtain ⟨⟨hne, hs⟩, hsegs⟩ := List.forall_mem_cons.1 h
    exact spells_append (policy.spells_segmentPieces hne hs) (ih hsegs)

theorem exists_slashes_trimEndChar (c : Char) (cs : List Char) :
    ∃ slashes, cs = Text.trimEndChar c cs ++ slashes ∧ ∀ d ∈ slashes, d = c := by
  refine ⟨(cs.reverse.takeWhile (· == c)).reverse, ?_, fun d hd => ?_⟩
  · rw [Text.trimEndChar, ← List.reverse_append, List.takeWhile_append_dropWhile,
      List.reverse_reverse]
  · have h := List.mem_takeWhile_imp (p := fun x => x == c) (List.mem_reverse.1 hd)
    exact eq_of_beq h

/-- The pieces of a path stand for the path, without some of the slashes at its end. -/
theorem spells_pieces {path : String} (hpath : Path.normalize path = path) (hne : path ≠ "") :
    ∃ spelled slashes, path.toList = spelled ++ slashes ∧
      Piece.Spells (policy.pieces path) spelled ∧ ∀ c ∈ slashes, c = '/' := by
  have hne : path.toList ≠ [] := by simpa using hne
  have hspelling : path.toList = slashed (segmentChars path.toList) ++ finalSlash path.toList := by
    rw [← normalizeChars_eq hne]
    simpa [Path.normalize] using congrArg String.toList hpath.symm
  rw [pieces]
  split
  · obtain ⟨slashes, hsplit, hall⟩ := exists_slashes_trimEndChar '/' path.toList
    exact ⟨_, slashes, hsplit, spells_literal _, hall⟩
  · split
    · next hs =>
      -- without segments the path is the slash at its end
      have hsegs : segmentChars path.toList = [] := List.map_eq_nil_iff.1 hs
      have hslash : path.toList = ['/'] := by
        rw [hsegs] at hspelling
        unfold finalSlash at hspelling
        split at hspelling
        · exact hspelling
        · exact absurd hspelling hne
      exact ⟨['/'], [], hslash, ⟨['/'], [], rfl, rfl, rfl⟩, by simp⟩
    · next segs hs =>
      refine ⟨_, _, hspelling, ?_, fun c => eq_slash_of_mem_finalSlash⟩
      exact policy.spells_slashed fun s => segment_of_mem

/-- **The pattern of a template matches the path that it was inferred from**, unless the pattern is
too large. -/
theorem isMatch_infer {path : String} {template : PathTemplate}
    (h : policy.infer path = some template) :
    isMatch template.pattern (Path.normalize path) ↔ compiles template.pattern := by
  have hne : Path.normalize path ≠ "" := by
    rintro hempty
    simp [infer, hempty] at h
  rw [policy.pattern_of_infer h, isMatch_pieces]
  exact and_iff_left (policy.spells_pieces (normalize_normalize path) hne)

end IdentifierPolicy

end TrafficLens
