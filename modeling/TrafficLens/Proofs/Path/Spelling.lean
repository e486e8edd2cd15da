import TrafficLens.Path.Basic

/-!
# The normal spelling of paths

The normal spelling of a path is its segments, each behind a slash, and one more slash at the end
if the path ends in one (`normalizeChars_eq`). Spelling it once more changes nothing
(`normalize_normalize`), and its segments are those of the path (`segments_normalize`), because
segments that are written behind slashes are read back as they are (`segmentChars_slashed`).
-/

namespace TrafficLens.Path

/-- Segments, each behind a slash. -/
def slashed (segs : List (List Char)) : List Char := segs.flatMap ('/' :: ·)

/-- The slash at the end of a path that ends in one. -/
def finalSlash (cs : List Char) : List Char := if cs.getLast? = some '/' then ['/'] else []

@[simp] theorem slashed_cons (s : List Char) (segs : List (List Char)) :
    slashed (s :: segs) = '/' :: (s ++ slashed segs) := rfl

theorem eq_slash_of_mem_finalSlash {c : Char} {cs : List Char} (h : c ∈ finalSlash cs) :
    c = '/' := by
  unfold finalSlash at h
  split at h
  · exact List.mem_singleton.1 h
  · simp at h

/-! ## Segments -/

theorem pieces_cons_of_ne {sep c : Char} (h : c ≠ sep) (cs : List Char) :
    ∃ p ps, Text.pieces sep cs = p :: ps ∧ Text.pieces sep (c :: cs) = (c :: p) :: ps := by
  cases hp : Text.pieces sep cs with
  | nil =>
    exfalso
    cases cs with
    | nil => simp [Text.pieces] at hp
    | cons d ds =>
      rw [Text.pieces] at hp
      split at hp
      · cases hp
      · split at hp <;> cases hp
  | cons p ps => exact ⟨p, ps, rfl, by simp [Text.pieces, h, hp]⟩

theorem not_mem_of_mem_pieces {sep : Char} {cs p : List Char} (h : p ∈ Text.pieces sep cs) :
    sep ∉ p := by
  induction cs generalizing p with
  | nil =>
    obtain rfl := List.mem_singleton.1 h
    simp
  | cons c cs ih =>
    by_cases hc : c = sep
    · rw [Text.pieces, if_pos hc] at h
      rcases List.mem_cons.1 h with rfl | h
      · simp
      · exact ih h
    · obtain ⟨q, qs, hq, hcons⟩ := pieces_cons_of_ne hc cs
      rw [hcons] at h
      rcases List.mem_cons.1 h with rfl | h
      · have hsep := ih (p := q) (by simp [hq])
        simp [hsep, Ne.symm hc]
      · exact ih (by simp [hq, h])

/-- A segment is not empty and holds no slash. -/
theorem segment_of_mem {s cs : List Char} (h : s ∈ segmentChars cs) : s ≠ [] ∧ '/' ∉ s := by
  obtain ⟨hs, hne⟩ := List.mem_filter.1 h
  exact ⟨by simpa using hne, not_mem_of_mem_pieces hs⟩

theorem segmentChars_slash (cs : List Char) : segmentChars ('/' :: cs) = segmentChars cs := by
  simp [segmentChars, Text.pieces]

/-! ## The normal spelling -/

/-- Squeezing twice changes nothing. -/
theorem squeeze_squeeze (afterSlash : Bool) (cs : List Char) :
    squeeze afterSlash (squeeze afterSlash cs) = squeeze afterSlash cs := by
  induction cs generalizing afterSlash with
  | nil => rfl
  | cons c cs ih =>
    by_cases hc : c = '/'
    · subst hc
      cases afterSlash <;> simp [squeeze, ih]
    · simp [squeeze, hc, ih]

theorem normalizeChars_eq_cons {cs : List Char} (h : cs ≠ []) :
    normalizeChars cs = '/' :: squeeze true cs := by
  cases cs with
  | nil => exact absurd rfl h
  | cons c cs => by_cases hc : c = '/' <;> simp [normalizeChars, squeeze, hc]

theorem normalizeChars_normalizeChars (cs : List Char) :
    normalizeChars (normalizeChars cs) = normalizeChars cs := by
  by_cases h : cs = []
  · rw [h]
    rfl
  · rw [normalizeChars_eq_cons h, normalizeChars_eq_cons (by simp), squeeze, if_pos rfl,
      if_pos rfl, squeeze_squeeze]

/-- The normal spelling of a path is its own. -/
@[simp] theorem normalize_normalize (path : String) :
    normalize (normalize path) = normalize path := by
  simp [normalize, normalizeChars_normalizeChars]

theorem finalSlash_cons (c : Char) {cs : List Char} (h : cs ≠ []) :
    finalSlash (c :: cs) = finalSlash cs := by
  obtain ⟨d, ds, rfl⟩ := List.exists_cons_of_ne_nil h
  simp [finalSlash]

theorem finalSlash_cons_of_ne {c : Char} (hc : c ≠ '/') (cs : List Char) :
    finalSlash (c :: cs) = finalSlash cs := by
  by_cases h : cs = []
  · simp [finalSlash, h, hc]
  · exact finalSlash_cons c h

/-- What a squeezed text is, behind a slash and in the middle of a segment. -/
theorem squeeze_eq (cs : List Char) :
    ('/' :: squeeze true cs = slashed (segmentChars cs) ++ finalSlash ('/' :: cs)) ∧
      ∀ p ps, Text.pieces '/' cs = p :: ps →
        squeeze false cs = p ++ (slashed (ps.filter fun q => !q.isEmpty) ++ finalSlash cs) := by
  induction cs with
  | nil =>
    constructor
    · rfl
    · rintro p ps h
      obtain ⟨rfl, rfl⟩ := List.cons.inj h
      rfl
  | cons c cs ih =>
    obtain ⟨ihslash, ihsegment⟩ := ih
    by_cases hc : c = '/'
    · subst hc
      constructor
      · have hne : '/' :: cs ≠ [] := by simp
        rw [squeeze, if_pos rfl, if_pos rfl, ihslash, segmentChars_slash, finalSlash_cons '/' hne]
      · intro p ps h
        rw [Text.pieces, if_pos rfl] at h
        obtain ⟨rfl, rfl⟩ := List.cons.inj h
        rw [squeeze, if_pos rfl, if_neg (by simp), ihslash]
        rfl
    · obtain ⟨q, qs, hq, hcons⟩ := pieces_cons_of_ne hc cs
      have hstep : ∀ b, squeeze b (c :: cs) =
          c :: (q ++ (slashed (qs.filter fun q => !q.isEmpty) ++ finalSlash cs)) := fun b => by
        rw [squeeze, if_neg hc, ihsegment q qs hq]
      constructor
      · have hsegs : segmentChars (c :: cs) = (c :: q) :: qs.filter fun q => !q.isEmpty := by
          rw [segmentChars, hcons]
          rfl
        rw [hstep, hsegs, finalSlash_cons '/' (by simp), finalSlash_cons_of_ne hc]
        simp
      · intro p ps h
        obtain ⟨rfl, rfl⟩ := List.cons.inj (hcons.symm.trans h)
        rw [hstep, finalSlash_cons_of_ne hc]
        rfl

/-- **The normal spelling of a path** is its segments, each behind a slash, and a slash at the end
if the path ends in one. -/
theorem normalizeChars_eq {cs : List Char} (h : cs ≠ []) :
    normalizeChars cs = slashed (segmentChars cs) ++ finalSlash cs := by
  rw [normalizeChars_eq_cons h, (squeeze_eq cs).1, finalSlash_cons '/' h]

/-! ## Segments that are read back -/

theorem pieces_of_notMem {sep : Char} {p : List Char} (h : sep ∉ p) :
    Text.pieces sep p = [p] := by
  induction p with
  | nil => rfl
  | cons c p ih =>
    obtain ⟨hc, hp⟩ := not_or.1 (mt List.mem_cons.2 h)
    rw [Text.pieces, if_neg (Ne.symm hc), ih hp]

theorem pieces_append {sep : Char} {p : List Char} (h : sep ∉ p) (cs : List Char) :
    Text.pieces sep (p ++ sep :: cs) = p :: Text.pieces sep cs := by
  induction p with
  | nil => rw [List.nil_append, Text.pieces, if_pos rfl]
  | cons c p ih =>
    obtain ⟨hc, hp⟩ := not_or.1 (mt List.mem_cons.2 h)
    rw [List.cons_append, Text.pieces, if_neg (Ne.symm hc), ih hp]

/-- The text is empty or begins with a slash. -/
def Slashy (cs : List Char) : Prop := cs = [] ∨ ∃ rest, cs = '/' :: rest

theorem slashy_of_slashes {slashes : List Char} (h : ∀ c ∈ slashes, c = '/') :
    Slashy slashes := by
  cases slashes with
  | nil => exact .inl rfl
  | cons c cs =>
    obtain rfl := h c List.mem_cons_self
    exact .inr ⟨cs, rfl⟩

theorem slashy_slashed (segs : List (List Char)) {tail : List Char} (h : Slashy tail) :
    Slashy (slashed segs ++ tail) := by
  cases segs with
  | nil => exact h
  | cons s segs => exact .inr ⟨_, rfl⟩

/-- A segment ends at the next slash or at the end of the text. -/
theorem segmentChars_append {s tail : List Char} (hne : s ≠ []) (hs : '/' ∉ s)
    (htail : Slashy tail) : segmentChars (s ++ tail) = s :: segmentChars tail := by
  have hkeep : (fun p : List Char => !p.isEmpty) s = true := by simpa using hne
  rcases htail with rfl | ⟨rest, rfl⟩
  · rw [List.append_nil, segmentChars, pieces_of_notMem hs]
    exact List.filter_cons_of_pos hkeep
  · rw [segmentChars_slash, segmentChars, pieces_append hs]
    exact List.filter_cons_of_pos hkeep

theorem segmentChars_slashes {slashes : List Char} (h : ∀ c ∈ slashes, c = '/') :
    segmentChars slashes = [] := by
  induction slashes with
  | nil => rfl
  | cons c cs ih =>
    obtain ⟨rfl, hcs⟩ := List.forall_mem_cons.1 h
    rw [segmentChars_slash, ih hcs]

/-- **Segments behind slashes are read back as they are**, whatever slashes come behind them. -/
theorem segmentChars_slashed {segs : List (List Char)} (h : ∀ s ∈ segs, s ≠ [] ∧ '/' ∉ s)
    {slashes : List Char} (hslashes : ∀ c ∈ slashes, c = '/') :
    segmentChars (slashed segs ++ slashes) = segs := by
  induction segs with
  | nil => exact segmentChars_slashes hslashes
  | cons s segs ih =>
    obtain ⟨⟨hne, hs⟩, hsegs⟩ := List.forall_mem_cons.1 h
    have htail := slashy_slashed segs (slashy_of_slashes hslashes)
    rw [slashed_cons, List.cons_append, List.append_assoc, segmentChars_slash,
      segmentChars_append hne hs htail, ih hsegs]

theorem segmentChars_slashed_nil {segs : List (List Char)} (h : ∀ s ∈ segs, s ≠ [] ∧ '/' ∉ s) :
    segmentChars (slashed segs) = segs := by
  rw [← List.append_nil (slashed segs)]
  exact segmentChars_slashed h nofun

theorem segmentChars_normalizeChars (cs : List Char) :
    segmentChars (normalizeChars cs) = segmentChars cs := by
  by_cases h : cs = []
  · rw [h]
    rfl
  · rw [normalizeChars_eq h]
    exact segmentChars_slashed (fun s => segment_of_mem) fun c => eq_slash_of_mem_finalSlash

/-- The normal spelling keeps the segments. -/
@[simp] theorem segments_normalize (path : String) : segments (normalize path) = segments path := by
  rw [segments, segments, normalize, String.toList_ofList, segmentChars_normalizeChars]

theorem getLast?_slashed {segs : List (List Char)} (h : ∀ s ∈ segs, s ≠ [] ∧ '/' ∉ s) :
    (slashed segs).getLast? ≠ some '/' := by
  induction segs with
  | nil => simp [slashed]
  | cons s segs ih =>
    obtain ⟨⟨hne, hs⟩, hsegs⟩ := List.forall_mem_cons.1 h
    rw [slashed_cons, ← List.cons_append, List.getLast?_append]
    cases hlast : (slashed segs).getLast? with
    | some c => simpa [hlast] using ih hsegs
    | none =>
      intro hslash
      rw [Option.none_or, List.getLast?_cons_of_ne_nil hne] at hslash
      exact hs (List.mem_of_getLast? hslash)

/-- Without the slashes at its end, the spelling is its segments. -/
theorem trimEndChar_slashed {segs : List (List Char)} (h : ∀ s ∈ segs, s ≠ [] ∧ '/' ∉ s)
    {slashes : List Char} (hslashes : ∀ c ∈ slashes, c = '/') :
    Text.trimEndChar '/' (slashed segs ++ slashes) = slashed segs := by
  have hdrop : ∀ c ∈ slashes.reverse, (c == '/') = true := fun c hc =>
    beq_iff_eq.2 (hslashes c (List.mem_reverse.1 hc))
  have hstop : (slashed segs).reverse.dropWhile (· == '/') = (slashed segs).reverse := by
    have hlast := getLast?_slashed h
    rw [← List.head?_reverse] at hlast
    cases hrev : (slashed segs).reverse with
    | nil => rfl
    | cons c cs =>
      rw [hrev, List.head?_cons, ne_eq, Option.some.injEq] at hlast
      rw [List.dropWhile_cons_of_neg (by simpa using hlast)]
  rw [Text.trimEndChar, List.reverse_append, List.dropWhile_append_of_pos hdrop, hstop,
    List.reverse_reverse]

end TrafficLens.Path
