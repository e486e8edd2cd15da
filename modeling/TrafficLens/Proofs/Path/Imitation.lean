import TrafficLens.Proofs.Path.Slots

/-!
# Segments that imitate placeholders

The text of a template does not say which of its segments are placeholders: a client may send a
segment that is spelled like one. A path *imitates* another one if it has such a segment where the
other has a slot. Two templates with one text are the same template exactly if neither of their
paths imitates the other (`infer_agrees_iff_not_imitates`).

The text gives back the segments of the template (`nameSlots_of_spell_eq`), and the pattern gives
back the slots (`agrees_of_flatMap_eq`), so that the two can only disagree where a segment of one
path is named as a slot of the other.
-/

namespace TrafficLens

namespace IdentifierPolicy

open TrafficLens.Path TrafficLens.Pattern PathTemplate

variable (policy : IdentifierPolicy)

/-- A segment of the first path that is kept is spelled as the placeholder which the second path has
in its place. -/
def Imitates (path other : String) : Prop :=
  ∃ i s s', (segments path)[i]? = some s ∧ policy.isSlot path s = false ∧
    (segments other)[i]? = some s' ∧ policy.isSlot other s' = true ∧
      s = placeholder (((segments other).take (i + 1)).countP (policy.isSlot other))

/-! ## The text of a template -/

theorem segment_placeholder (n : Nat) :
    (placeholder n).toList ≠ [] ∧ '/' ∉ (placeholder n).toList := by
  have hdigits : '/' ∉ Nat.toDigits 10 n := fun h =>
    absurd (Nat.isDigit_of_mem_toDigits (by decide) (by decide) h) (by decide)
  constructor
  · simp [placeholder]
  · simp [placeholder, hdigits]

theorem segment_nameSlots (slot : String → Bool) (count : Nat) {segs : List String}
    (h : ∀ s ∈ segs, s.toList ≠ [] ∧ '/' ∉ s.toList) :
    ∀ s ∈ nameSlots slot count segs, s.toList ≠ [] ∧ '/' ∉ s.toList := by
  induction segs generalizing count with
  | nil => simp [nameSlots]
  | cons s segs ih =>
    obtain ⟨hs, hsegs⟩ := List.forall_mem_cons.1 h
    rw [nameSlots]
    split
    · exact List.forall_mem_cons.2 ⟨segment_placeholder _, ih _ hsegs⟩
    · exact List.forall_mem_cons.2 ⟨hs, ih _ hsegs⟩

/-- The segments of a template are read back from its text. -/
theorem segments_spell {segs : List String} (h : ∀ s ∈ segs, s.toList ≠ [] ∧ '/' ∉ s.toList) :
    segments (spell segs) = segs := by
  by_cases hnil : segs = []
  · rw [hnil]
    decide
  · have hsegs : ∀ s ∈ segs.map String.toList, s ≠ [] ∧ '/' ∉ s := by simpa using h
    rw [spell_of_ne_nil hnil, segments, String.toList_ofList, segmentChars_slashed_nil hsegs,
      List.map_map]
    exact (List.map_congr_left fun s _ => String.ofList_toList).trans (List.map_id segs)

theorem nameSlots_of_spell_eq {slot slot' : String → Bool} {segs segs' : List String}
    (hsegs : ∀ s ∈ segs, s.toList ≠ [] ∧ '/' ∉ s.toList)
    (hsegs' : ∀ s ∈ segs', s.toList ≠ [] ∧ '/' ∉ s.toList)
    (h : spell (nameSlots slot 0 segs) = spell (nameSlots slot' 0 segs')) :
    nameSlots slot 0 segs = nameSlots slot' 0 segs' := by
  have hread := segments_spell (segment_nameSlots slot 0 hsegs)
  rwa [h, segments_spell (segment_nameSlots slot' 0 hsegs'), eq_comm] at hread

/-- Which segment the template has in a place. -/
theorem getElem?_nameSlots (slot : String → Bool) (count : Nat) (segs : List String) (i : Nat) :
    (nameSlots slot count segs)[i]? = segs[i]?.map fun s =>
      if slot s then placeholder (count + (segs.take (i + 1)).countP slot) else s := by
  induction segs generalizing count i with
  | nil => rfl
  | cons s segs ih =>
    rw [nameSlots]
    cases i with
    | zero =>
      cases hs : slot s <;> simp [hs]
    | succ i =>
      cases hs : slot s with
      | false => simp [ih, hs]
      | true => simp [ih, hs, Nat.add_assoc, Nat.add_comm 1]

/-! ## Agreement and imitation -/

/-- Where the templates have one text, their paths agree unless one of them imitates the other. -/
theorem agrees_iff_not_imitates {path other : String}
    (h : nameSlots (policy.isSlot path) 0 (segments path) =
      nameSlots (policy.isSlot other) 0 (segments other)) :
    Agrees (policy.isSlot path) (policy.isSlot other) (segments path) (segments other) ↔
      ¬ policy.Imitates path other ∧ ¬ policy.Imitates other path := by
  constructor
  · intro hagrees
    have hnot : ∀ {path other : String},
        Agrees (policy.isSlot path) (policy.isSlot other) (segments path) (segments other) →
          ¬ policy.Imitates path other := by
      rintro path other hagrees ⟨i, s, s', hs, hkept, hs', hslot, -⟩
      obtain ⟨hi, rfl⟩ := List.getElem?_eq_some_iff.1 hs
      obtain ⟨hi', rfl⟩ := List.getElem?_eq_some_iff.1 hs'
      have hsame := (hagrees.get hi hi').1
      rw [List.get_eq_getElem, List.get_eq_getElem, hkept, hslot] at hsame
      cases hsame
    exact ⟨hnot hagrees, hnot hagrees.symm⟩
  · rintro ⟨hpath, hother⟩
    have hlength := congrArg List.length h
    rw [length_nameSlots, length_nameSlots] at hlength
    refine List.forall₂_iff_get.2 ⟨hlength, fun i hi hi' => ?_⟩
    rw [List.get_eq_getElem, List.get_eq_getElem]
    have hs := List.getElem?_eq_getElem hi
    have hs' := List.getElem?_eq_getElem hi'
    have hname := congrArg (·[i]?) h
    simp only [getElem?_nameSlots, hs, hs', Option.map_some, Option.some.injEq, Nat.zero_add]
      at hname
    cases hslot : policy.isSlot path (segments path)[i] with
    | true =>
      cases hslot' : policy.isSlot other (segments other)[i] with
      | true => exact ⟨rfl, nofun⟩
      | false =>
        rw [hslot, hslot', if_pos rfl, if_neg Bool.false_ne_true] at hname
        exact absurd ⟨i, _, _, hs', hslot', hs, hslot, hname.symm⟩ hother
    | false =>
      cases hslot' : policy.isSlot other (segments other)[i] with
      | true =>
        rw [hslot, hslot', if_pos rfl, if_neg Bool.false_ne_true] at hname
        exact absurd ⟨i, _, _, hs, hslot, hs', hslot', hname⟩ hpath
      | false =>
        rw [hslot, hslot', if_neg Bool.false_ne_true, if_neg Bool.false_ne_true] at hname
        exact ⟨rfl, fun _ => hname⟩

/-! ## Agreement and the pattern -/

/-- A path that agrees with a GraphQL path has its segments. -/
theorem isGraphql_of_agrees {path other : String} (hgraphql : policy.isGraphql path = true)
    (h : Agrees (policy.isSlot path) (policy.isSlot other) (segments path) (segments other)) :
    policy.isGraphql other = true := by
  have hsegs : segments path = segments other := by
    rw [← List.forall₂_eq_eq_eq]
    refine h.imp fun s s' ⟨_, hkept⟩ => hkept ?_
    rw [isSlot_of_isGraphql policy hgraphql]
  rwa [isGraphql, ← hsegs]

/-- A kept segment ends where the pieces go on with a slash. -/
theorem literal_append_inj {cs cs' : List Char} {ps ps' : List Piece} (hcs : '/' ∉ cs)
    (hcs' : '/' ∉ cs') (hps : ∀ p ∈ ps.head?, p = .literal '/')
    (hps' : ∀ p ∈ ps'.head?, p = .literal '/')
    (h : cs.map Piece.literal ++ ps = cs'.map Piece.literal ++ ps') : cs = cs' ∧ ps = ps' := by
  induction cs generalizing cs' with
  | nil =>
    cases cs' with
    | nil => exact ⟨rfl, h⟩
    | cons c cs' =>
      obtain rfl : ps = .literal c :: (cs'.map Piece.literal ++ ps') := h
      cases hps _ rfl
      exact absurd List.mem_cons_self hcs'
  | cons c cs ih =>
    cases cs' with
    | nil =>
      obtain rfl : .literal c :: (cs.map Piece.literal ++ ps) = ps' := h
      cases hps' _ rfl
      exact absurd List.mem_cons_self hcs
    | cons c' cs' =>
      obtain ⟨hc, htail⟩ := List.cons.inj h
      obtain ⟨rfl, rfl⟩ :=
        ih (mt (List.mem_cons_of_mem c) hcs) (mt (List.mem_cons_of_mem c') hcs') htail
      exact ⟨congrArg (· :: cs) (Piece.literal.inj hc), rfl⟩

theorem head?_slots (slot : String → Bool) (segs : List String) :
    ∀ p ∈ (segs.flatMap (slotPieces slot)).head?, p = .literal '/' := by
  cases segs with
  | nil => nofun
  | cons s segs =>
    intro p hp
    exact (Option.some.inj hp).symm

/-- The pieces tell which segments are slots, and give back the others. -/
theorem agrees_of_flatMap_eq {slot slot' : String → Bool} {segs segs' : List String}
    (hsegs : ∀ s ∈ segs, s.toList ≠ [] ∧ '/' ∉ s.toList)
    (hsegs' : ∀ s ∈ segs', s.toList ≠ [] ∧ '/' ∉ s.toList)
    (h : segs.flatMap (slotPieces slot) = segs'.flatMap (slotPieces slot')) :
    Agrees slot slot' segs segs' := by
  have hhead : ∀ {s : String} {ps ps' : List Piece}, s.toList ≠ [] →
      s.toList.map Piece.literal ++ ps ≠ .segment :: ps' := by
    intro s ps ps' hne heq
    obtain ⟨c, cs, hs⟩ := List.exists_cons_of_ne_nil hne
    rw [hs] at heq
    cases heq
  induction segs generalizing segs' with
  | nil =>
    cases segs' with
    | nil => exact .nil
    | cons s' segs' => cases h
  | cons s segs ih =>
    cases segs' with
    | nil => cases h
    | cons s' segs' =>
      obtain ⟨⟨hne, hs⟩, hsegs⟩ := List.forall_mem_cons.1 hsegs
      obtain ⟨⟨hne', hs'⟩, hsegs'⟩ := List.forall_mem_cons.1 hsegs'
      have htail := (List.cons.inj h).2
      cases hslot : slot s <;> cases hslot' : slot' s' <;>
        simp only [hslot, hslot', if_true, if_false, Bool.false_eq_true] at htail
      case false.false =>
        obtain ⟨hsame, hrest⟩ :=
          literal_append_inj hs hs' (head?_slots slot segs) (head?_slots slot' segs') htail
        exact .cons ⟨hslot.trans hslot'.symm, fun _ => String.toList_inj.1 hsame⟩
          (ih hsegs hsegs' hrest)
      case false.true => exact absurd htail (hhead hne)
      case true.false => exact absurd htail.symm (hhead hne')
      case true.true =>
        exact .cons ⟨hslot.trans hslot'.symm, fun hkept => absurd (hslot.symm.trans hkept) nofun⟩
          (ih hsegs hsegs' (List.cons.inj htail).2)

theorem agrees_of_allPieces_eq {slot slot' : String → Bool} {segs segs' : List String}
    (hsegs : ∀ s ∈ segs, s.toList ≠ [] ∧ '/' ∉ s.toList)
    (hsegs' : ∀ s ∈ segs', s.toList ≠ [] ∧ '/' ∉ s.toList) (hlength : segs.length = segs'.length)
    (h : allPieces slot segs = allPieces slot' segs') : Agrees slot slot' segs segs' := by
  by_cases hnil : segs = []
  · obtain rfl := hnil
    obtain rfl := List.length_eq_zero_iff.1 hlength.symm
    exact .nil
  · have hnil' : segs' ≠ [] := by
      rintro rfl
      exact hnil (List.length_eq_zero_iff.1 hlength)
    rw [allPieces_of_ne_nil hnil, allPieces_of_ne_nil hnil'] at h
    exact agrees_of_flatMap_eq hsegs hsegs' h

/-! ## Templates with one text -/

/-- **Templates with one text are one template exactly if neither path imitates the other.** -/
theorem infer_agrees_iff_not_imitates {path other : String} {t u : PathTemplate}
    (hpath : policy.infer path = some t) (hother : policy.infer other = some u)
    (htext : t.path = u.path) :
    (t.pattern = u.pattern ∧ t.paramCount = u.paramCount ∧ t.isGraphql = u.isGraphql) ↔
      ¬ policy.Imitates path other ∧ ¬ policy.Imitates other path := by
  obtain ⟨-, rfl⟩ := policy.infer_eq_some_iff.1 hpath
  obtain ⟨-, rfl⟩ := policy.infer_eq_some_iff.1 hother
  have hnames : nameSlots (policy.isSlot path) 0 (segments path) =
      nameSlots (policy.isSlot other) 0 (segments other) :=
    nameSlots_of_spell_eq (fun s => segment_ne) (fun s => segment_ne) htext
  have hlength := congrArg List.length hnames
  rw [length_nameSlots, length_nameSlots] at hlength
  rw [← policy.agrees_iff_not_imitates hnames]
  constructor
  · rintro ⟨hpattern, -, -⟩
    exact agrees_of_allPieces_eq (fun s => segment_ne) (fun s => segment_ne) hlength
      (patternChars_injective (String.ofList_inj.1 hpattern))
  · intro hagrees
    refine ⟨?_, countP_of_agrees hagrees, ?_⟩
    · rw [template, template, allPieces_of_agrees hagrees]
    · rw [Bool.eq_iff_iff]
      exact ⟨fun h => policy.isGraphql_of_agrees h hagrees,
        fun h => policy.isGraphql_of_agrees h hagrees.symm⟩

theorem infer_agrees_iff_not_imitates_braces :
    let policy : IdentifierPolicy := {}
    let t : PathTemplate :=
      ⟨"/users/\x7bparam1\x7d", "^/users/\\\x7bparam1\\\x7d(/)*$", 0, false⟩
    let u : PathTemplate := ⟨"/users/\x7bparam1\x7d", "^/users/[^/]+(/)*$", 1, false⟩
    policy.infer "/users/\x7bparam1\x7d" = some t ∧ policy.infer "/users/123" = some u ∧
      t.path = u.path ∧
        ((t.pattern = u.pattern ∧ t.paramCount = u.paramCount ∧ t.isGraphql = u.isGraphql) ↔
          ¬ policy.Imitates "/users/\x7bparam1\x7d" "/users/123" ∧
            ¬ policy.Imitates "/users/123" "/users/\x7bparam1\x7d") :=
  have hpath := by decide +kernel
  have hother := by decide +kernel
  ⟨hpath, hother, rfl, infer_agrees_iff_not_imitates {} hpath hother rfl⟩

end IdentifierPolicy

end TrafficLens
