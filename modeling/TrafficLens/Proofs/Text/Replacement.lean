import TrafficLens.Proofs.Path.Spelling

/-!
# Replacing a part of a text

`replaceAll` puts a new text in the place of every occurrence of a part, from the left to the right.
A text is either empty, or it begins with the part, or its first character stays
(`replaceAll_induction`); what is proved about replacements goes along these cases. Where the part
does not begin nothing changes (`replaceAll_append_of_notMem`), and if neither the part nor the new
text has a separator then the pieces between separators are replaced one by one
(`pieces_replaceAll`).
-/

namespace TrafficLens.Text

/-! ## The start of a text -/

theorem dropStart?_append (start rest : List Char) :
    dropStart? start (start ++ rest) = some rest := by
  induction start with
  | nil => rfl
  | cons c start ih => rwa [List.cons_append, dropStart?, if_pos rfl]

theorem eq_append_of_dropStart? {start cs rest : List Char} (h : dropStart? start cs = some rest) :
    cs = start ++ rest := by
  induction start generalizing cs with
  | nil => exact Option.some.inj h
  | cons p start ih =>
    cases cs with
    | nil => cases h
    | cons c cs =>
      rw [dropStart?] at h
      split at h
      · next hp => rw [hp, List.cons_append, ih h]
      · cases h

/-! ## Replacements -/

/-- Replace every occurrence of a part. So many characters belong to an occurrence that is replaced
already. -/
def replaceFrom (part new : List Char) : (skip : Nat) → List Char → List Char
  | _, [] => []
  | skip + 1, _ :: cs => replaceFrom part new skip cs
  | 0, c :: cs =>
    if (dropStart? part (c :: cs)).isSome then new ++ replaceFrom part new (part.length - 1) cs
    else c :: replaceFrom part new 0 cs

/-- Replace every occurrence of a part. -/
def replaceAll (part new cs : List Char) : List Char := replaceFrom part new 0 cs

variable {part new : List Char}

theorem replaceFrom_append (skipped cs : List Char) :
    replaceFrom part new skipped.length (skipped ++ cs) = replaceAll part new cs := by
  induction skipped with
  | nil => rfl
  | cons c skipped ih => exact ih

@[simp] theorem replaceAll_nil : replaceAll part new [] = [] := rfl

theorem replaceAll_part_append (h : part ≠ []) (cs : List Char) :
    replaceAll part new (part ++ cs) = new ++ replaceAll part new cs := by
  obtain ⟨c, more, rfl⟩ := List.exists_cons_of_ne_nil h
  have hstart : (dropStart? (c :: more) (c :: (more ++ cs))).isSome := by
    rw [← List.cons_append, dropStart?_append]
    rfl
  rw [List.cons_append, replaceAll, replaceFrom, if_pos hstart]
  exact congrArg (new ++ ·) (replaceFrom_append more cs)

theorem replaceAll_cons {c : Char} {cs : List Char} (h : ¬ part <+: c :: cs) :
    replaceAll part new (c :: cs) = c :: replaceAll part new cs := by
  have hstart : ¬ (dropStart? part (c :: cs)).isSome := by
    rintro hsome
    obtain ⟨rest, hrest⟩ := Option.isSome_iff_exists.1 hsome
    exact h ⟨rest, (eq_append_of_dropStart? hrest).symm⟩
  rw [replaceAll, replaceFrom, if_neg hstart]
  rfl

/-- The cases of a replacement: the end, an occurrence of the part, or a character that stays. -/
theorem replaceAll_induction {motive : List Char → Prop} (hpart : part ≠ []) (nil : motive [])
    (occurrence : ∀ cs, motive cs → motive (part ++ cs))
    (char : ∀ c cs, ¬ part <+: c :: cs → motive cs → motive (c :: cs)) (cs : List Char) :
    motive cs := by
  induction hn : cs.length using Nat.strongRecOn generalizing cs with
  | ind n ih =>
    cases cs with
    | nil => exact nil
    | cons c cs =>
      by_cases hprefix : part <+: c :: cs
      · obtain ⟨rest, hrest⟩ := hprefix
        have hshort : rest.length < n := by
          have hlength := congrArg List.length hrest
          rw [List.length_append] at hlength
          have hpos := List.length_pos_iff.2 hpart
          omega
        exact hrest ▸ occurrence rest (ih _ hshort rest rfl)
      · exact char c cs hprefix (ih _ (hn ▸ Nat.lt_succ_self _) cs rfl)

/-- Before the first character of the part nothing changes. -/
theorem replaceAll_append_of_notMem {q : Char} {more stay : List Char} (h : q ∉ stay)
    (cs : List Char) :
    replaceAll (q :: more) new (stay ++ cs) = stay ++ replaceAll (q :: more) new cs := by
  induction stay with
  | nil => rfl
  | cons c stay ih =>
    obtain ⟨hc, hstay⟩ := not_or.1 (mt List.mem_cons.2 h)
    have hprefix : ¬ q :: more <+: c :: (stay ++ cs) := fun hp => hc (List.cons_prefix_cons.1 hp).1
    rw [List.cons_append, replaceAll_cons hprefix, ih hstay, List.cons_append]

theorem replaceAll_of_notMem {q : Char} {more stay : List Char} (h : q ∉ stay) :
    replaceAll (q :: more) new stay = stay := by
  have happend : replaceAll (q :: more) new (stay ++ []) = stay ++ replaceAll (q :: more) new [] :=
    replaceAll_append_of_notMem h []
  rwa [List.append_nil, replaceAll_nil, List.append_nil] at happend

/-- A character that is in both texts or in neither is not lost and not brought in. -/
theorem mem_replaceAll {c : Char} (hpart : part ≠ []) (hc : c ∈ part ↔ c ∈ new) (cs : List Char) :
    c ∈ replaceAll part new cs ↔ c ∈ cs := by
  induction cs using replaceAll_induction hpart with
  | nil => rfl
  | occurrence cs ih =>
    rw [replaceAll_part_append hpart, List.mem_append, List.mem_append, ih, hc]
  | char d cs hprefix ih => rw [replaceAll_cons hprefix, List.mem_cons, List.mem_cons, ih]

/-! ## Pieces -/

/-- A text without separators in front becomes a part of the first piece, which is the start of
the text. -/
theorem pieces_append_of_notMem {sep : Char} {front : List Char} (h : sep ∉ front)
    (cs : List Char) :
    ∃ p ps, pieces sep cs = p :: ps ∧ p <+: cs ∧ pieces sep (front ++ cs) = (front ++ p) :: ps := by
  induction front with
  | nil =>
    induction cs with
    | nil => exact ⟨[], [], rfl, List.prefix_rfl, rfl⟩
    | cons c cs ih =>
      by_cases hc : c = sep
      · rw [List.nil_append, pieces, if_pos hc]
        exact ⟨[], pieces sep cs, rfl, List.nil_prefix, rfl⟩
      · obtain ⟨p, ps, hp, hcons⟩ := Path.pieces_cons_of_ne hc cs
        obtain ⟨p', ps', hp', hprefix, -⟩ := ih
        obtain ⟨rfl, rfl⟩ := List.cons.inj (hp.symm.trans hp')
        exact ⟨c :: p, ps, hcons, List.cons_prefix_cons.2 ⟨rfl, hprefix⟩, hcons⟩
  | cons c front ih =>
    obtain ⟨hc, hfront⟩ := not_or.1 (mt List.mem_cons.2 h)
    obtain ⟨p, ps, hp, hprefix, happend⟩ := ih hfront
    obtain ⟨p', ps', hp', hcons⟩ := Path.pieces_cons_of_ne (Ne.symm hc) (front ++ cs)
    obtain ⟨rfl, rfl⟩ := List.cons.inj (happend.symm.trans hp')
    exact ⟨p, ps, hp, hprefix, hcons⟩

/-- **Pieces are replaced one by one**, if there is no separator in what is replaced and in what
takes its place. -/
theorem pieces_replaceAll {sep : Char} (hpart : part ≠ []) (hsep : sep ∉ part) (hnew : sep ∉ new)
    (cs : List Char) :
    pieces sep (replaceAll part new cs) = (pieces sep cs).map (replaceAll part new) := by
  induction cs using replaceAll_induction hpart with
  | nil => rfl
  | occurrence cs ih =>
    obtain ⟨p, ps, hp, -, happend⟩ := pieces_append_of_notMem hsep cs
    obtain ⟨p', ps', hp', -, happend'⟩ := pieces_append_of_notMem hnew (replaceAll part new cs)
    rw [hp, hp', List.map_cons] at ih
    obtain ⟨rfl, rfl⟩ := List.cons.inj ih
    rw [replaceAll_part_append hpart, happend', happend, List.map_cons,
      replaceAll_part_append hpart]
  | char c cs hprefix ih =>
    rw [replaceAll_cons hprefix]
    by_cases hc : c = sep
    · rw [pieces, if_pos hc, pieces, if_pos hc, List.map_cons, replaceAll_nil, ih]
    · have hchar : sep ∉ [c] := fun h => hc (List.mem_singleton.1 h).symm
      obtain ⟨p, ps, hp, hstart, happend⟩ := pieces_append_of_notMem hchar cs
      obtain ⟨p', ps', hp', -, happend'⟩ := pieces_append_of_notMem hchar (replaceAll part new cs)
      rw [hp, hp', List.map_cons] at ih
      obtain ⟨rfl, rfl⟩ := List.cons.inj ih
      have hpiece : ¬ part <+: c :: p := fun h =>
        hprefix (h.trans (List.cons_prefix_cons.2 ⟨rfl, hstart⟩))
      rw [List.singleton_append] at happend happend'
      rw [happend', happend, List.map_cons, List.singleton_append, List.singleton_append,
        replaceAll_cons hpiece]

end TrafficLens.Text
