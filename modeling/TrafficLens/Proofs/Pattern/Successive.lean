import TrafficLens.Proofs.Pattern.Language

/-!
# Matches one behind the other

`Node.Successive` says how the matches of a pattern follow each other in a text: each is what a
search finds from where the last one ended, and an empty match is not taken where the last one
ended, but the search goes on behind the next character. The listing of matches runs with fuel, and
there is always enough of it (`successive_matchesOf`). What is listed are parts of the text that the
pattern matches where they stand (`Successive.finds`), and something is listed as soon as there is
such a part (`matchesOf_ne_nil_iff`).
-/

namespace TrafficLens.Pattern

/-- The pattern matches the part at some place of the text. -/
def Node.Finds (node : Node) (before : Option Char) (text part : List Char) : Prop :=
  ∃ skipped rest, text = skipped ++ (part ++ rest) ∧
    node.Matches (skipped.getLast?.or before) part rest

/-- The matches from a place on. A match may have ended right there, and then the next one is not
an empty one at the place. -/
inductive Node.Successive (node : Node) : (behind : Bool) → (before : Option Char) → List Char →
    List (List Char) → Prop where
  /-- There is none. -/
  | none {behind before text} (h : search node before text = .none) :
    Successive node behind before text []
  /-- The first one, and those behind it. -/
  | found {behind : Bool} {before text m ms} (h : search node before text = some m)
    (hm : ¬ (behind ∧ m.text = [] ∧ m.rest = text))
    (hms : Successive node true (beforeRest before text m.rest) m.rest ms) :
    Successive node behind before text (m.text :: ms)
  /-- The match is empty and ends where the last one ended. -/
  | skip {before c cs ms} (h : search node before (c :: cs) = some ⟨[], c :: cs⟩)
    (hms : Successive node false (some c) cs ms) : Successive node true before (c :: cs) ms
  /-- It is empty, and the text is over. -/
  | stop {before} (h : search node before [] = some ⟨[], []⟩) : Successive node true before [] []

variable {node : Node} {behind : Bool} {before : Option Char} {text rest part : List Char}
  {ms : List (List Char)}

/-! ## What a search finds -/

/-- A run stops behind a match. -/
theorem matches_of_run {states : List Node} (h : run states before text = some rest) :
    ∃ found, text = found ++ rest ∧ ∃ node ∈ states, node.Matches before found rest := by
  induction text generalizing states before rest with
  | nil =>
    rw [run] at h
    split at h
    · next hacc =>
      obtain rfl := Option.some.inj h
      obtain ⟨node, hnode, hacc⟩ := List.mem_flatMap.1 (List.contains_iff_mem.1 hacc)
      exact ⟨[], rfl, node, hnode, (heads_faithful before none node [] [] rfl).1 hacc⟩
    · cases h
  | cons c cs ih =>
    have hmem : ∀ x, x ∈ distinct (states.flatMap (Node.heads before (some c))) →
        ∃ node ∈ states, x ∈ node.heads before (some c) := by simp
    rw [run] at h
    generalize distinct (states.flatMap (Node.heads before (some c))) = heads at h hmem
    -- the run ends here, or behind the next character
    have hends : (.accept ∈ heads ∧ c :: cs = rest) ∨
        run (distinct (afterChar c (liveHeads heads))) (some c) cs = some rest := by
      have hhere : (if heads.contains .accept then some (c :: cs) else none) = some rest →
          .accept ∈ heads ∧ c :: cs = rest := by simp
      split at h
      · exact .inl (hhere h)
      · rcases Option.or_eq_some_iff.1 h with h | ⟨-, h⟩
        · exact .inr h
        · exact .inl (hhere h)
    rcases hends with ⟨hacc, rfl⟩ | hrun
    · obtain ⟨node, hnode, hacc⟩ := hmem _ hacc
      exact ⟨[], rfl, node, hnode, (heads_faithful before (some c) node [] (c :: cs) rfl).1 hacc⟩
    · obtain ⟨found, rfl, n, hn, hmatch⟩ := ih hrun
      obtain ⟨s, htake, hc⟩ := mem_afterChar.1 (mem_distinct.1 hn)
      obtain ⟨node, hnode, htake⟩ := hmem _ ((List.takeWhile_sublist _).subset htake)
      exact ⟨c :: found, rfl, node, hnode,
        (heads_faithful before (some c) node (c :: found) rest rfl).1 ⟨s, n, htake, hc, hmatch⟩⟩

/-- What a search finds is a part of the text that the pattern matches, and the text behind it. -/
theorem matches_of_search {m : Found} (h : search node before text = some m) :
    ∃ skipped, text = skipped ++ (m.text ++ m.rest) ∧
      node.Matches (skipped.getLast?.or before) m.text m.rest := by
  induction text generalizing before with
  | nil =>
    rw [search, Option.map_eq_some_iff] at h
    obtain ⟨rest, hrun, rfl⟩ := h
    obtain ⟨found, htext, n, hn, hmatch⟩ := matches_of_run hrun
    obtain rfl := List.mem_singleton.1 hn
    obtain ⟨rfl, rfl⟩ := List.append_eq_nil_iff.1 htext.symm
    exact ⟨[], rfl, hmatch⟩
  | cons c cs ih =>
    rw [search] at h
    split at h
    · next rest hrun =>
      obtain rfl := Option.some.inj h
      obtain ⟨found, htext, n, hn, hmatch⟩ := matches_of_run hrun
      obtain rfl := List.mem_singleton.1 hn
      have hlen : cs.length + 1 - rest.length = found.length := by
        have := congrArg List.length htext
        simp only [List.length_cons, List.length_append] at this
        omega
      refine ⟨[], ?_, ?_⟩ <;> dsimp only <;> rw [hlen, htext, List.take_left]
      · rfl
      · exact hmatch
    · obtain ⟨skipped, rfl, hmatch⟩ := ih h
      exact ⟨c :: skipped, rfl, by rwa [getLast?_cons_or]⟩

theorem beforeRest_append (before : Option Char) (front rest : List Char) :
    beforeRest before (front ++ rest) rest = front.getLast?.or before := by
  simp [beforeRest]

/-- Behind another part of the text the place is the same. -/
theorem Node.Finds.shift (front : List Char)
    (h : node.Finds (front.getLast?.or before) text part) :
    node.Finds before (front ++ text) part := by
  obtain ⟨skipped, rest, rfl, h⟩ := h
  refine ⟨front ++ skipped, rest, (List.append_assoc ..).symm, ?_⟩
  rwa [List.getLast?_append, Option.or_assoc]

/-- **What is listed are matches.** -/
theorem Node.Successive.finds (h : node.Successive behind before text ms) :
    ∀ part ∈ ms, node.Finds before text part := by
  induction h with
  | none => simp
  | stop => simp
  | skip h hms ih => exact fun part hpart => (ih part hpart).shift [_]
  | @found behind before text m ms h hm hms ih =>
    obtain ⟨skipped, htext, hmatch⟩ := matches_of_search h
    refine List.forall_mem_cons.2 ⟨⟨skipped, m.rest, htext, hmatch⟩, fun part hpart => ?_⟩
    rw [← List.append_assoc] at htext
    have hfinds := ih part hpart
    rw [htext, beforeRest_append] at hfinds
    rw [htext]
    exact hfinds.shift _

/-! ## The listing -/

/-- A search leaves less behind than it started with, unless the match is empty and right there. -/
theorem rest_of_search {m : Found} (h : search node before text = some m) :
    m.rest.length < text.length ∨ m.text = [] ∧ m.rest = text := by
  obtain ⟨skipped, htext, -⟩ := matches_of_search h
  rcases Nat.eq_zero_or_pos (skipped.length + m.text.length) with hnil | hpos
  · obtain rfl : skipped = [] := List.eq_nil_of_length_eq_zero (by omega)
    have hempty : m.text = [] := List.eq_nil_of_length_eq_zero (by omega)
    rw [hempty] at htext
    exact .inr ⟨hempty, htext.symm⟩
  · refine .inl ?_
    rw [htext, List.length_append, List.length_append]
    omega

/-- Behind the first character of a text, what comes before a match is the same. -/
theorem beforeRest_cons (before : Option Char) {c : Char} {cs : List Char} {m : Found}
    (h : search node (some c) cs = some m) :
    beforeRest before (c :: cs) m.rest = beforeRest (some c) cs m.rest := by
  obtain ⟨skipped, rfl, -⟩ := matches_of_search h
  rw [← List.append_assoc, beforeRest_append, ← List.cons_append, beforeRest_append,
    getLast?_cons_or]

section Listing

variable {fuel : Nat}

theorem matchesFrom_of_none {lastEnd : Option Nat} (h : search node before text = none) :
    matchesFrom node (fuel + 1) lastEnd before text = [] := by
  rw [matchesFrom.eq_def]
  simp [h]

/-- Where no match ended, any match is taken. -/
theorem matchesFrom_none {m : Found} (h : search node before text = some m) :
    matchesFrom node (fuel + 1) none before text =
      m.text :: matchesFrom node fuel (some m.rest.length) (beforeRest before text m.rest)
        m.rest := by
  rw [matchesFrom.eq_def]
  simp [h]

/-- Where a match ended, a match that gets on is taken. -/
theorem matchesFrom_some {m : Found} (h : search node before text = some m)
    (hrest : m.rest.length < text.length) :
    matchesFrom node (fuel + 1) (some text.length) before text =
      m.text :: matchesFrom node fuel (some m.rest.length) (beforeRest before text m.rest)
        m.rest := by
  have hne : (some text.length == some m.rest.length) = false := by
    simpa using Nat.ne_of_gt hrest
  rw [matchesFrom.eq_def]
  simp [h, hne]

/-- Any other is passed by. -/
theorem matchesFrom_skip {c : Char} {cs : List Char}
    (h : search node before (c :: cs) = some ⟨[], c :: cs⟩) :
    matchesFrom node (fuel + 1) (some (c :: cs).length) before (c :: cs) =
      matchesFrom node (fuel + 1) none (some c) cs := by
  cases hnext : search node (some c) cs with
  | none =>
    rw [matchesFrom_of_none hnext]
    rw [matchesFrom.eq_def]
    simp [h, hnext]
  | some m =>
    rw [matchesFrom_none hnext, ← beforeRest_cons before hnext]
    rw [matchesFrom.eq_def]
    simp [h, hnext]

theorem matchesFrom_stop (h : search node before [] = some ⟨[], []⟩) :
    matchesFrom node (fuel + 1) (some 0) before [] = [] := by
  rw [matchesFrom.eq_def]
  simp [h]

end Listing

/-- As long as there is more fuel than text, and one more where no match ended, the listing is
complete. -/
theorem successive_matchesFrom (node : Node) (before : Option Char) (text : List Char)
    (fuel : Nat) :
    (text.length ≤ fuel → node.Successive true before text
      (matchesFrom node (fuel + 1) (some text.length) before text)) ∧
    (text.length < fuel → node.Successive false before text
      (matchesFrom node (fuel + 1) none before text)) := by
  induction hlen : text.length using Nat.strong_induction_on generalizing before text fuel with
  | _ len ih =>
    subst hlen
    have hbehind : ∀ before fuel, text.length ≤ fuel → node.Successive true before text
        (matchesFrom node (fuel + 1) (some text.length) before text) := by
      intro before fuel hfuel
      cases h : search node before text with
      | none =>
        rw [matchesFrom_of_none h]
        exact .none h
      | some m =>
        rcases rest_of_search h with hrest | ⟨hempty, hend⟩
        · obtain ⟨fuel, rfl⟩ : ∃ n, fuel = n + 1 := ⟨fuel - 1, by omega⟩
          rw [matchesFrom_some h hrest]
          refine .found h (fun hstay => ?_) ((ih _ hrest _ m.rest fuel rfl).1 (by omega))
          rw [hstay.2.2] at hrest
          omega
        · obtain rfl : m = ⟨[], text⟩ := by rw [← hempty, ← hend]
          cases text with
          | nil =>
            rw [List.length_nil, matchesFrom_stop h]
            exact .stop h
          | cons c cs =>
            rw [matchesFrom_skip h]
            rw [List.length_cons] at hfuel
            exact .skip h ((ih _ (Nat.lt_succ_self _) _ cs fuel rfl).2 (by omega))
    refine ⟨hbehind before fuel, fun hfuel => ?_⟩
    cases h : search node before text with
    | none =>
      rw [matchesFrom_of_none h]
      exact .none h
    | some m =>
      obtain ⟨fuel, rfl⟩ : ∃ n, fuel = n + 1 := ⟨fuel - 1, by omega⟩
      rw [matchesFrom_none h]
      refine .found h (by simp) ?_
      rcases rest_of_search h with hrest | ⟨hempty, hend⟩
      · exact (ih _ hrest _ m.rest fuel rfl).1 (by omega)
      · rw [hend]
        exact hbehind _ fuel (by omega)

/-- **The listing is complete.** -/
theorem successive_matchesOf (node : Node) (text : String) :
    node.Successive false none text.toList ((node.matchesOf text).map String.toList) := by
  have hlist : (node.matchesOf text).map String.toList = successive node text.toList := by
    simp [Node.matchesOf, Function.comp_def]
  rw [hlist]
  exact (successive_matchesFrom node none text.toList _).2 (Nat.lt_succ_self _)

theorem isSome_search_iff :
    (search node before text).isSome ↔ ∃ part, node.Finds before text part := by
  rw [isSome_search]
  constructor
  · rintro ⟨skipped, _, htext, part, rest, rfl, h⟩
    exact ⟨part, skipped, rest, htext, h⟩
  · rintro ⟨part, skipped, rest, htext, h⟩
    exact ⟨skipped, _, htext, part, rest, rfl, h⟩

theorem Node.Successive.ne_nil_iff (h : node.Successive false before text ms) :
    ms ≠ [] ↔ (search node before text).isSome := by
  cases h with
  | none h => simp [h]
  | found h => simp [h]

/-- **Something is listed if the pattern matches some part of the text.** -/
theorem matchesOf_ne_nil_iff (node : Node) (text : String) :
    node.matchesOf text ≠ [] ↔ ∃ part, node.Finds none text.toList part := by
  rw [← isSome_search_iff, ← (successive_matchesOf node text).ne_nil_iff]
  simp

end TrafficLens.Pattern
