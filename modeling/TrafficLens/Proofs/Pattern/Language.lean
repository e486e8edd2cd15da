import Mathlib.Data.List.TakeWhile
import TrafficLens.Pattern.Basic

/-!
# What a pattern matches

`Node.Matches` says which texts a pattern matches at a place, by recursion on the pattern and
without an order of preference. The matcher follows heads instead. The heads of a pattern at a place
lead to the texts that it matches there (`heads_faithful`), so a run finds a match if there is one
(`isSome_run`), and a search through a text finds one if the pattern matches some part of it
(`matchesIn_iff`). That heads are put in order, listed once and dropped behind an accepting one
makes a difference to the match that is found, but not to whether there is one.
-/

namespace TrafficLens.Pattern

/-! ## The language of a pattern -/

/-- So many rounds of something, one right after the other. -/
def Rounds (round : Option Char → List Char → List Char → Prop) :
    (n : Nat) → Option Char → List Char → List Char → Prop
  | 0, _, text, _ => text = []
  | n + 1, before, text, rest =>
    ∃ first others, text = first ++ others ∧ round before first (others ++ rest) ∧
      Rounds round n (first.getLast?.or before) others rest

/-- The pattern matches the text between the character `before` and `rest`. -/
def Node.Matches : Node → (before : Option Char) → (text rest : List Char) → Prop
  | .empty, _, text, _ => text = []
  | .set s, _, text, _ => ∃ c, text = [c] ∧ s.mem c
  | .look l, before, text, rest => text = [] ∧ l.holds before rest.head?
  | .seq a b, before, text, rest =>
    ∃ first others, text = first ++ others ∧ a.Matches before first (others ++ rest) ∧
      b.Matches (first.getLast?.or before) others rest
  | .alt a b, before, text, rest => a.Matches before text rest ∨ b.Matches before text rest
  | .rep r least extra _, before, text, rest =>
    ∃ n, least ≤ n ∧ (∀ e, extra = some e → n ≤ least + e) ∧ Rounds r.Matches n before text rest

theorem getLast?_cons_or (c : Char) (cs : List Char) (before : Option Char) :
    (c :: cs).getLast?.or before = cs.getLast?.or (some c) := by
  cases cs with
  | nil => rfl
  | cons d ds => simp [List.getLast?_cons]

theorem matches_andThen {a b : Node} {before : Option Char} {text rest : List Char} :
    (a.andThen b).Matches before text rest ↔ (Node.seq a b).Matches before text rest := by
  cases a with
  | empty =>
    constructor
    · exact fun h => ⟨[], text, rfl, rfl, h⟩
    · rintro ⟨_, others, rfl, rfl, h⟩
      exact h
  | _ => rfl

/-- One round, and then a repetition with one round less to go. -/
theorem matches_rep_succ {r : Node} {least : Nat} {extra : Option Nat} {greedy : Bool}
    {before : Option Char} {text rest : List Char} :
    (Node.rep r (least + 1) extra greedy).Matches before text rest ↔
      (Node.seq r (.rep r least extra greedy)).Matches before text rest := by
  constructor
  · rintro ⟨n, hl, he, h⟩
    obtain ⟨n, rfl⟩ : ∃ m, n = m + 1 := ⟨n - 1, by omega⟩
    obtain ⟨first, others, rfl, hr, h⟩ := h
    exact ⟨first, others, rfl, hr, n, by omega, fun e h => by have := he e h; omega, h⟩
  · rintro ⟨first, others, rfl, hr, n, hl, he, h⟩
    exact ⟨n + 1, by omega, fun e h => by have := he e h; omega, first, others, rfl, hr, h⟩

/-! ## Heads -/

@[simp] theorem mem_distinct {α : Type} [DecidableEq α] {x : α} {xs : List α} :
    x ∈ distinct xs ↔ x ∈ xs := by
  induction xs with
  | nil => rfl
  | cons y ys ih => by_cases h : x = y <;> simp [distinct, ih, h]

/-- The text that some heads lead to. -/
def Leads (heads : List Head) : (text rest : List Char) → Prop
  | [], _ => .accept ∈ heads
  | c :: cs, rest => ∃ s n, .take s n ∈ heads ∧ s.mem c ∧ n.Matches (some c) cs rest

/-- The heads lead to the texts that the pattern matches between these characters. -/
def Faithful (before after : Option Char) (heads : List Head) (node : Node) : Prop :=
  ∀ text rest, (text ++ rest).head? = after →
    (Leads heads text rest ↔ node.Matches before text rest)

theorem leads_distinct {heads : List Head} {text rest : List Char} :
    Leads (distinct heads) text rest ↔ Leads heads text rest := by
  cases text <;> simp [Leads]

theorem leads_append {heads others : List Head} {text rest : List Char} :
    Leads (heads ++ others) text rest ↔ Leads heads text rest ∨ Leads others text rest := by
  cases text with
  | nil => simp [Leads]
  | cons c cs =>
    simp only [Leads, List.mem_append]
    constructor
    · rintro ⟨s, n, h | h, hrest⟩
      · exact Or.inl ⟨s, n, h, hrest⟩
      · exact Or.inr ⟨s, n, h, hrest⟩
    · rintro (⟨s, n, h, hrest⟩ | ⟨s, n, h, hrest⟩)
      · exact ⟨s, n, Or.inl h, hrest⟩
      · exact ⟨s, n, Or.inr h, hrest⟩

theorem leads_accept {text rest : List Char} : Leads [.accept] text rest ↔ text = [] := by
  cases text <;> simp [Leads]

theorem leads_orStop {greedy : Bool} {heads : List Head} {text rest : List Char} :
    Leads (orStop greedy heads) text rest ↔ text = [] ∨ Leads heads text rest := by
  cases greedy with
  | true => rw [orStop, if_pos rfl, leads_append, leads_accept, or_comm]
  | false =>
    rw [orStop, if_neg (by simp), ← List.singleton_append, leads_append, leads_accept]

theorem accept_mem_headsThen {heads others : List Head} {b : Node} :
    .accept ∈ headsThen heads b others ↔ .accept ∈ heads ∧ .accept ∈ others := by
  simp only [headsThen, List.mem_flatMap]
  constructor
  · rintro ⟨_ | ⟨s, n⟩, h, hm⟩
    · exact ⟨h, hm⟩
    · simp at hm
  · rintro ⟨h, hm⟩
    exact ⟨_, h, hm⟩

theorem take_mem_headsThen {heads others : List Head} {b m : Node} {s : CharSet} :
    .take s m ∈ headsThen heads b others ↔
      (.accept ∈ heads ∧ .take s m ∈ others) ∨ ∃ n, .take s n ∈ heads ∧ m = n.andThen b := by
  simp only [headsThen, List.mem_flatMap]
  constructor
  · rintro ⟨_ | ⟨s', n⟩, h, hm⟩
    · exact Or.inl ⟨h, hm⟩
    · obtain ⟨rfl, rfl⟩ : s = s' ∧ m = n.andThen b := by simpa using hm
      exact Or.inr ⟨n, h, rfl⟩
  · rintro (⟨h, hm⟩ | ⟨n, h, rfl⟩)
    · exact ⟨_, h, hm⟩
    · exact ⟨_, h, by simp⟩

/-- Either the first pattern reads nothing and the other heads lead on, or it reads something and
the other pattern goes on behind it. -/
theorem leads_headsThen {before after : Option Char} {heads : List Head} {a : Node}
    (ha : Faithful before after heads a) (b : Node) (others : List Head) {text rest : List Char}
    (hafter : (text ++ rest).head? = after) :
    Leads (headsThen heads b others) text rest ↔
      (a.Matches before [] (text ++ rest) ∧ Leads others text rest) ∨
        ∃ c cs ds, text = c :: cs ++ ds ∧ a.Matches before (c :: cs) (ds ++ rest) ∧
          b.Matches (cs.getLast?.or (some c)) ds rest := by
  have hnil : .accept ∈ heads ↔ a.Matches before [] (text ++ rest) := ha [] (text ++ rest) hafter
  cases text with
  | nil =>
    rw [Leads, accept_mem_headsThen, hnil]
    simp [Leads]
  | cons c cs =>
    simp only [Leads, take_mem_headsThen]
    constructor
    · rintro ⟨s, m, ⟨hacc, hm⟩ | ⟨n, hn, rfl⟩, hc, h⟩
      · exact Or.inl ⟨hnil.1 hacc, s, m, hm, hc, h⟩
      · obtain ⟨first, ds, rfl, hn', hb⟩ := matches_andThen.1 h
        refine Or.inr ⟨c, first, ds, rfl, ?_, hb⟩
        exact (ha (c :: first) (ds ++ rest) (by simpa using hafter)).1 ⟨s, n, hn, hc, hn'⟩
    · rintro (⟨hacc, s, m, hm, hc, h⟩ | ⟨d, first, ds, htext, ha', hb⟩)
      · exact ⟨s, m, Or.inl ⟨hnil.2 hacc, hm⟩, hc, h⟩
      · obtain ⟨rfl, rfl⟩ := List.cons.inj htext
        obtain ⟨s, n, hn, hc, hn'⟩ :=
          (ha (c :: first) (ds ++ rest) (by simpa using hafter)).2 ha'
        exact ⟨s, _, Or.inr ⟨n, hn, rfl⟩, hc, matches_andThen.2 ⟨first, ds, rfl, hn', hb⟩⟩

/-- One pattern after another, by the cases that heads distinguish. -/
theorem matches_seq_iff {a b : Node} {before : Option Char} {text rest : List Char} :
    (Node.seq a b).Matches before text rest ↔
      (a.Matches before [] (text ++ rest) ∧ b.Matches before text rest) ∨
        ∃ c cs ds, text = c :: cs ++ ds ∧ a.Matches before (c :: cs) (ds ++ rest) ∧
          b.Matches (cs.getLast?.or (some c)) ds rest := by
  constructor
  · rintro ⟨_ | ⟨c, cs⟩, ds, rfl, ha, hb⟩
    · exact Or.inl ⟨ha, hb⟩
    · rw [getLast?_cons_or] at hb
      exact Or.inr ⟨c, cs, ds, rfl, ha, hb⟩
  · rintro (⟨ha, hb⟩ | ⟨c, cs, ds, rfl, ha, hb⟩)
    · exact ⟨[], text, rfl, ha, hb⟩
    · refine ⟨c :: cs, ds, rfl, ha, ?_⟩
      rwa [getLast?_cons_or]

theorem Faithful.seq {before after : Option Char} {heads others : List Head} {a b : Node}
    (ha : Faithful before after heads a) (hb : Faithful before after others b) :
    Faithful before after (headsThen heads b others) (.seq a b) := fun text rest h => by
  rw [leads_headsThen ha b others h, hb text rest h, matches_seq_iff]

theorem Faithful.distinct {before after : Option Char} {heads : List Head} {a : Node}
    (ha : Faithful before after heads a) : Faithful before after (distinct heads) a :=
  fun text rest h => leads_distinct.trans (ha text rest h)

/-! ## Heads of repetitions -/

section Repetition

variable {r : Node} {before after : Option Char} {heads : List Head}

theorem matches_rep_zero {extra : Option Nat} {greedy : Bool} {text rest : List Char} :
    (Node.rep r 0 extra greedy).Matches before text rest ↔
      ∃ n, (∀ e, extra = some e → n ≤ e) ∧ Rounds r.Matches n before text rest := by
  simp [Node.Matches]

theorem faithful_rep_bounded (hr : Faithful before after heads r) (greedy : Bool) (most : Nat) :
    Faithful before after (repUpToHeads r greedy heads most) (.rep r 0 (some most) greedy) := by
  induction most with
  | zero =>
    intro text rest h
    rw [repUpToHeads, leads_accept, matches_rep_zero]
    constructor
    · rintro rfl
      exact ⟨0, by simp, rfl⟩
    · rintro ⟨n, hn, h⟩
      obtain rfl : n = 0 := Nat.le_zero.1 (hn 0 rfl)
      exact h
  | succ most ih =>
    intro text rest h
    rw [repUpToHeads, leads_orStop, (hr.seq ih) text rest h, ← matches_rep_succ, matches_rep_zero]
    constructor
    · rintro (rfl | ⟨n, -, hn, h⟩)
      · exact ⟨0, by simp, rfl⟩
      · exact ⟨n, fun e he => by have := hn _ rfl; cases he; omega, h⟩
    · rintro ⟨_ | n, hn, h⟩
      · exact Or.inl h
      · exact Or.inr ⟨n + 1, by omega, fun e he => by have := hn _ rfl; cases he; omega, h⟩

/-- A round that reads nothing can be left out of a repetition without bound. -/
theorem faithful_rep_unbounded (hr : Faithful before after heads r) (greedy : Bool) :
    Faithful before after (repExtraHeads r greedy heads none) (.rep r 0 none greedy) := by
  intro text rest hafter
  rw [repExtraHeads, leads_orStop, leads_headsThen hr _ _ hafter, leads_accept, matches_rep_zero]
  constructor
  · rintro (rfl | ⟨-, rfl⟩ | ⟨c, cs, ds, rfl, hr, h⟩)
    · exact ⟨0, by simp, rfl⟩
    · exact ⟨0, by simp, rfl⟩
    · obtain ⟨n, -, h⟩ := matches_rep_zero.1 h
      refine ⟨n + 1, by simp, c :: cs, ds, rfl, hr, ?_⟩
      rwa [getLast?_cons_or]
  · rintro ⟨n, -, h⟩
    induction n with
    | zero => exact Or.inl h
    | succ n ih =>
      obtain ⟨_ | ⟨c, cs⟩, ds, rfl, hr, h⟩ := h
      · exact ih h
      · rw [getLast?_cons_or] at h
        exact Or.inr (Or.inr ⟨c, cs, ds, rfl, hr, matches_rep_zero.2 ⟨n, by simp, h⟩⟩)

theorem faithful_rep (hr : Faithful before after heads r) (extra : Option Nat) (greedy : Bool)
    (least : Nat) :
    Faithful before after (repHeads r greedy heads extra least) (.rep r least extra greedy) := by
  induction least with
  | zero =>
    cases extra with
    | none => exact faithful_rep_unbounded hr greedy
    | some most => exact faithful_rep_bounded hr greedy most
  | succ least ih =>
    intro text rest h
    rw [repHeads, (hr.seq ih) text rest h, matches_rep_succ]

end Repetition

/-- **Heads are faithful**: they lead to the texts that the pattern matches. -/
theorem heads_faithful (before after : Option Char) (node : Node) :
    Faithful before after (node.heads before after) node := by
  induction node with
  | empty => exact fun text rest _ => leads_accept
  | set s =>
    rintro (_ | ⟨c, cs⟩) rest -
    · simp [Node.heads, Leads, Node.Matches]
    · simp only [Node.heads, Leads, Node.Matches, List.mem_singleton, Head.take.injEq,
        List.cons.injEq]
      constructor
      · rintro ⟨_, _, ⟨rfl, rfl⟩, hc, hcs⟩
        exact ⟨c, ⟨rfl, hcs⟩, hc⟩
      · rintro ⟨_, ⟨rfl, hcs⟩, hc⟩
        exact ⟨s, .empty, ⟨rfl, rfl⟩, hc, hcs⟩
  | look l =>
    rintro text rest rfl
    rw [Node.heads, Node.Matches]
    split
    · next h =>
      rw [leads_accept]
      exact ⟨fun ht => ⟨ht, by rwa [ht] at h⟩, And.left⟩
    · next h =>
      constructor
      · intro hl
        cases text <;> simp [Leads] at hl
      · rintro ⟨rfl, hl⟩
        exact absurd hl h
  | seq a b iha ihb => exact (iha.seq ihb).distinct
  | alt a b iha ihb =>
    intro text rest h
    rw [Node.heads, leads_distinct, leads_append, iha text rest h, ihb text rest h, Node.Matches]
  | rep r least extra greedy ih => exact (faithful_rep ih extra greedy least).distinct

/-! ## Runs and searches -/

/-- The pattern matches some text that starts here. -/
def Node.MatchesHere (node : Node) (before : Option Char) (text : List Char) : Prop :=
  ∃ found rest, text = found ++ rest ∧ node.Matches before found rest

theorem matchesHere_nil {node : Node} {before : Option Char} :
    node.MatchesHere before [] ↔ .accept ∈ node.heads before none := by
  refine Iff.trans ?_ (heads_faithful before none node [] [] rfl).symm
  constructor
  · rintro ⟨found, rest, htext, h⟩
    obtain ⟨rfl, rfl⟩ := List.append_eq_nil_iff.1 htext.symm
    exact h
  · exact fun h => ⟨[], [], rfl, h⟩

/-- A match ends here, or it takes a character and goes on as another pattern. -/
theorem matchesHere_cons {node : Node} {before : Option Char} {c : Char} {cs : List Char} :
    node.MatchesHere before (c :: cs) ↔
      .accept ∈ node.heads before (some c) ∨
        ∃ s n, .take s n ∈ node.heads before (some c) ∧ s.mem c ∧ n.MatchesHere (some c) cs := by
  have hhere := heads_faithful before (some c) node [] (c :: cs) rfl
  have hgo := fun found rest => heads_faithful before (some c) node (c :: found) rest rfl
  constructor
  · rintro ⟨_ | ⟨d, found⟩, rest, htext, h⟩
    · exact Or.inl (hhere.2 (by rwa [htext]))
    · obtain ⟨rfl, rfl⟩ := List.cons.inj htext
      obtain ⟨s, n, hn, hc, h⟩ := (hgo found rest).2 h
      exact Or.inr ⟨s, n, hn, hc, found, rest, rfl, h⟩
  · rintro (h | ⟨s, n, hn, hc, found, rest, rfl, h⟩)
    · exact ⟨[], c :: cs, rfl, hhere.1 h⟩
    · exact ⟨c :: found, rest, rfl, (hgo found rest).1 ⟨s, n, hn, hc, h⟩⟩

theorem mem_afterChar {c : Char} {heads : List Head} {n : Node} :
    n ∈ afterChar c heads ↔ ∃ s, .take s n ∈ heads ∧ s.mem c := by
  simp only [afterChar, List.mem_filterMap]
  constructor
  · rintro ⟨_ | ⟨s, m⟩, h, hm⟩
    · simp at hm
    · by_cases hc : s.mem c
      · obtain rfl : m = n := by simpa [hc] using hm
        exact ⟨s, h, hc⟩
      · simp [hc] at hm
  · rintro ⟨s, h, hc⟩
    exact ⟨_, h, by simp [hc]⟩

theorem liveHeads_eq_self {heads : List Head} (h : .accept ∉ heads) : liveHeads heads = heads := by
  rw [liveHeads, List.takeWhile_eq_self_iff]
  rintro x hx
  rw [decide_eq_true_eq]
  rintro rfl
  exact h hx

/-- What the patterns leave behind a character, while none of them accepts. -/
theorem exists_matchesHere_afterChar {heads : List Head} (hacc : .accept ∉ heads) {c : Char}
    {cs : List Char} :
    (∃ n ∈ distinct (afterChar c (liveHeads heads)), n.MatchesHere (some c) cs) ↔
      ∃ s n, .take s n ∈ heads ∧ s.mem c ∧ n.MatchesHere (some c) cs := by
  simp only [mem_distinct, liveHeads_eq_self hacc, mem_afterChar]
  constructor
  · rintro ⟨n, ⟨s, hn, hc⟩, h⟩
    exact ⟨s, n, hn, hc, h⟩
  · rintro ⟨s, n, hn, hc, h⟩
    exact ⟨n, ⟨s, hn, hc⟩, h⟩

/-- **A run finds a match if there is one** that starts where the run does. -/
theorem isSome_run (states : List Node) (before : Option Char) (text : List Char) :
    (run states before text).isSome ↔ ∃ node ∈ states, node.MatchesHere before text := by
  induction text generalizing states before with
  | nil =>
    have hacc : (states.flatMap (Node.heads before none)).contains .accept ↔
        ∃ node ∈ states, node.MatchesHere before [] := by
      simp only [List.contains_iff_mem, List.mem_flatMap, matchesHere_nil]
    rw [run, ← hacc]
    split <;> simp_all
  | cons c cs ih =>
    have hmem : ∀ h, h ∈ distinct (states.flatMap (Node.heads before (some c))) ↔
        ∃ node ∈ states, h ∈ node.heads before (some c) := by simp
    rw [run]
    generalize distinct (states.flatMap (Node.heads before (some c))) = heads at hmem
    have hsplit : (∃ node ∈ states, node.MatchesHere before (c :: cs)) ↔ .accept ∈ heads ∨
        ∃ s n, .take s n ∈ heads ∧ s.mem c ∧ n.MatchesHere (some c) cs := by
      simp only [matchesHere_cons, hmem]
      constructor
      · rintro ⟨node, hnode, h | ⟨s, n, hn, h⟩⟩
        · exact Or.inl ⟨node, hnode, h⟩
        · exact Or.inr ⟨s, n, ⟨node, hnode, hn⟩, h⟩
      · rintro (⟨node, hnode, h⟩ | ⟨s, n, ⟨node, hnode, hn⟩, h⟩)
        · exact ⟨node, hnode, Or.inl h⟩
        · exact ⟨node, hnode, Or.inr ⟨s, n, hn, h⟩⟩
    rw [hsplit]
    by_cases hacc : .accept ∈ heads
    · refine iff_of_true ?_ (Or.inl hacc)
      rw [List.contains_iff_mem.2 hacc]
      split <;> simp
    · have hfalse : heads.contains .accept = false := by
        rwa [← Bool.not_eq_true, List.contains_iff_mem]
      rw [or_iff_right hacc, ← exists_matchesHere_afterChar hacc, hfalse]
      split
      · next hnil => simp [hnil]
      · simp [ih]

/-- A search finds a match if the pattern matches some part of the text. -/
theorem isSome_search (node : Node) (before : Option Char) (text : List Char) :
    (search node before text).isSome ↔
      ∃ skipped rest, text = skipped ++ rest ∧
        node.MatchesHere (skipped.getLast?.or before) rest := by
  induction text generalizing before with
  | nil =>
    rw [search, Option.isSome_map, isSome_run]
    constructor
    · rintro ⟨n, hn, h⟩
      obtain rfl := List.mem_singleton.1 hn
      exact ⟨[], [], rfl, h⟩
    · rintro ⟨skipped, rest, htext, h⟩
      obtain ⟨rfl, rfl⟩ := List.append_eq_nil_iff.1 htext.symm
      exact ⟨node, List.mem_singleton_self _, h⟩
  | cons c cs ih =>
    have hrun := isSome_run [node] before (c :: cs)
    simp only [List.mem_singleton, exists_eq_left] at hrun
    have hsplit : (∃ skipped rest, c :: cs = skipped ++ rest ∧
          node.MatchesHere (skipped.getLast?.or before) rest) ↔
        node.MatchesHere before (c :: cs) ∨ ∃ skipped rest, cs = skipped ++ rest ∧
          node.MatchesHere (skipped.getLast?.or (some c)) rest := by
      constructor
      · rintro ⟨_ | ⟨d, skipped⟩, rest, htext, h⟩
        · exact Or.inl (by rwa [htext])
        · obtain ⟨rfl, rfl⟩ := List.cons.inj htext
          rw [getLast?_cons_or] at h
          exact Or.inr ⟨skipped, rest, rfl, h⟩
      · rintro (h | ⟨skipped, rest, rfl, h⟩)
        · exact ⟨[], c :: cs, rfl, h⟩
        · exact ⟨c :: skipped, rest, rfl, by rwa [getLast?_cons_or]⟩
    rw [search, hsplit, ← ih, ← hrun]
    split
    · next h => simp [h]
    · next h => simp [h]

/-- **A pattern is found in a text if it matches some part of it.** -/
theorem matchesIn_iff (node : Node) (text : String) :
    node.matchesIn text ↔
      ∃ skipped found rest, text.toList = skipped ++ (found ++ rest) ∧
        node.Matches skipped.getLast? found rest := by
  rw [Node.matchesIn, isSome_search]
  simp only [Option.or_none, Node.MatchesHere]
  constructor
  · rintro ⟨skipped, _, htext, found, rest, rfl, h⟩
    exact ⟨skipped, found, rest, htext, h⟩
  · rintro ⟨skipped, found, rest, htext, h⟩
    exact ⟨skipped, _, htext, found, rest, rfl, h⟩

theorem matchesHere_seq {a b : Node} {before : Option Char} {text : List Char} :
    (Node.seq a b).MatchesHere before text ↔
      ∃ first rest, text = first ++ rest ∧ a.Matches before first rest ∧
        b.MatchesHere (first.getLast?.or before) rest := by
  constructor
  · rintro ⟨_, rest, rfl, first, others, rfl, ha, hb⟩
    exact ⟨first, others ++ rest, List.append_assoc .., ha, others, rest, rfl, hb⟩
  · rintro ⟨first, _, rfl, ha, others, rest, rfl, hb⟩
    exact ⟨first ++ others, rest, (List.append_assoc ..).symm, first, others, rfl, ha, hb⟩

/-- A pattern that is anchored at the start is found at the start or not at all. -/
theorem matchesIn_textStart (node : Node) (text : String) :
    (Node.seq (.look .textStart) node).matchesIn text ↔ node.MatchesHere none text.toList := by
  rw [Node.matchesIn, isSome_search]
  simp only [matchesHere_seq, Node.Matches, Look.holds]
  constructor
  · rintro ⟨skipped, rest, htext, first, rest', rfl, ⟨rfl, hstart⟩, h⟩
    obtain rfl : skipped = [] := by simpa using hstart
    rwa [htext]
  · exact fun h => ⟨[], _, rfl, [], _, rfl, ⟨rfl, rfl⟩, h⟩

end TrafficLens.Pattern
