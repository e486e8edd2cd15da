import TrafficLens.Proofs.Pattern.Language

/-!
# Reading patterns of pieces

A pattern that is written for a template consists of pieces between two anchors: a character stands
for itself, with a backslash if it would mean something else, and a placeholder stands for any text
without a slash. At the end there may be slashes. `parse?_pieces` says what such a pattern is read
as, whatever the characters are, and `isMatch_pieces` which texts it matches: those that are spelled
by the pieces, with slashes behind.

A pattern that is too large is not taken, and then matches nothing. `read?` and `Describes` leave the
bound out, for statements about what a pattern means.
-/

namespace TrafficLens.Pattern

/-- A part of the pattern of a template. -/
inductive Piece where
  /-- This character. -/
  | literal (c : Char)
  /-- Any text without a slash that is not empty. -/
  | segment
deriving DecidableEq

namespace Piece

/-- How a piece is written. -/
def chars : Piece → List Char
  | literal c => escapeChars [c]
  | segment => ['[', '^', '/', ']', '+']

/-- What a piece is read as. -/
def node : Piece → Node
  | literal c => .char c
  | segment => .rep (.set (.compl (.union .none (CharSet.single '/')))) 1 none true

/-- The piece stands for a text. -/
def StandsFor : Piece → List Char → Prop
  | literal c, text => text = [c]
  | segment, text => text ≠ [] ∧ '/' ∉ text

/-- The pieces stand for the parts of a text, one after another. -/
def Spells : List Piece → List Char → Prop
  | [], text => text = []
  | p :: ps, text => ∃ first others, text = first ++ others ∧ p.StandsFor first ∧ Spells ps others

/-- The text of a pattern of pieces. -/
def patternChars (ps : List Piece) : List Char :=
  '^' :: (ps.flatMap chars ++ ['(', '/', ')', '*', '$'])

/-- The pattern of some pieces, followed by another one. -/
def nodeThen (ps : List Piece) (last : Node) : Node := ps.foldr (fun p n => .seq p.node n) last

/-- Slashes, and then the end. -/
def slashesNode : Node :=
  .seq (.rep (.seq (.char '/') .empty) 0 none true) (.seq (.look .textEnd) .empty)

/-- The pattern of some pieces. -/
def patternNode (ps : List Piece) : Node := .seq (.look .textStart) (nodeThen ps slashesNode)

end Piece

/-! ## Reading -/

@[simp] theorem skip_plain (cs : List Char) : ({} : Flags).skip cs = cs := by
  cases cs <;> rfl

/-- The text does not go on with a repetition. -/
def Settled (cs : List Char) : Prop := ∀ c ∈ cs.head?, startsRepetition c = false

theorem repetitions?_settled {fuel : Nat} (hfuel : 1 ≤ fuel) {node : Node} {cs : List Char}
    (h : Settled cs) : repetitions? {} fuel node cs = some (node, cs) := by
  obtain ⟨fuel, rfl⟩ := Nat.exists_eq_add_of_le' hfuel
  unfold repetitions?
  rw [skip_plain]
  split <;> simp_all [Settled, startsRepetition]

/-- Read one thing with its repetitions, and then the rest of the branch. -/
theorem sequence?_atom {c : Char} (hc : c ≠ ')' ∧ c ≠ '|' ∧ c ≠ '(') {cs rest others : List Char}
    {a n : Node} {fuel : Nat} (ha : atom? {} fuel (c :: cs) = some (a, rest))
    (hr : repetitions? {} fuel a rest = some (n, others)) :
    sequence? (fuel + 1) {} (c :: cs) =
      (sequence? fuel {} others).map fun p => (n.andThen p.1, p.2) := by
  obtain ⟨h₁, h₂, h₃⟩ := hc
  rw [sequence?, skip_plain]
  split
  · next h => cases h
  · next h => exact absurd (List.cons.inj h).1 h₁
  · next h => exact absurd (List.cons.inj h).1 h₂
  · next h => exact absurd (List.cons.inj h).1 h₃
  · simp only [ha, hr, Option.pure_def, Option.bind_eq_bind, Option.bind_some]
    cases sequence? fuel {} others <;> rfl

/-- A character that stands for itself is read as itself. -/
theorem sequence?_plain {c : Char} (hc : c ∉ metaChars) {fuel : Nat} {cs : List Char}
    (h : Settled cs) :
    sequence? (fuel + 2) {} (c :: cs) =
      (sequence? (fuel + 1) {} cs).map fun p => (.seq (.char c) p.1, p.2) := by
  have hne : ∀ d ∈ metaChars, c ≠ d := fun d hd hcd => hc (hcd ▸ hd)
  have hrep : startsRepetition c = false := by
    simp [startsRepetition, hne '*' (by decide), hne '+' (by decide), hne '?' (by decide),
      hne '\x7b' (by decide)]
  have ha : atom? {} (fuel + 1) (c :: cs) = some (.char c, cs) := by
    rw [atom?]
    · simp only [hrep]
      rfl
    all_goals
      intros
      simp_all [metaChars]
  exact sequence?_atom ⟨hne _ (by decide), hne _ (by decide), hne _ (by decide)⟩ ha
    (repetitions?_settled (by omega) h)

/-- A character behind a backslash is read as itself if it means something else without one. -/
theorem sequence?_escaped {c : Char} (hc : c ∈ metaChars) {fuel : Nat} {cs : List Char}
    (h : Settled cs) :
    sequence? (fuel + 2) {} ('\\' :: c :: cs) =
      (sequence? (fuel + 1) {} cs).map fun p => (.seq (.char c) p.1, p.2) := by
  have ha : atom? {} (fuel + 1) ('\\' :: c :: cs) = some (.char c, cs) := by
    have he : escape? {} (c :: cs) = some (.char c, cs) := by
      simp only [metaChars, List.mem_cons, List.not_mem_nil, or_false] at hc
      rcases hc with rfl | rfl | rfl | rfl | rfl | rfl | rfl | rfl | rfl | rfl | rfl | rfl | rfl |
        rfl | rfl | rfl | rfl | rfl <;> rfl
    rw [atom?, he]
    rfl
  exact sequence?_atom (by decide) ha (repetitions?_settled (by omega) h)

theorem repetitions?_plus {fuel : Nat} {node : Node} {cs : List Char} (h : Settled cs) :
    repetitions? {} (fuel + 2) node ('+' :: cs) = some (.rep node 1 none true, cs) := by
  unfold repetitions?
  rw [skip_plain]
  split
  case h_2 heq =>
    obtain ⟨-, rfl⟩ := List.cons.inj heq
    dsimp only
    split
    · simp [Settled, startsRepetition] at h
    · exact repetitions?_settled (by omega) h
  all_goals simp_all

/-- A piece is read as its pattern. -/
theorem sequence?_piece (p : Piece) {fuel : Nat} (hfuel : 3 ≤ fuel) {cs : List Char}
    (h : Settled cs) :
    sequence? (fuel + 1) {} (p.chars ++ cs) =
      (sequence? fuel {} cs).map fun r => (.seq p.node r.1, r.2) := by
  obtain ⟨fuel, rfl⟩ := Nat.exists_eq_add_of_le' hfuel
  cases p with
  | literal c =>
    rw [Piece.chars, Piece.node]
    by_cases hc : c ∈ metaChars
    · simpa [escapeChars, hc] using sequence?_escaped hc h
    · simpa [escapeChars, hc] using sequence?_plain hc h
  | segment =>
    have ha : atom? {} (fuel + 3) ('[' :: '^' :: '/' :: ']' :: '+' :: cs) =
        some (.set (.compl (.union .none (CharSet.single '/'))), '+' :: cs) := rfl
    exact sequence?_atom (by decide) ha (repetitions?_plus h)

theorem settled_cons {c : Char} {cs : List Char} (h : startsRepetition c = false) :
    Settled (c :: cs) := by
  intro d hd
  obtain rfl : c = d := by simpa using hd
  exact h

theorem settled_chars (p : Piece) (cs : List Char) : Settled (p.chars ++ cs) := by
  cases p with
  | literal c =>
    by_cases hc : c ∈ metaChars
    · simpa [Piece.chars, escapeChars, hc] using settled_cons (by decide)
    · have hrep : startsRepetition c = false := by
        rw [← Bool.not_eq_true]
        intro h
        simp only [startsRepetition, Bool.or_eq_true, beq_iff_eq] at h
        obtain ((rfl | rfl) | rfl) | rfl := h <;> exact hc (by decide)
      simpa [Piece.chars, escapeChars, hc] using settled_cons hrep
  | segment => exact settled_cons (by decide)

theorem sequence?_pieces (ps : List Piece) {fuel : Nat} (hfuel : 3 ≤ fuel) {cs : List Char}
    (h : Settled cs) :
    sequence? (fuel + ps.length) {} (ps.flatMap Piece.chars ++ cs) =
      (sequence? fuel {} cs).map fun r => (Piece.nodeThen ps r.1, r.2) := by
  induction ps with
  | nil => simp [Piece.nodeThen]
  | cons p ps ih =>
    have hsettled : Settled (ps.flatMap Piece.chars ++ cs) := by
      cases ps with
      | nil => exact h
      | cons q qs => simpa using settled_chars q _
    rw [List.flatMap_cons, List.append_assoc, List.length_cons, ← Nat.add_assoc,
      sequence?_piece p (by omega) hsettled, ih, Option.map_map]
    rfl

theorem one_le_length_chars (p : Piece) : 1 ≤ p.chars.length := by
  cases p with
  | literal c => by_cases hc : c ∈ metaChars <;> simp [Piece.chars, escapeChars, hc]
  | segment => simp [Piece.chars]

theorem length_le_length_flatMap_chars (ps : List Piece) :
    ps.length ≤ (ps.flatMap Piece.chars).length := by
  induction ps with
  | nil => simp
  | cons p ps ih =>
    have hp := one_le_length_chars p
    rw [List.flatMap_cons, List.length_append, List.length_cons]
    omega

theorem sequence?_patternChars (ps : List Piece) (fuel : Nat) :
    sequence? (fuel + 6 + ps.length + 1) {} (Piece.patternChars ps) =
      some (Piece.patternNode ps, {}, []) := by
  have hlast : sequence? (fuel + 6) {} ['(', '/', ')', '*', '$'] =
      some (Piece.slashesNode, {}, []) := rfl
  have hsettled : Settled (ps.flatMap Piece.chars ++ ['(', '/', ')', '*', '$']) := by
    cases ps with
    | nil => exact settled_cons (by decide)
    | cons p ps => simpa using settled_chars p _
  have hstart : atom? {} (fuel + 6 + ps.length) (Piece.patternChars ps) =
      some (.look .textStart, ps.flatMap Piece.chars ++ ['(', '/', ')', '*', '$']) := rfl
  rw [Piece.patternChars, sequence?_atom (by decide) hstart (repetitions?_settled (by omega) hsettled),
    sequence?_pieces ps (by omega) (settled_cons (by decide)), hlast]
  rfl

/-- Read the text of a pattern, however large it is. -/
def read? (s : String) : Option Node :=
  match alternatives? (2 * s.length + 2) {} s.toList with
  | some (node, _, []) => some node
  | _ => none

/-- Patterns that are too large are not taken. -/
theorem parse?_eq_filter (s : String) :
    parse? s = (read? s).filter fun node => node.weight ≤ sizeBound := by
  rw [parse?, read?]
  rcases alternatives? (2 * s.length + 2) {} s.toList with _ | ⟨node, flags, _ | ⟨c, rest⟩⟩
  · rfl
  · show (if node.weight ≤ sizeBound then some node else none) = (some node).filter _
    rw [Option.filter_some]
    simp only [decide_eq_true_eq]
  · rfl

theorem read?_pieces (ps : List Piece) :
    read? (String.ofList (Piece.patternChars ps)) = some (Piece.patternNode ps) := by
  have hfuel : ∃ fuel, 2 * (String.ofList (Piece.patternChars ps)).length + 2 =
      fuel + 6 + ps.length + 1 + 1 := by
    have hlen := length_le_length_flatMap_chars ps
    refine ⟨2 * (ps.flatMap Piece.chars).length + 6 - ps.length, ?_⟩
    simp only [String.length_ofList, Piece.patternChars, List.length_cons, List.length_append,
      List.length_nil]
    omega
  obtain ⟨fuel, hfuel⟩ := hfuel
  rw [read?, hfuel, String.toList_ofList, alternatives?, sequence?_patternChars]
  rfl

/-- **What a pattern of pieces is read as**, unless it is too large. -/
theorem parse?_pieces (ps : List Piece) :
    parse? (String.ofList (Piece.patternChars ps)) =
      if (Piece.patternNode ps).weight ≤ sizeBound then some (Piece.patternNode ps) else none := by
  rw [parse?_eq_filter, read?_pieces, Option.filter_some]
  simp only [decide_eq_true_eq]

theorem nodeThen_slashesNode_injective {ps qs : List Piece}
    (h : Piece.nodeThen ps Piece.slashesNode = Piece.nodeThen qs Piece.slashesNode) : ps = qs := by
  have hstart : ∀ p : Piece, p.node ≠ .rep (.seq (.char '/') .empty) 0 none true := by
    intro p
    cases p <;> simp [Piece.node, Node.char]
  have hnode : ∀ p q : Piece, p.node = q.node → p = q := by
    intro p q heq
    cases p <;> cases q <;> simp_all [Piece.node, Node.char, CharSet.single, Char.toNat_inj]
  induction ps generalizing qs with
  | nil =>
    cases qs with
    | nil => rfl
    | cons q qs => exact absurd (Node.seq.inj h).1.symm (hstart q)
  | cons p ps ih =>
    cases qs with
    | nil => exact absurd (Node.seq.inj h).1 (hstart p)
    | cons q qs =>
      obtain ⟨hhead, htail⟩ := Node.seq.inj h
      rw [hnode p q hhead, ih htail]

/-- Patterns of different pieces are written differently, since they are read differently. -/
theorem patternChars_injective {ps qs : List Piece}
    (h : Piece.patternChars ps = Piece.patternChars qs) : ps = qs := by
  have hps := sequence?_patternChars ps qs.length
  have hqs := sequence?_patternChars qs ps.length
  rw [show ps.length + 6 + qs.length + 1 = qs.length + 6 + ps.length + 1 by omega, ← h, hps] at hqs
  have hnode : Piece.patternNode ps = Piece.patternNode qs :=
    congrArg Prod.fst (Option.some.inj hqs)
  exact nodeThen_slashesNode_injective (Node.seq.inj hnode).2

/-! ## Size -/

theorem weight_segment : Piece.segment.node.weight = 34 := by decide

/-- Every placeholder takes its room. -/
theorem count_segment_le_weight (ps : List Piece) :
    Piece.segment.node.weight * ps.count .segment ≤ (Piece.patternNode ps).weight := by
  have hthen : ∀ last : Node, Piece.segment.node.weight * ps.count .segment ≤
      (Piece.nodeThen ps last).weight := by
    intro last
    induction ps with
    | nil => exact Nat.zero_le _
    | cons p ps ih =>
      have hcons : (Piece.nodeThen (p :: ps) last).weight =
          p.node.weight + (Piece.nodeThen ps last).weight := rfl
      rw [hcons]
      cases p with
      | literal c =>
        rw [List.count_cons_of_ne (by simp)]
        exact ih.trans (Nat.le_add_left ..)
      | segment =>
        rw [List.count_cons_self, Nat.mul_succ, Nat.add_comm]
        exact Nat.add_le_add_left ih _
  exact (hthen _).trans (Nat.le_add_left ..)

/-- A pattern that is not too large has few placeholders. -/
theorem count_segment_le_of_compiles {ps : List Piece}
    (h : compiles (String.ofList (Piece.patternChars ps))) :
    Piece.segment.node.weight * ps.count .segment ≤ sizeBound := by
  rw [compiles, parse?_pieces] at h
  split at h
  · next hweight => exact (count_segment_le_weight ps).trans hweight
  · cases h

/-! ## Matching -/

/-- Rounds of one character each. -/
theorem rounds_iff {round : Option Char → List Char → List Char → Prop} {P : Char → Prop}
    (hround : ∀ before text rest, round before text rest ↔ ∃ c, text = [c] ∧ P c) {n : Nat}
    {before : Option Char} {text rest : List Char} :
    Rounds round n before text rest ↔ text.length = n ∧ ∀ c ∈ text, P c := by
  induction n generalizing before text with
  | zero => simp +contextual [Rounds]
  | succ n ih =>
    rw [Rounds]
    constructor
    · rintro ⟨_, others, rfl, hr, h⟩
      obtain ⟨c, rfl, hc⟩ := (hround _ _ _).1 hr
      obtain ⟨rfl, hothers⟩ := ih.1 h
      exact ⟨rfl, List.forall_mem_cons.2 ⟨hc, hothers⟩⟩
    · rintro ⟨hlen, hall⟩
      obtain ⟨c, cs, rfl⟩ := List.exists_cons_of_length_eq_add_one hlen
      obtain ⟨hc, hcs⟩ := List.forall_mem_cons.1 hall
      exact ⟨[c], cs, rfl, (hround _ _ _).2 ⟨c, rfl, hc⟩, ih.2 ⟨by simpa using hlen, hcs⟩⟩

theorem mem_single {c d : Char} : (CharSet.single d).mem c ↔ c = d := by
  simp only [CharSet.single, CharSet.mem, Bool.and_eq_true, decide_eq_true_eq]
  constructor
  · rintro ⟨h₁, h₂⟩
    exact Char.toNat_inj.1 (Nat.le_antisymm h₂ h₁)
  · rintro rfl
    exact ⟨Nat.le_refl _, Nat.le_refl _⟩

theorem matches_char {c : Char} {before : Option Char} {text rest : List Char} :
    (Node.char c).Matches before text rest ↔ text = [c] := by
  simp [Node.char, Node.Matches, mem_single]

theorem matches_piece {p : Piece} {before : Option Char} {text rest : List Char} :
    p.node.Matches before text rest ↔ p.StandsFor text := by
  cases p with
  | literal c => exact matches_char
  | segment =>
    have hmem : ∀ c, (CharSet.compl (.union .none (CharSet.single '/'))).mem c ↔ c ≠ '/' := by
      intro c
      simp [CharSet.mem, ← Bool.not_eq_true, mem_single]
    have hround : ∀ before text rest,
        (Node.set (.compl (.union .none (CharSet.single '/')))).Matches before text rest ↔
          ∃ c, text = [c] ∧ c ≠ '/' := fun before text rest => by simp only [Node.Matches, hmem]
    rw [Piece.node, Node.Matches, Piece.StandsFor]
    simp only [rounds_iff hround]
    constructor
    · rintro ⟨n, hn, -, rfl, hall⟩
      exact ⟨List.length_pos_iff.1 hn, fun h => hall _ h rfl⟩
    · rintro ⟨hne, hall⟩
      exact ⟨text.length, List.length_pos_iff.2 hne, by simp, rfl, fun c hc h => hall (h ▸ hc)⟩

/-- Slashes up to the end of the text. -/
theorem matchesHere_slashesNode (before : Option Char) (text : List Char) :
    Piece.slashesNode.MatchesHere before text ↔ ∀ c ∈ text, c = '/' := by
  have hround : ∀ before text rest, (Node.seq (.char '/') .empty).Matches before text rest ↔
      ∃ c, text = [c] ∧ c = '/' := fun before text rest => by
    rw [Node.Matches]
    simp only [matches_char, Node.Matches]
    constructor
    · rintro ⟨_, _, rfl, rfl, rfl⟩
      exact ⟨'/', rfl, rfl⟩
    · rintro ⟨_, rfl, rfl⟩
      exact ⟨['/'], [], rfl, rfl, rfl⟩
  have hslashes : ∀ before text rest,
      (Node.rep (.seq (.char '/') .empty) 0 none true).Matches before text rest ↔
        ∀ c ∈ text, c = '/' := fun before text rest => by
    rw [matches_rep_zero]
    simp only [rounds_iff hround]
    constructor
    · rintro ⟨_, _, _, h⟩
      exact h
    · exact fun h => ⟨_, by simp, rfl, h⟩
  have hstop : ∀ before text, (Node.seq (.look .textEnd) .empty).MatchesHere before text ↔
      text = [] := fun before text => by
    rw [matchesHere_seq]
    simp only [Node.Matches, Look.holds]
    constructor
    · rintro ⟨_, rest, rfl, ⟨rfl, hrest⟩, -⟩
      simpa using hrest
    · rintro rfl
      exact ⟨[], [], rfl, ⟨rfl, rfl⟩, [], [], rfl, rfl⟩
  simp only [Piece.slashesNode, matchesHere_seq, hslashes, hstop]
  constructor
  · rintro ⟨first, _, rfl, h, rfl⟩
    simpa using h
  · exact fun h => ⟨text, [], (List.append_nil _).symm, h, rfl⟩

/-- What is matched by pieces is what they spell, and then what comes behind them. -/
theorem matchesHere_nodeThen (ps : List Piece) {last : Node} {Ends : List Char → Prop}
    (hlast : ∀ before text, last.MatchesHere before text ↔ Ends text) (before : Option Char)
    (text : List Char) :
    (Piece.nodeThen ps last).MatchesHere before text ↔
      ∃ spelled rest, text = spelled ++ rest ∧ Piece.Spells ps spelled ∧ Ends rest := by
  induction ps generalizing before text with
  | nil =>
    rw [Piece.nodeThen, List.foldr_nil, hlast]
    constructor
    · exact fun h => ⟨[], text, rfl, rfl, h⟩
    · rintro ⟨_, rest, rfl, rfl, h⟩
      exact h
  | cons p ps ih =>
    have hcons : Piece.nodeThen (p :: ps) last = .seq p.node (Piece.nodeThen ps last) := rfl
    rw [hcons, matchesHere_seq]
    simp only [matches_piece, ih]
    constructor
    · rintro ⟨first, _, rfl, hp, spelled, rest, rfl, hps, h⟩
      exact ⟨first ++ spelled, rest, (List.append_assoc ..).symm, ⟨first, spelled, rfl, hp, hps⟩, h⟩
    · rintro ⟨_, rest, rfl, ⟨first, spelled, rfl, hp, hps⟩, h⟩
      exact ⟨first, spelled ++ rest, List.append_assoc .., hp, spelled, rest, rfl, hps, h⟩

/-- The pattern with this text, however large it is, matches somewhere in a text. -/
def Describes (pattern text : String) : Prop :=
  ∃ node, read? pattern = some node ∧ node.matchesIn text

/-- A match is found if the pattern describes the text and is not too large. -/
theorem isMatch_iff_describes (pattern text : String) :
    isMatch pattern text ↔ compiles pattern ∧ Describes pattern text := by
  rw [isMatch, compiles, Describes, parse?_eq_filter]
  cases read? pattern with
  | none => simp
  | some node =>
    by_cases h : node.weight ≤ sizeBound
    · have hkept : (some node).filter (fun node => node.weight ≤ sizeBound) = some node := by
        simpa [Option.filter_some] using h
      simp [hkept]
    · have hrefused : (some node).filter (fun node => node.weight ≤ sizeBound) = none := by
        simpa [Option.filter_some] using h
      simp [hrefused]

/-- **What a pattern of pieces describes**: the texts that the pieces spell, with any number of
slashes behind. -/
theorem describes_pieces (ps : List Piece) (text : String) :
    Describes (String.ofList (Piece.patternChars ps)) text ↔
      ∃ spelled slashes, text.toList = spelled ++ slashes ∧ Piece.Spells ps spelled ∧
        ∀ c ∈ slashes, c = '/' := by
  rw [Describes, read?_pieces]
  simp only [Option.some.injEq, exists_eq_left']
  rw [Piece.patternNode, matchesIn_textStart, matchesHere_nodeThen ps matchesHere_slashesNode]

/-- **What a pattern of pieces matches**, unless it is too large. -/
theorem isMatch_pieces (ps : List Piece) (text : String) :
    isMatch (String.ofList (Piece.patternChars ps)) text ↔
      compiles (String.ofList (Piece.patternChars ps)) ∧
        ∃ spelled slashes, text.toList = spelled ++ slashes ∧ Piece.Spells ps spelled ∧
          ∀ c ∈ slashes, c = '/' := by
  rw [isMatch_iff_describes, describes_pieces]

end TrafficLens.Pattern
