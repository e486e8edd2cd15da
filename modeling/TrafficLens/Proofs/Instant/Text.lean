import TrafficLens.Instant.Text
import TrafficLens.Proofs.Instant.Calendar
import TrafficLens.Proofs.Json.Reading

/-!
# The text of instants

A text that is read as an instant need not be the one that is written for it, but the one that is
written is read back, if there is such an instant at all: its year is in range, and it is inside a
leap second only at the end of a minute. These are `IsProper`, and they are the instants that can be
read (`isProper_of_parse?`). So exactly the proper instants are read back (`parse?_toText_iff`).
Numbers are written with as many digits as are read at most, or with something behind them that is
no digit; this is `number?_padded`.
-/

namespace TrafficLens.Instant

/-! ## Numbers -/

variable {most width n : Nat} {ds rest cs : List Char}

/-- Digits are read up to their end, if there are as many as can be read or no other one follows. -/
theorem number?_append (hds : ∀ c ∈ ds, c.isDigit) (hne : ds ≠ []) (hlen : ds.length ≤ most)
    (hrest : ds.length = most ∨ ∀ c ∈ rest.head?, ¬ c.isDigit) :
    number? most (ds ++ rest) = some (digitsValue ds, rest) := by
  have hnone : (rest.take (most - ds.length)).takeWhile Char.isDigit = [] := by
    rcases hrest with hfull | hrest
    · rw [hfull, Nat.sub_self, List.take_zero, List.takeWhile_nil]
    · cases rest with
      | nil => simp
      | cons c cs =>
        cases most - ds.length with
        | zero => rfl
        | succ k => exact List.takeWhile_cons_of_neg (hrest c rfl)
  have hall : ((ds ++ rest).take most).takeWhile Char.isDigit = ds := by
    rw [List.take_append, List.take_of_length_le hlen, List.takeWhile_append_of_pos hds, hnone,
      List.append_nil]
  simp [number?, hall, hne]

theorem isDigit_of_mem_padded : ∀ c ∈ padded width n, c.isDigit := by
  intro c hc
  rcases List.mem_append.1 hc with hc | hc
  · rw [List.eq_of_mem_replicate hc]
    decide
  · exact Json.isDigit_of_mem_toDigits n c hc

theorem padded_ne_nil : padded width n ≠ [] := by
  simp [padded, Nat.toDigits_ne_nil]

theorem length_padded (hwidth : 0 < width) (h : n < 10 ^ width) :
    (padded width n).length = width := by
  have := (Nat.length_toDigits_le_iff (by decide) hwidth).2 h
  rw [padded, List.length_append, List.length_replicate]
  omega

theorem digitsValue_zeros (count : Nat) : digitsValue (List.replicate count '0') = 0 := by
  induction count with
  | zero => rfl
  | succ count ih => exact ih

theorem digitsValue_padded : digitsValue (padded width n) = n := by
  have hsplit : digitsValue (padded width n) = (Nat.toDigits 10 n).foldl
      (fun n c => n * 10 + (c.toNat - 48)) (digitsValue (List.replicate _ '0')) :=
    List.foldl_append
  rw [hsplit, digitsValue_zeros]
  exact Json.digitsValue_toDigits n

/-- No digit follows. -/
theorem not_isDigit_head {c : Char} (hc : ¬ c.isDigit) (cs : List Char) :
    ∀ d ∈ (c :: cs).head?, ¬ d.isDigit := by
  intro d hd
  rwa [← Option.some.inj hd]

/-- A number is read up to the end of its digits. -/
theorem number?_padded (hlen : (padded width n).length ≤ most)
    (hrest : (padded width n).length = most ∨ ∀ c ∈ rest.head?, ¬ c.isDigit) :
    number? most (padded width n ++ rest) = some (n, rest) := by
  rw [number?_append isDigit_of_mem_padded padded_ne_nil hlen hrest, digitsValue_padded]

/-! ## Parts of a text -/

theorem skip_cons {c : Char} (h : ¬ Text.isBlank c) (cs : List Char) : skip (c :: cs) = c :: cs :=
  List.dropWhile_cons_of_neg h

theorem not_isBlank_of_isDigit {c : Char} (h : c.isDigit) : ¬ Text.isBlank c := by
  have hrange : 48 ≤ c.toNat ∧ c.toNat ≤ 57 := Char.isDigit_iff_toNat.1 h
  simp only [Text.isBlank, Text.blankRanges, List.any_cons, List.any_nil, Bool.or_false,
    Bool.or_eq_true, Bool.and_eq_true, decide_eq_true_eq]
  omega

/-- A number does not begin with a blank, or with a sign. -/
theorem padded_append (width n : Nat) (rest : List Char) :
    ∃ c cs, padded width n ++ rest = c :: cs ∧ c.isDigit := by
  cases h : padded width n with
  | nil => exact absurd h padded_ne_nil
  | cons c cs =>
    have hc : c ∈ padded width n := h ▸ List.mem_cons_self
    exact ⟨c, cs ++ rest, rfl, isDigit_of_mem_padded c hc⟩

theorem skip_padded (width n : Nat) (rest : List Char) :
    skip (padded width n ++ rest) = padded width n ++ rest := by
  obtain ⟨c, cs, hcs, hc⟩ := padded_append width n rest
  rw [hcs, skip_cons (not_isBlank_of_isDigit hc)]

theorem field?_padded {least most : Nat} (hleast : least ≤ n) (hmost : n ≤ most)
    (hn : n < 100) : field? least most (padded 2 n ++ rest) = some (n, rest) := by
  have hlen : (padded 2 n).length = 2 := length_padded (by decide) hn
  rw [field?, skip_padded, number?_padded (Nat.le_of_eq hlen) (.inl hlen)]
  simp [hleast, hmost]

theorem mark?_cons {c : Char} (h : ¬ Text.isBlank c) (cs : List Char) :
    mark? c (c :: cs) = some cs := by
  rw [mark?, skip_cons h]
  simp

/-- A year that is written with a sign ends with the hyphen behind it. -/
theorem year?_yearText (y : Int) (rest : List Char) :
    year? (yearText y ++ '-' :: rest) = some (y, '-' :: rest) := by
  have hsign : ∀ n, number? (padded 4 n ++ '-' :: rest).length (padded 4 n ++ '-' :: rest) =
      some (n, '-' :: rest) := fun n =>
    number?_padded (by rw [List.length_append]; omega)
      (.inr (not_isDigit_head (by decide) rest))
  rw [yearText]
  split
  · next hplain =>
    have hlen : (padded 4 y.toNat).length = 4 := length_padded (by decide) (by omega)
    obtain ⟨c, cs, hcs, hc⟩ := padded_append 4 y.toNat ('-' :: rest)
    have hnumber : number? 4 (padded 4 y.toNat ++ '-' :: rest) = some (y.toNat, '-' :: rest) :=
      number?_padded (Nat.le_of_eq hlen) (.inl hlen)
    rw [hcs] at hnumber ⊢
    rw [year?, skip_cons (not_isBlank_of_isDigit hc)]
    split
    · next heq =>
      cases heq
      exact absurd hc (by decide)
    · next heq =>
      cases heq
      exact absurd hc (by decide)
    · simp [hnumber, hplain.1]
  · next hplain =>
    split
    · next hneg =>
      have hy : -(y.natAbs : Int) = y := by omega
      rw [List.cons_append, year?, skip_cons (by decide)]
      simp only [hsign, Option.map_some, hy]
    · next hneg =>
      have hy : (y.natAbs : Int) = y := by omega
      rw [List.cons_append, year?, skip_cons (by decide)]
      simp only [hsign, Option.map_some, hy]

/-- The digits of a fraction say how many of them were left out. -/
theorem fraction?_padded (hwidth : 0 < width) (hmost : width ≤ 9) (hn : n < 10 ^ width) :
    fraction? ('.' :: padded width n ++ ['Z']) = some (n * Nat.pow 10 (9 - width), ['Z']) := by
  have hlen := length_padded hwidth hn
  have hnumber : number? 9 (padded width n ++ ['Z']) = some (n, ['Z']) :=
    number?_padded (by omega) (.inr (not_isDigit_head (by decide) []))
  have hused : (padded width n ++ ['Z']).length - ['Z'].length = width := by
    rw [List.length_append, hlen, Nat.add_sub_cancel]
  simp only [List.cons_append, fraction?, hnumber, Option.bind_eq_bind, Option.bind_some, hused]
  rfl

theorem fraction?_fractionText (hn : n < nanosPerSecond) :
    fraction? (fractionText n ++ ['Z']) = some (n, ['Z']) := by
  rw [nanosPerSecond] at hn
  rw [fractionText]
  split
  · next hzero =>
    rw [hzero]
    rfl
  split
  · next hmillis =>
    rw [fraction?_padded (by decide) (by decide) (by omega),
      Nat.div_mul_cancel (Nat.dvd_of_mod_eq_zero hmillis)]
  split
  · next hmicros =>
    rw [fraction?_padded (by decide) (by decide) (by omega),
      Nat.div_mul_cancel (Nat.dvd_of_mod_eq_zero hmicros)]
  · rw [fraction?_padded (by decide) (by decide) (by omega), Nat.mul_one]

/-! ## The text of an instant -/

/-- The parts of a text are those that were written. -/
theorem parseChars?_append {date : Date} {hour minute second nanos : Nat}
    (hmonth : 1 ≤ date.month ∧ date.month ≤ 12) (hday : 1 ≤ date.day ∧ date.day ≤ 31)
    (hhour : hour ≤ 23) (hminute : minute ≤ 59) (hsecond : second ≤ 60)
    (hnanos : nanos < nanosPerSecond) :
    parseChars? (yearText date.year ++ '-' :: padded 2 date.month ++ '-' :: padded 2 date.day ++
      'T' :: padded 2 hour ++ ':' :: padded 2 minute ++ ':' :: padded 2 second ++
      fractionText nanos ++ ['Z']) = ofParts? date hour minute second nanos 0 := by
  have hhyphen : ∀ cs, mark? '-' ('-' :: cs) = some cs := mark?_cons (by decide)
  have hcolon : ∀ cs, mark? ':' (':' :: cs) = some cs := mark?_cons (by decide)
  simp only [List.append_assoc, List.cons_append, parseChars?, year?_yearText, hhyphen, hcolon,
    Option.bind_eq_bind, Option.bind_some, field?_padded hmonth.1 hmonth.2 (by omega),
    field?_padded hday.1 hday.2 (by omega), field?_padded (Nat.zero_le _) hhour (by omega),
    field?_padded (Nat.zero_le _) hminute (by omega),
    field?_padded (Nat.zero_le _) hsecond (by omega), true_or, if_true,
    fraction?_fractionText hnanos]
  rfl

/-- The year that an instant is in. -/
def year (t : Instant) : Int := (Date.ofDays (t.seconds.fdiv secondsPerDay)).year

/-- There is such an instant. A leap second is inserted at the end of a minute. -/
structure IsProper (t : Instant) : Prop where
  nanos_lt : t.nanos < 2 * nanosPerSecond
  leap : nanosPerSecond ≤ t.nanos → t.seconds % 60 = 59
  minYear_le : minYear ≤ t.year
  le_maxYear : t.year ≤ maxYear

/-- The parts of an instant are put together. -/
theorem ofParts?_ofDays {days : Int} {hour minute second nanos ofDay : Nat}
    (hvalid : (Date.ofDays days).isValid) (hofDay : ofDay < 86400)
    (hsum : hour * 3600 + minute * 60 + (if second = 60 then 59 else second) = ofDay) :
    ofParts? (Date.ofDays days) hour minute second nanos 0 = some ⟨days * 86400 + ofDay,
      if second = 60 then nanos + nanosPerSecond else nanos⟩ := by
  have hdays : (days * 86400 + ofDay).fdiv secondsPerDay = days := by
    rw [Int.fdiv_eq_ediv_of_nonneg _ (by decide), secondsPerDay]
    omega
  have hseconds : days * secondsPerDay + (hour * 3600 + minute * 60 +
      (if second = 60 then 59 else second) : Nat) - 0 = days * 86400 + ofDay := by
    rw [hsum, Int.sub_zero, secondsPerDay]
  obtain ⟨hmin, hmax, -⟩ := of_decide_eq_true hvalid
  rw [ofParts?, if_pos ⟨hvalid, by decide⟩, toDays_ofDays]
  simp only [beq_iff_eq, hseconds, hdays]
  rw [if_pos ⟨hmin, hmax⟩]

variable {t : Instant}

/-- **A proper instant is read back from its text.** -/
theorem parse?_toText (h : t.IsProper) : parse? t.toText = some t := by
  obtain ⟨hnanos, hleap, hmin, hmax⟩ := h
  have hvalid := isValid_ofDays hmin hmax
  obtain ⟨-, -, hmonth1, hmonth, hday1, hday⟩ := of_decide_eq_true hvalid
  have hday := Nat.le_trans hday (daysInMonth_le _ _)
  obtain ⟨seconds, nanos⟩ := t
  have hdays : seconds.fdiv secondsPerDay = seconds / 86400 :=
    Int.fdiv_eq_ediv_of_nonneg _ (by decide)
  obtain ⟨ofDay, hofDay⟩ : ∃ ofDay, ofDay = (seconds - seconds / 86400 * 86400).toNat := ⟨_, rfl⟩
  have hlt : ofDay < 86400 := by omega
  have hseconds : seconds / 86400 * 86400 + ofDay = seconds := by omega
  rw [parse?, toText, String.toList_ofList]
  simp only [hdays, decide_eq_true_eq] at hvalid hmonth1 hmonth hday1 hday hnanos hleap ⊢
  rw [secondsPerDay, ← hofDay]
  by_cases hplain : nanosPerSecond ≤ nanos
  · -- a leap second is written as second sixty, and read as the second before it
    have hlast : ofDay % 60 = 59 := by
      have := hleap hplain
      omega
    have hsum : ofDay / 3600 * 3600 + ofDay / 60 % 60 * 60 +
        (if 60 = 60 then 59 else 60) = ofDay := by
      rw [if_pos rfl]
      omega
    rw [if_pos hplain, if_pos hplain, hlast, parseChars?_append ⟨hmonth1, hmonth⟩ ⟨hday1, hday⟩
      (by omega) (by omega) (by decide) (by omega), ofParts?_ofDays hvalid hlt hsum, hseconds,
      if_pos rfl, Nat.sub_add_cancel hplain]
  · have hbefore : ofDay % 60 ≠ 60 := by omega
    have hsum : ofDay / 3600 * 3600 + ofDay / 60 % 60 * 60 +
        (if ofDay % 60 = 60 then 59 else ofDay % 60) = ofDay := by
      rw [if_neg hbefore]
      omega
    rw [if_neg hplain, if_neg hplain, Nat.add_zero, parseChars?_append ⟨hmonth1, hmonth⟩
      ⟨hday1, hday⟩ (by omega) (by omega) (by omega) (by omega), ofParts?_ofDays hvalid hlt hsum,
      hseconds, if_neg hbefore]

/-! ## What is read -/

/-- So many digits say less than a one with so many zeros. -/
theorem digitsValue_lt (hds : ∀ c ∈ ds, c.isDigit) : digitsValue ds < 10 ^ ds.length := by
  induction ds using List.reverseRecOn with
  | nil => decide
  | append_singleton ds c ih =>
    have hc : 48 ≤ c.toNat ∧ c.toNat ≤ 57 := Char.isDigit_iff_toNat.1 (hds c (by simp))
    have hlast : digitsValue (ds ++ [c]) = digitsValue ds * 10 + (c.toNat - 48) :=
      List.foldl_append
    have hlt := ih fun d hd => hds d (List.mem_append_left _ hd)
    rw [hlast, List.length_append, List.length_singleton, Nat.pow_succ]
    omega

/-- A number is made of digits, and not of more than are asked for. -/
theorem append_of_number? (h : number? most cs = some (n, rest)) :
    ∃ ds, cs = ds ++ rest ∧ ds.length ≤ most ∧ n < 10 ^ ds.length := by
  rw [number?] at h
  split at h
  · cases h
  · cases h
    have hpre : (cs.take most).takeWhile Char.isDigit <+: cs :=
      (List.takeWhile_prefix _).trans (List.take_prefix _ _)
    refine ⟨(cs.take most).takeWhile Char.isDigit, ?_, ?_, digitsValue_lt ?_⟩
    · exact (List.prefix_iff_eq_append.1 hpre).symm
    · exact Nat.le_trans (List.takeWhile_prefix _).length_le (List.length_take_le _ _)
    · exact List.all_eq_true.1 List.all_takeWhile

/-- A fraction is less than a second. -/
theorem fraction?_lt (h : fraction? cs = some (n, rest)) : n < nanosPerSecond := by
  unfold fraction? at h
  split at h
  · next r =>
    obtain ⟨⟨m, left⟩, hnumber, h⟩ := Option.bind_eq_some_iff.1 h
    cases h
    obtain ⟨ds, rfl, hlen, hlt⟩ := append_of_number? hnumber
    have hused : (ds ++ left).length - left.length = ds.length := by simp
    rw [hused]
    calc m * 10 ^ (9 - ds.length)
      _ < 10 ^ ds.length * 10 ^ (9 - ds.length) :=
        Nat.mul_lt_mul_of_pos_right hlt (Nat.pow_pos (by decide))
      _ = nanosPerSecond := by rw [← Nat.pow_add, Nat.add_sub_cancel' hlen]; rfl
  · cases h
    decide

/-- An offset is one of whole minutes. -/
theorem offsetTime?_mod (h : offsetTime? cs = some (n, rest)) : n % 60 = 0 := by
  obtain ⟨⟨hours, left⟩, -, h⟩ := Option.bind_eq_some_iff.1 h
  obtain ⟨⟨minutes, left⟩, -, h⟩ := Option.bind_eq_some_iff.1 h
  dsimp only at h
  split at h
  · obtain ⟨rfl, -⟩ := Prod.mk.inj (Option.some.inj h)
    omega
  · cases h

theorem offset?_emod {offset : Int} (h : offset? cs = some (offset, rest)) : offset % 60 = 0 := by
  have htime : ∀ {cs : List Char} {f : Nat × List Char → Int × List Char},
      (∀ p : Nat × List Char, p.1 % 60 = 0 → (f p).1 % 60 = 0) →
      (offsetTime? cs).map f = some (offset, rest) → offset % 60 = 0 := by
    intro cs f hf h
    obtain ⟨p, htime, h⟩ := Option.map_eq_some_iff.1 h
    have := hf p (offsetTime?_mod htime)
    rwa [h] at this
  unfold offset? at h
  split at h
  · cases h
    rfl
  · split at h
    · cases h
      rfl
    · cases h
      rfl
    · exact htime (fun p hp => by dsimp only; omega) h
    · exact htime (fun p hp => by dsimp only; omega) h
    · exact htime (fun p hp => by dsimp only; omega) h
    · cases h

theorem isProper_of_ofParts? {date : Date} {hour minute second nanos : Nat} {offset : Int}
    (hnanos : nanos < nanosPerSecond) (hoffset : offset % 60 = 0)
    (h : ofParts? date hour minute second nanos offset = some t) : t.IsProper := by
  rw [ofParts?] at h
  split at h
  · dsimp only at h
    split at h <;> split at h
    · next hyear =>
      obtain rfl := Option.some.inj h
      refine ⟨by dsimp only; omega, fun _ => ?_, hyear.1, hyear.2⟩
      dsimp only [secondsPerDay]
      omega
    · cases h
    · next hyear =>
      obtain rfl := Option.some.inj h
      exact ⟨by dsimp only; omega, fun hleap => absurd hnanos (Nat.not_lt.2 hleap), hyear.1,
        hyear.2⟩
    · cases h
  · cases h

/-- **Only proper instants are read.** -/
theorem isProper_of_parse? {text : String} (h : parse? text = some t) : t.IsProper := by
  obtain ⟨⟨year, rest⟩, -, h⟩ := Option.bind_eq_some_iff.1 h
  obtain ⟨⟨month, rest⟩, -, h⟩ := Option.bind_eq_some_iff.1 h
  obtain ⟨⟨day, rest⟩, -, h⟩ := Option.bind_eq_some_iff.1 h
  dsimp only at h
  split at h
  · split at h
    · obtain ⟨rest, -, h⟩ := Option.bind_eq_some_iff.1 h
      obtain ⟨⟨hour, rest⟩, -, h⟩ := Option.bind_eq_some_iff.1 h
      obtain ⟨⟨minute, rest⟩, -, h⟩ := Option.bind_eq_some_iff.1 h
      obtain ⟨⟨second, rest⟩, -, h⟩ := Option.bind_eq_some_iff.1 h
      obtain ⟨⟨nanos, rest⟩, hfraction, h⟩ := Option.bind_eq_some_iff.1 h
      obtain ⟨⟨offset, rest⟩, hoffset, h⟩ := Option.bind_eq_some_iff.1 h
      dsimp only at h
      split at h
      · exact isProper_of_ofParts? (fraction?_lt hfraction) (offset?_emod hoffset) h
      · cases h
    · cases h
  · cases h

/-- **The instants that are read back from their texts are the proper ones.** -/
theorem parse?_toText_iff : parse? t.toText = some t ↔ t.IsProper :=
  ⟨isProper_of_parse?, parse?_toText⟩

end TrafficLens.Instant
