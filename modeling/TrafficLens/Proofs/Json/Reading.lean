import Mathlib.Data.Nat.Basic
import TrafficLens.Json.Parser
import TrafficLens.Json.Printer
import TrafficLens.Proofs.Increasing
import TrafficLens.Proofs.Json.Shape

/-!
# Reading what was written

The compact text of a value is read as the value again, unless it nests too deeply for the reader
(`parse?_toText`). The reader works off the text with a budget of levels, so the statement about the
text of a value before some rest says both at once: with a budget that is large enough the value is
read and the rest is left, and with a smaller one the reader fails (`value?_write`).

Two things are asked of the value. The members of its objects have to be in order, as they are in
every value that was read (`within_of_parse?`). And each of its numbers has to be read as itself: an
integer is (`readsBack_int`), but the reader rounds the digits of other numbers more than once.
-/

namespace TrafficLens.Json

/-! ## Characters and strings -/

theorem hexDigit?_digitChar : ∀ d < 16, hexDigit? (Nat.digitChar d) = some d := by decide

theorem hex4?_hex4 {n : Nat} (hn : n < 65536) (rest : List Char) :
    hex4? (hex4 n ++ rest) = some (n, rest) := by
  have hdigit : ∀ k, hexDigit? (Nat.digitChar (k % 16)) = some (k % 16) :=
    fun k => hexDigit?_digitChar _ (Nat.mod_lt _ (by omega))
  have hvalue : ((n / 4096 % 16 * 16 + n / 256 % 16) * 16 + n / 16 % 16) * 16 + n % 16 = n := by
    omega
  simp [hex4, hex4?, hdigit, hvalue]

/-- A character is read as it was written. -/
theorem stringBody?_escapeChar (fuel : Nat) (c : Char) (cs : List Char) :
    stringBody? (fuel + 1) (escapeChar c ++ cs) =
      (stringBody? fuel cs).map fun p => (c :: p.1, p.2) := by
  have hback : ∀ {n : Nat}, c.toNat = n → Char.ofNat n = c := by
    rintro n rfl
    exact Char.ofNat_toNat c
  have hescaped : ∀ {e : List Char}, escape? (e ++ cs) = some (c, cs) →
      stringBody? (fuel + 1) ('\\' :: (e ++ cs)) =
        (stringBody? fuel cs).map fun p => (c :: p.1, p.2) := by
    intro e he
    rw [stringBody?, if_neg (by decide), if_pos rfl, he]
    simp only [Option.bind_eq_bind, Option.bind_some]
    cases stringBody? fuel cs <;> rfl
  unfold escapeChar
  split
  · next h => exact hescaped (e := ['"']) (by rw [h]; rfl)
  split
  · next h => exact hescaped (e := ['\\']) (by rw [h]; rfl)
  split
  · next h => exact hescaped (e := ['b']) (by rw [← hback h]; rfl)
  split
  · next h => exact hescaped (e := ['t']) (by rw [h]; rfl)
  split
  · next h => exact hescaped (e := ['n']) (by rw [h]; rfl)
  split
  · next h => exact hescaped (e := ['f']) (by rw [← hback h]; rfl)
  split
  · next h => exact hescaped (e := ['r']) (by rw [h]; rfl)
  split
  · next h =>
    refine hescaped (e := 'u' :: hex4 c.toNat) ?_
    have hsmall : ¬ (0xDC00 ≤ c.toNat ∧ c.toNat ≤ 0xDFFF) := by omega
    have hsmall' : ¬ (0xD800 ≤ c.toNat ∧ c.toNat ≤ 0xDBFF) := by omega
    rw [List.cons_append, escape?, hex4?_hex4 (by omega)]
    simp [hsmall, hsmall']
  · next hquote hslash _ _ _ _ _ hcontrol =>
    rw [List.singleton_append, stringBody?, if_neg hquote, if_neg hslash, if_neg hcontrol]
    cases stringBody? fuel cs <;> rfl

theorem escapeChar_ne_nil (c : Char) : escapeChar c ≠ [] := by
  unfold escapeChar
  repeat' split
  all_goals exact List.cons_ne_nil _ _

theorem stringBody?_flatMap (s rest : List Char) (fuel : Nat) (hfuel : s.length < fuel) :
    stringBody? fuel (s.flatMap escapeChar ++ '"' :: rest) = some (s, rest) := by
  induction s generalizing fuel with
  | nil =>
    obtain ⟨n, rfl⟩ := Nat.exists_eq_add_one_of_ne_zero (Nat.ne_of_gt hfuel)
    rfl
  | cons c cs ih =>
    obtain ⟨n, rfl⟩ := Nat.exists_eq_add_one_of_ne_zero (Nat.ne_of_gt (Nat.zero_lt_of_lt hfuel))
    rw [List.flatMap_cons, List.append_assoc, stringBody?_escapeChar,
      ih n (Nat.lt_of_succ_lt_succ hfuel)]
    rfl

theorem length_le_flatMap (s : List Char) : s.length ≤ (s.flatMap escapeChar).length := by
  induction s with
  | nil => exact Nat.le_refl 0
  | cons c cs ih =>
    have hpos := List.length_pos_of_ne_nil (escapeChar_ne_nil c)
    rw [List.flatMap_cons, List.length_append, List.length_cons]
    omega

/-- A quoted string is read as it was written. -/
theorem string1?_quoted (s : String) (rest : List Char) :
    string1? (s.toList.flatMap escapeChar ++ '"' :: rest) = some (s, rest) := by
  have hlen := length_le_flatMap s.toList
  unfold string1?
  rw [stringBody?_flatMap]
  · simp
  · rw [List.length_append]
    omega

theorem quote_append (s : String) (rest : List Char) :
    quote escapeChar s ++ rest = '"' :: (s.toList.flatMap escapeChar ++ '"' :: rest) := by
  simp [quote]

/-! ## Numbers -/

/-- What follows a value in a text: nothing, a comma or a closing bracket. -/
def Delimited (rest : List Char) : Prop := ∀ c ∈ rest.head?, c = ',' ∨ c = ']' ∨ c = '\x7d'

theorem delimited_nil : Delimited [] := by simp [Delimited]

/-- The text of the number is read as the number, whatever value it is part of. -/
structure ReadsBack (n : JsonNumber) : Prop where
  starts : ∃ c cs, n.toText.toList = c :: cs ∧ (c = '-' ∨ c.isDigit)
  number : ∀ rest, Delimited rest → number? (n.toText.toList ++ rest) = some (.number n, rest)

theorem not_isDigit_of_delimited {c : Char} {rest : List Char} (h : Delimited (c :: rest)) :
    ¬ c.isDigit := by
  rcases h c rfl with rfl | rfl | rfl <;> decide

theorem digits_append {ds rest : List Char} (hds : ∀ c ∈ ds, c.isDigit) (hrest : Delimited rest) :
    digits (ds ++ rest) = (ds, rest) := by
  have htake : rest.takeWhile Char.isDigit = [] := by
    cases rest with
    | nil => rfl
    | cons c cs => exact List.takeWhile_cons_of_neg (not_isDigit_of_delimited hrest)
  have hdrop : rest.dropWhile Char.isDigit = rest := by
    cases rest with
    | nil => rfl
    | cons c cs => exact List.dropWhile_cons_of_neg (not_isDigit_of_delimited hrest)
  unfold digits
  rw [List.takeWhile_append_of_pos hds, List.dropWhile_append_of_pos hds, htake, hdrop,
    List.append_nil]

theorem isDigit_of_mem_toDigits (n : Nat) : ∀ c ∈ Nat.toDigits 10 n, c.isDigit :=
  fun _ => Nat.isDigit_of_mem_toDigits (by decide) (by decide)

theorem digitsValue_toDigits (n : Nat) : digitsValue (Nat.toDigits 10 n) = n := by
  have hstep : (fun (n : Nat) (c : Char) => n * 10 + (c.toNat - 48)) =
      fun sofar c => 10 * sofar + (c.toNat - '0'.toNat) := by
    funext n c
    rw [Nat.mul_comm]
    rfl
  unfold digitsValue
  rw [hstep]
  exact Nat.ofDigitChars_toDigits (by decide) (by decide)

/-- Only zero is written with a zero in front. -/
theorem head_toDigits_ne_zero (n : Nat) (hn : 0 < n) :
    ∃ c cs, Nat.toDigits 10 n = c :: cs ∧ c ≠ '0' := by
  induction n using Nat.strongRecOn with
  | ind n ih =>
    by_cases hsmall : n < 10
    · refine ⟨_, _, Nat.toDigits_of_lt_base hsmall, fun hzero => ?_⟩
      have hvalue := Nat.toNat_digitChar_of_lt_ten hsmall
      rw [hzero] at hvalue
      have h48 : '0'.toNat = 48 := rfl
      omega
    · obtain ⟨c, cs, hcs, hc⟩ := ih (n / 10) (by omega) (by omega)
      have hlong : Nat.toDigits 10 n = c :: (cs ++ [(n % 10).digitChar]) := by
        rw [Nat.toDigits_of_base_le (by decide) (by omega), hcs]
        rfl
      exact ⟨c, _, hlong, hc⟩

theorem whole?_toDigits (n : Nat) {rest : List Char} (hrest : Delimited rest) :
    whole? (Nat.toDigits 10 n ++ rest) = some (Nat.toDigits 10 n, rest) := by
  rcases Nat.eq_zero_or_pos n with rfl | hn
  · cases rest with
    | nil => rfl
    | cons c cs => exact if_neg (not_isDigit_of_delimited hrest)
  · obtain ⟨c, cs, hcs, hc⟩ := head_toDigits_ne_zero n hn
    have hdigits := digits_append (isDigit_of_mem_toDigits n) hrest
    rw [hcs] at hdigits ⊢
    rw [List.cons_append] at hdigits ⊢
    unfold whole?
    split
    · next r heq => exact absurd (List.cons.inj heq).1 hc
    · rw [hdigits]

theorem fraction?_of_delimited {rest : List Char} (hrest : Delimited rest) :
    fraction? rest = some (none, rest) := by
  unfold fraction?
  split
  · rcases hrest _ rfl with h | h | h <;> exact absurd h (by decide)
  · rfl

theorem power?_of_delimited {rest : List Char} (hrest : Delimited rest) :
    power? rest = some (none, rest) := by
  cases rest with
  | nil => rfl
  | cons c cs =>
    have hc : ¬ (c = 'e' ∨ c = 'E') := by
      rcases hrest c rfl with rfl | rfl | rfl <;> decide
    exact if_neg hc

/-- Digits that end where the rest begins are an integer, if it is not too large. -/
theorem unsigned?_toDigits (negative : Bool) (n : Nat) {rest : List Char}
    (hrest : Delimited rest) :
    unsigned? negative (Nat.toDigits 10 n ++ rest) =
      (integerOf negative (Nat.toDigits 10 n)).map (·, rest) := by
  unfold unsigned?
  rw [whole?_toDigits n hrest]
  simp only [Option.bind_eq_bind, Option.bind_some, fraction?_of_delimited hrest,
    power?_of_delimited hrest]

theorem toList_toText_natCast (n : Nat) :
    (JsonNumber.int n).toText.toList = Nat.toDigits 10 n := by
  rw [JsonNumber.toText, Int.toString_eq_repr]
  exact Nat.toList_repr

theorem toList_toText_neg (n : Nat) :
    (JsonNumber.int (-(n + 1 : Nat))).toText.toList = '-' :: Nat.toDigits 10 (n + 1) := by
  rw [JsonNumber.toText, Int.toString_eq_repr]
  have hrepr : Int.repr (-(n + 1 : Nat)) = "-" ++ Nat.repr (n + 1) := rfl
  rw [hrepr, String.toList_append, Nat.toList_repr]
  rfl

theorem readsBack_natCast {n : Nat} (h : n < wordBound) : ReadsBack (.int n) where
  starts := by
    rw [toList_toText_natCast]
    obtain ⟨c, cs, hcs⟩ := List.exists_cons_of_ne_nil (Nat.toDigits_ne_nil (n := n) (b := 10))
    exact ⟨c, cs, hcs, .inr (isDigit_of_mem_toDigits n c (hcs ▸ List.mem_cons_self))⟩
  number rest hrest := by
    rw [toList_toText_natCast]
    have hread := unsigned?_toDigits false n hrest
    have hvalue : integerOf false (Nat.toDigits 10 n) = some (.number (.int n)) := by
      unfold integerOf
      rw [digitsValue_toDigits]
      exact if_pos h
    rw [hvalue, Option.map_some] at hread
    obtain ⟨c, cs, hcs⟩ := List.exists_cons_of_ne_nil (Nat.toDigits_ne_nil (n := n) (b := 10))
    have hdigit := isDigit_of_mem_toDigits n c (hcs ▸ List.mem_cons_self)
    rw [hcs, List.cons_append] at hread ⊢
    unfold number?
    split
    · next heq =>
      rw [(List.cons.inj heq).1] at hdigit
      exact absurd hdigit (by decide)
    · exact hread

theorem readsBack_neg {n : Nat} (h : n + 1 ≤ Nat.pow 2 63) : ReadsBack (.int (-(n + 1 : Nat))) where
  starts := ⟨'-', _, toList_toText_neg n, .inl rfl⟩
  number rest hrest := by
    rw [toList_toText_neg, List.cons_append]
    have hread := unsigned?_toDigits true (n + 1) hrest
    have hvalue : integerOf true (Nat.toDigits 10 (n + 1)) =
        some (.number (.int (-(n + 1 : Nat)))) := by
      have hfits : 0 < n + 1 ∧ n + 1 ≤ Nat.pow 2 63 := ⟨Nat.succ_pos n, h⟩
      unfold integerOf
      rw [digitsValue_toDigits]
      exact if_pos hfits
    rw [hvalue] at hread
    exact hread

/-- **An integer is read as itself**, if it fits in 64 bits with or without a sign. -/
theorem readsBack_int {n : Int} (hlow : -(Nat.pow 2 63 : Int) ≤ n) (hhigh : n < wordBound) :
    ReadsBack (.int n) := by
  rcases Int.lt_or_le n 0 with hneg | hpos
  · obtain ⟨m, rfl⟩ : ∃ m : Nat, n = -(m + 1 : Nat) := ⟨(-n - 1).toNat, by omega⟩
    exact readsBack_neg (by omega)
  · obtain ⟨m, rfl⟩ := Int.eq_ofNat_of_zero_le hpos
    exact readsBack_natCast (Int.ofNat_lt.1 hhigh)

/-! ## The first character of a text -/

theorem value?_of_ne {c : Char} (harray : c ≠ '[') (hobject : c ≠ '\x7b') (d : Nat)
    (cs : List Char) : value? d (c :: cs) = scalar? (c :: cs) := by
  unfold value?
  split
  · next heq => exact absurd (List.cons.inj heq).1 harray
  · next heq => exact absurd (List.cons.inj heq).1 hobject
  · rfl

theorem value?_of_digit {c : Char} (hc : c = '-' ∨ c.isDigit) (d : Nat) (cs : List Char) :
    value? d (c :: cs) = number? (c :: cs) := by
  have hne : ∀ e : Char, e ≠ '-' → ¬ e.isDigit → c ≠ e := by
    rintro e hminus hdigit rfl
    exact hc.elim hminus hdigit
  rw [value?_of_ne (hne '[' (by decide) (by decide)) (hne '\x7b' (by decide) (by decide))]
  unfold scalar?
  split
  · next heq => exact absurd (List.cons.inj heq).1 (hne 'n' (by decide) (by decide))
  · next heq => exact absurd (List.cons.inj heq).1 (hne 't' (by decide) (by decide))
  · next heq => exact absurd (List.cons.inj heq).1 (hne 'f' (by decide) (by decide))
  · next heq => exact absurd (List.cons.inj heq).1 (hne '"' (by decide) (by decide))
  · rfl

/-- The text of a value begins with a token of its own. -/
theorem write_starts {v : Json} (hv : v.Lawful ReadsBack) (rest : List Char) :
    ∃ c cs, write escapeChar v rest = c :: cs ∧ ¬ isBlank c ∧ c ≠ ']' := by
  rcases v with _ | (_ | _) | n | s | (_ | ⟨x, xs⟩) | (_ | ⟨⟨k, x⟩, ms⟩)
  · exact ⟨'n', _, rfl, by decide, by decide⟩
  · exact ⟨'f', _, rfl, by decide, by decide⟩
  · exact ⟨'t', _, rfl, by decide, by decide⟩
  · obtain ⟨c, cs, hcs, hc⟩ := ReadsBack.starts hv
    have hne : ∀ e : Char, e ≠ '-' → ¬ e.isDigit → c ≠ e := by
      rintro e hminus hdigit rfl
      exact hc.elim hminus hdigit
    refine ⟨c, cs ++ rest, ?_, ?_, hne _ (by decide) (by decide)⟩
    · rw [write, hcs]
      rfl
    · simp only [isBlank, Bool.or_eq_true, beq_iff_eq, not_or]
      exact ⟨⟨⟨hne _ (by decide) (by decide), hne _ (by decide) (by decide)⟩,
        hne _ (by decide) (by decide)⟩, hne _ (by decide) (by decide)⟩
  · exact ⟨'"', _, rfl, by decide, by decide⟩
  · exact ⟨'[', _, rfl, by decide, by decide⟩
  · exact ⟨'[', _, rfl, by decide, by decide⟩
  · exact ⟨'\x7b', _, rfl, by decide, by decide⟩
  · exact ⟨'\x7b', _, rfl, by decide, by decide⟩

theorem skipBlanks_of_not_blank {c : Char} (hc : ¬ isBlank c) (cs : List Char) :
    skipBlanks (c :: cs) = c :: cs :=
  List.dropWhile_cons_of_neg hc

theorem skipBlanks_write {v : Json} (hv : v.Lawful ReadsBack) (rest : List Char) :
    skipBlanks (write escapeChar v rest) = write escapeChar v rest := by
  obtain ⟨c, cs, hcs, hc, -⟩ := write_starts hv rest
  rw [hcs, skipBlanks_of_not_blank hc]

/-! ## How long a text is -/

mutual

theorem length_le_write : (v : Json) → ∀ rest, rest.length ≤ (write escapeChar v rest).length
  | .null, rest => by simp only [write, List.length_append]; omega
  | .bool true, rest => by simp only [write, List.length_append]; omega
  | .bool false, rest => by simp only [write, List.length_append]; omega
  | .number n, rest => by simp only [write, List.length_append]; omega
  | .string s, rest => by simp only [write, List.length_append]; omega
  | .array [], rest => by simp only [write, List.length_cons]; omega
  | .array (x :: xs), rest => by
    have hx := length_le_write x (writeItems escapeChar xs rest)
    have hxs := length_le_writeItems xs rest
    simp only [write, List.length_cons]
    omega
  | .object [], rest => by simp only [write, List.length_cons]; omega
  | .object ((k, x) :: ms), rest => by
    have hx := length_le_write x (writeMembers escapeChar ms rest)
    have hms := length_le_writeMembers ms rest
    simp only [write, List.length_cons, List.length_append]
    omega

theorem length_le_writeItems : (xs : List Json) → ∀ rest,
    xs.length + rest.length ≤ (writeItems escapeChar xs rest).length
  | [], rest => by simp [writeItems]
  | x :: xs, rest => by
    have hx := length_le_write x (writeItems escapeChar xs rest)
    have hxs := length_le_writeItems xs rest
    simp only [writeItems, List.length_cons]
    omega

theorem length_le_writeMembers : (ms : List (String × Json)) → ∀ rest,
    ms.length + rest.length ≤ (writeMembers escapeChar ms rest).length
  | [], rest => by simp [writeMembers]
  | (k, x) :: ms, rest => by
    have hx := length_le_write x (writeMembers escapeChar ms rest)
    have hms := length_le_writeMembers ms rest
    simp only [writeMembers, List.length_cons, List.length_append]
    omega

end

/-! ## Values -/

theorem ofEntries_of_ordered {ms : List (String × Json)} (h : Dict.Ordered ms) :
    ofEntries ms = .object ms := by
  have hnodup : (Dict.keys ms).Nodup := h.increasing_keys.nodup
  have hbuilt : Dict.ofList ms = ms :=
    (Dict.ordered_ofList ms).ext h fun key => by
      rw [Dict.seek?_ofList key hnodup, Dict.find?_eq_seek? key h]
  rw [ofEntries, hbuilt]

/-- What is read within some levels, and then more within them. -/
theorem map_ite_le {α β : Type} (f : α → β) (p : α) (m n d : Nat) :
    (if m ≤ d then (if n ≤ d then some p else none).map f else none) =
      if max m n ≤ d then some (f p) else none := by
  by_cases hmax : max m n ≤ d
  · obtain ⟨hm, hn⟩ := Nat.max_le.1 hmax
    rw [if_pos hm, if_pos hn, if_pos hmax]
    rfl
  · rw [if_neg hmax]
    split
    · next hm =>
      rw [if_neg fun hn => hmax (Nat.max_le.2 ⟨hm, hn⟩)]
      rfl
    · rfl

/-- What is read within some levels, inside one more level. -/
theorem map_ite_succ_le {α β : Type} (f : α → β) (p : α) (m d : Nat) :
    (if m ≤ d then some p else none).map f = if m + 1 ≤ d + 1 then some (f p) else none := by
  by_cases hd : m ≤ d
  · rw [if_pos hd, if_pos (Nat.succ_le_succ hd)]
    rfl
  · rw [if_neg hd, if_neg fun hle => hd (Nat.le_of_succ_le_succ hle)]
    rfl

/-- An array that does not end at once is read item by item. -/
theorem value?_array {d : Nat} {r : List Char} {c : Char} {cs : List Char}
    (hr : skipBlanks r = c :: cs) (hc : c ≠ ']') :
    value? (d + 1) ('[' :: r) =
      (items1? (value? d) ((c :: cs).length + 1) (c :: cs)).map fun p => (.array p.1, p.2) := by
  rw [value?, hr]
  split
  · next heq => exact absurd (List.cons.inj heq).1 hc
  · rfl

/-- An object that does not end at once is read member by member. -/
theorem value?_object {d : Nat} {r : List Char} {c : Char} {cs : List Char}
    (hr : skipBlanks r = c :: cs) (hc : c ≠ '\x7d') :
    value? (d + 1) ('\x7b' :: r) =
      (members1? (value? d) ((c :: cs).length + 1) (c :: cs)).map
        fun p => (ofEntries p.1, p.2) := by
  rw [value?, hr]
  split
  · next heq => exact absurd (List.cons.inj heq).1 hc
  · rfl

/-- The value is read as it was written, within the levels that there are. -/
def Readable (v : Json) : Prop :=
  ∀ (d : Nat) (rest : List Char), Delimited rest →
    value? d (write escapeChar v rest) = if v.depth ≤ d then some (v, rest) else none

/-- An item that is the last one. -/
theorem items1?_last {x : Json} (hlawful : x.Lawful ReadsBack) (hx : x.Readable) (d fuel : Nat)
    (rest : List Char) :
    items1? (value? d) (fuel + 1) (write escapeChar x (']' :: rest)) =
      if x.depth ≤ d then some ([x], rest) else none := by
  have hskip : skipBlanks (']' :: rest) = ']' :: rest := rfl
  rw [items1?, skipBlanks_write hlawful, hx d _ (by simp [Delimited])]
  split
  · simp only [Option.bind_eq_bind, Option.bind_some, hskip]
  · rfl

/-- An item with more items after it. -/
theorem items1?_more {x : Json} (hlawful : x.Lawful ReadsBack) (hx : x.Readable) (d fuel : Nat)
    (rest : List Char) :
    items1? (value? d) (fuel + 1) (write escapeChar x (',' :: rest)) =
      if x.depth ≤ d then (items1? (value? d) fuel rest).map fun p => (x :: p.1, p.2)
      else none := by
  have hskip : skipBlanks (',' :: rest) = ',' :: rest := rfl
  rw [items1?, skipBlanks_write hlawful, hx d _ (by simp [Delimited])]
  split
  · simp only [Option.bind_eq_bind, Option.bind_some, hskip]
    cases items1? (value? d) fuel rest <;> rfl
  · rfl

theorem skipBlanks_quote (k : String) (rest : List Char) :
    skipBlanks (quote escapeChar k ++ rest) =
      '"' :: (k.toList.flatMap escapeChar ++ '"' :: rest) := by
  rw [quote_append]
  rfl

/-- A member that is the last one. -/
theorem members1?_last {x : Json} (hlawful : x.Lawful ReadsBack) (hx : x.Readable) (k : String)
    (d fuel : Nat) (rest : List Char) :
    members1? (value? d) (fuel + 1)
        (quote escapeChar k ++ ':' :: write escapeChar x ('\x7d' :: rest)) =
      if x.depth ≤ d then some ([(k, x)], rest) else none := by
  have hskip : skipBlanks ('\x7d' :: rest) = '\x7d' :: rest := rfl
  have hcolon : ∀ cs, skipBlanks (':' :: cs) = ':' :: cs := fun _ => rfl
  rw [members1?, skipBlanks_quote]
  simp only [string1?_quoted, Option.bind_eq_bind, Option.bind_some, hcolon,
    skipBlanks_write hlawful, hx d ('\x7d' :: rest) (by simp [Delimited])]
  split
  · simp only [Option.bind_some, hskip]
  · rfl

/-- A member with more members after it. -/
theorem members1?_more {x : Json} (hlawful : x.Lawful ReadsBack) (hx : x.Readable) (k : String)
    (d fuel : Nat) (rest : List Char) :
    members1? (value? d) (fuel + 1)
        (quote escapeChar k ++ ':' :: write escapeChar x (',' :: rest)) =
      if x.depth ≤ d then (members1? (value? d) fuel rest).map fun p => ((k, x) :: p.1, p.2)
      else none := by
  have hskip : skipBlanks (',' :: rest) = ',' :: rest := rfl
  have hcolon : ∀ cs, skipBlanks (':' :: cs) = ':' :: cs := fun _ => rfl
  rw [members1?, skipBlanks_quote]
  simp only [string1?_quoted, Option.bind_eq_bind, Option.bind_some, hcolon,
    skipBlanks_write hlawful, hx d (',' :: rest) (by simp [Delimited])]
  split
  · simp only [Option.bind_some, hskip]
    cases members1? (value? d) fuel rest <;> rfl
  · rfl

mutual

/-- **A value is read as it was written**, before whatever follows it, if the levels suffice; if
they do not, the reader fails. -/
theorem value?_write : (v : Json) → v.Lawful ReadsBack → v.Readable
  | .null, _, d, rest, _ => value?_of_ne (by decide) (by decide) d _
  | .bool true, _, d, rest, _ => value?_of_ne (by decide) (by decide) d _
  | .bool false, _, d, rest, _ => value?_of_ne (by decide) (by decide) d _
  | .number n, h, d, rest, hrest => by
    have hread := h.number rest hrest
    have hdepth : (Json.number n).depth ≤ d := Nat.zero_le d
    obtain ⟨c, cs, hcs, hc⟩ := h.starts
    rw [write, if_pos hdepth]
    rw [hcs, List.cons_append] at hread ⊢
    rw [value?_of_digit hc, hread]
  | .string s, _, d, rest, _ => by
    have hdepth : (Json.string s).depth ≤ d := Nat.zero_le d
    have hread : scalar? ('"' :: (s.toList.flatMap escapeChar ++ '"' :: rest)) =
        (string1? (s.toList.flatMap escapeChar ++ '"' :: rest)).map
          fun p => (.string p.1, p.2) := rfl
    rw [write, quote_append, value?_of_ne (by decide) (by decide), if_pos hdepth, hread,
      string1?_quoted]
    rfl
  | .array [], _, d, rest, _ => by
    cases d with
    | zero => rfl
    | succ d => rfl
  | .array (x :: xs), h, d, rest, hrest => by
    cases d with
    | zero => rfl
    | succ d =>
      obtain ⟨c, cs, hcs, -, hc⟩ := write_starts h.1 (writeItems escapeChar xs rest)
      have hskip := skipBlanks_write h.1 (writeItems escapeChar xs rest)
      have hlong : xs.length < (write escapeChar x (writeItems escapeChar xs rest)).length + 1 := by
        have hx := length_le_write x (writeItems escapeChar xs rest)
        have hxs := length_le_writeItems xs rest
        omega
      have hread := items1?_write xs h.2 h.1 (value?_write x h.1) d _ rest hlong
      rw [hcs] at hskip hread
      rw [write, hcs, value?_array hskip hc, hread, depth_array, map_ite_succ_le]
  | .object [], _, d, rest, _ => by
    cases d with
    | zero => rfl
    | succ d => rfl
  | .object ((k, x) :: ms), h, d, rest, hrest => by
    cases d with
    | zero => rfl
    | succ d =>
      let body := quote escapeChar k ++ ':' :: write escapeChar x (writeMembers escapeChar ms rest)
      have hbody : body = '"' :: _ := quote_append k _
      have hskip : skipBlanks body = body := by
        rw [hbody]
        rfl
      have hlong : ms.length < body.length + 1 := by
        have hx := length_le_write x (writeMembers escapeChar ms rest)
        have hms := length_le_writeMembers ms rest
        have hlength : body.length = (quote escapeChar k).length +
            ((write escapeChar x (writeMembers escapeChar ms rest)).length + 1) :=
          List.length_append
        omega
      have hread : members1? (value? d) (body.length + 1) body = _ :=
        members1?_write ms h.2.2 k h.2.1 (value?_write x h.2.1) d _ rest hlong
      have hwrite : write escapeChar (.object ((k, x) :: ms)) rest = '\x7b' :: body := by
        rw [write]
        rfl
      rw [hbody] at hskip hread
      rw [hwrite, hbody, value?_object hskip (by decide), hread, depth_object, map_ite_succ_le,
        ofEntries_of_ordered h.1]

/-- The items of an array are read, and its closing bracket. -/
theorem items1?_write : (xs : List Json) → LawfulItems ReadsBack xs → ∀ {x : Json},
    x.Lawful ReadsBack → x.Readable → ∀ (d fuel : Nat) (rest : List Char), xs.length < fuel →
      items1? (value? d) fuel (write escapeChar x (writeItems escapeChar xs rest)) =
        if itemsDepth (x :: xs) ≤ d then some (x :: xs, rest) else none
  | [], _, x, hlawful, hx, d, fuel, rest, hfuel => by
    obtain ⟨n, rfl⟩ := Nat.exists_eq_add_one_of_ne_zero (Nat.ne_of_gt (Nat.zero_lt_of_lt hfuel))
    have hdepth : itemsDepth [x] = x.depth := Nat.max_zero _
    rw [writeItems, items1?_last hlawful hx, hdepth]
  | y :: ys, h, x, hlawful, hx, d, fuel, rest, hfuel => by
    obtain ⟨n, rfl⟩ := Nat.exists_eq_add_one_of_ne_zero (Nat.ne_of_gt (Nat.zero_lt_of_lt hfuel))
    have hrest := items1?_write ys h.2 h.1 (value?_write y h.1) d n rest
      (Nat.lt_of_succ_lt_succ hfuel)
    have hdepth : itemsDepth (x :: y :: ys) = max x.depth (itemsDepth (y :: ys)) := rfl
    rw [writeItems, items1?_more hlawful hx, hrest, hdepth, map_ite_le]

/-- The members of an object are read, and its closing brace. -/
theorem members1?_write : (ms : List (String × Json)) → LawfulMembers ReadsBack ms →
    ∀ (k : String) {x : Json}, x.Lawful ReadsBack → x.Readable →
      ∀ (d fuel : Nat) (rest : List Char), ms.length < fuel →
        members1? (value? d) fuel
            (quote escapeChar k ++ ':' :: write escapeChar x (writeMembers escapeChar ms rest)) =
          if membersDepth ((k, x) :: ms) ≤ d then some ((k, x) :: ms, rest) else none
  | [], _, k, x, hlawful, hx, d, fuel, rest, hfuel => by
    obtain ⟨n, rfl⟩ := Nat.exists_eq_add_one_of_ne_zero (Nat.ne_of_gt (Nat.zero_lt_of_lt hfuel))
    have hdepth : membersDepth [(k, x)] = x.depth := Nat.max_zero _
    rw [writeMembers, members1?_last hlawful hx, hdepth]
  | (l, y) :: ys, h, k, x, hlawful, hx, d, fuel, rest, hfuel => by
    obtain ⟨n, rfl⟩ := Nat.exists_eq_add_one_of_ne_zero (Nat.ne_of_gt (Nat.zero_lt_of_lt hfuel))
    have hrest := members1?_write ys h.2 l h.1 (value?_write y h.1) d n rest
      (Nat.lt_of_succ_lt_succ hfuel)
    have hwrite : writeMembers escapeChar ((l, y) :: ys) rest =
        ',' :: (quote escapeChar l ++
          ':' :: write escapeChar y (writeMembers escapeChar ys rest)) := rfl
    have hdepth : membersDepth ((k, x) :: (l, y) :: ys) =
        max x.depth (membersDepth ((l, y) :: ys)) := rfl
    rw [hwrite, members1?_more hlawful hx, hrest, hdepth, map_ite_le]

end

/-- **The compact text of a value is read as the value**, unless the value nests too deeply: then it
is not read at all. -/
theorem parse?_toText {v : Json} (hv : v.Lawful ReadsBack) :
    parse? v.toText = if v.depth ≤ maxDepth then some v else none := by
  have htext : v.toText.toList = write escapeChar v [] := String.toList_ofList
  unfold parse? parseWithin?
  rw [htext, skipBlanks_write hv, value?_write v hv maxDepth [] delimited_nil]
  by_cases hdepth : v.depth ≤ maxDepth
  · rw [if_pos hdepth, if_pos hdepth]
    rfl
  · rw [if_neg hdepth, if_neg hdepth]

/-! ## What can be read -/

/-- An integer has 64 bits, with or without a sign. -/
def InRange : JsonNumber → Prop
  | .int n => -(Nat.pow 2 63 : Int) ≤ n ∧ n < wordBound
  | .float _ => True

/-- The value nests in at most as many levels, its objects are in order, and its integers have 64
bits. -/
structure Within (d : Nat) (v : Json) : Prop where
  depth_le : v.depth ≤ d
  lawful : v.Lawful InRange

theorem within_of_floatOf {negative : Bool} {whole fraction : List Char} {exponent : Int}
    {v : Json} (h : floatOf negative whole fraction exponent = some v) (d : Nat) : Within d v := by
  have hfloat : ∃ x, v = .number (.float x) := by
    unfold floatOf at h
    split at h
    · split at h
      · exact nomatch h
      · exact ⟨_, (Option.some.inj h).symm⟩
    · obtain ⟨x, -, hx⟩ := Option.map_eq_some_iff.1 h
      exact ⟨x, hx.symm⟩
  obtain ⟨x, rfl⟩ := hfloat
  exact ⟨Nat.zero_le d, trivial⟩

theorem within_of_integerOf {negative : Bool} {whole : List Char} {v : Json}
    (h : integerOf negative whole = some v) (d : Nat) : Within d v := by
  have hword : (Nat.pow 2 63 : Int) < wordBound := by decide
  unfold integerOf at h
  dsimp only at h
  split at h
  · split at h
    · next hfits =>
      obtain rfl := Option.some.inj h
      refine ⟨Nat.zero_le d, ?_, ?_⟩ <;> omega
    · exact within_of_floatOf h d
  · split at h
    · next hfits =>
      obtain rfl := Option.some.inj h
      refine ⟨Nat.zero_le d, ?_, Int.ofNat_lt.2 hfits⟩
      omega
    · exact within_of_floatOf h d

theorem within_of_unsigned? {negative : Bool} {cs rest : List Char} {v : Json}
    (h : unsigned? negative cs = some (v, rest)) (d : Nat) : Within d v := by
  simp only [unsigned?, Option.bind_eq_bind, Option.bind_eq_some_iff] at h
  obtain ⟨⟨whole, r⟩, -, ⟨fraction, r'⟩, -, ⟨exponent, r''⟩, -, hread⟩ := h
  split at hread
  · obtain ⟨w, hw, hpair⟩ := Option.map_eq_some_iff.1 hread
    obtain rfl := (Prod.mk.inj hpair).1
    exact within_of_integerOf hw d
  · obtain ⟨w, hw, hpair⟩ := Option.map_eq_some_iff.1 hread
    obtain rfl := (Prod.mk.inj hpair).1
    exact within_of_floatOf hw d

theorem within_of_scalar? {cs rest : List Char} {v : Json} (h : scalar? cs = some (v, rest))
    (d : Nat) : Within d v := by
  unfold scalar? at h
  split at h
  · obtain rfl := (Prod.mk.inj (Option.some.inj h)).1
    exact ⟨Nat.zero_le d, trivial⟩
  · obtain rfl := (Prod.mk.inj (Option.some.inj h)).1
    exact ⟨Nat.zero_le d, trivial⟩
  · obtain rfl := (Prod.mk.inj (Option.some.inj h)).1
    exact ⟨Nat.zero_le d, trivial⟩
  · obtain ⟨p, -, hpair⟩ := Option.map_eq_some_iff.1 h
    obtain rfl := (Prod.mk.inj hpair).1
    exact ⟨Nat.zero_le d, trivial⟩
  · unfold number? at h
    split at h
    · exact within_of_unsigned? h d
    · exact within_of_unsigned? h d

section Loops

variable {value : Reader Json} {P : Json → Prop}

/-- What holds of every value that the reader answers holds of the items of an array. -/
theorem forall_of_items1? (hvalue : ∀ {cs v rest}, value cs = some (v, rest) → P v) :
    ∀ {fuel : Nat} {cs : List Char} {xs : List Json} {rest : List Char},
      items1? value fuel cs = some (xs, rest) → ∀ x ∈ xs, P x := by
  intro fuel
  induction fuel with
  | zero =>
    intro cs xs rest h
    exact nomatch h
  | succ fuel ih =>
    intro cs xs rest h
    simp only [items1?, Option.bind_eq_bind, Option.bind_eq_some_iff] at h
    obtain ⟨⟨x, r⟩, hx, hrest⟩ := h
    split at hrest
    · obtain ⟨⟨ys, r'⟩, hys, hpair⟩ := Option.bind_eq_some_iff.1 hrest
      obtain rfl := (Prod.mk.inj (Option.some.inj hpair)).1
      exact List.forall_mem_cons.2 ⟨hvalue hx, ih hys⟩
    · obtain rfl := (Prod.mk.inj (Option.some.inj hrest)).1
      exact List.forall_mem_cons.2 ⟨hvalue hx, List.forall_mem_nil _⟩
    · exact nomatch hrest

/-- What holds of every value that the reader answers holds of the members of an object. -/
theorem forall_of_members1? (hvalue : ∀ {cs v rest}, value cs = some (v, rest) → P v) :
    ∀ {fuel : Nat} {cs : List Char} {ms : List (String × Json)} {rest : List Char},
      members1? value fuel cs = some (ms, rest) → ∀ m ∈ ms, P m.2 := by
  intro fuel
  induction fuel with
  | zero =>
    intro cs ms rest h
    exact nomatch h
  | succ fuel ih =>
    intro cs ms rest h
    simp only [members1?, Option.bind_eq_bind] at h
    split at h
    · obtain ⟨⟨key, r⟩, -, hcolon⟩ := Option.bind_eq_some_iff.1 h
      split at hcolon
      · obtain ⟨⟨x, r'⟩, hx, hrest⟩ := Option.bind_eq_some_iff.1 hcolon
        split at hrest
        · obtain ⟨⟨ns, r''⟩, hns, hpair⟩ := Option.bind_eq_some_iff.1 hrest
          obtain rfl := (Prod.mk.inj (Option.some.inj hpair)).1
          exact List.forall_mem_cons.2 ⟨hvalue hx, ih hns⟩
        · obtain rfl := (Prod.mk.inj (Option.some.inj hrest)).1
          exact List.forall_mem_cons.2 ⟨hvalue hx, List.forall_mem_nil _⟩
        · exact nomatch hrest
      · exact nomatch hcolon
    · exact nomatch h

end Loops

theorem within_array {d : Nat} {xs : List Json} (h : ∀ x ∈ xs, Within d x) :
    Within (d + 1) (.array xs) where
  depth_le := Nat.succ_le_succ (itemsDepth_le_iff.2 fun x hx => (h x hx).depth_le)
  lawful := lawful_array_iff.2 fun x hx => (h x hx).lawful

/-- A key that occurs again takes the later value, and the members are put in order. -/
theorem within_ofEntries {d : Nat} {ms : List (String × Json)} (h : ∀ m ∈ ms, Within d m.2) :
    Within (d + 1) (ofEntries ms) := by
  have hmem := Dict.forall_mem_ofList (P := Within d) h
  exact {
    depth_le := Nat.succ_le_succ (membersDepth_le_iff.2 fun m hm => (hmem m hm).depth_le)
    lawful := lawful_object_iff.2 ⟨Dict.ordered_ofList ms, fun m hm => (hmem m hm).lawful⟩ }

theorem within_of_value? : ∀ {d : Nat} {cs : List Char} {v : Json} {rest : List Char},
    value? d cs = some (v, rest) → Within d v := by
  intro d
  induction d with
  | zero =>
    intro cs v rest h
    unfold value? at h
    split at h
    · exact nomatch h
    · exact nomatch h
    · exact within_of_scalar? h 0
  | succ d ih =>
    intro cs v rest h
    unfold value? at h
    split at h
    · dsimp only at h
      split at h
      · obtain rfl := (Prod.mk.inj (Option.some.inj h)).1
        exact within_array (List.forall_mem_nil _)
      · obtain ⟨⟨xs, r⟩, hxs, hpair⟩ := Option.map_eq_some_iff.1 h
        obtain rfl := (Prod.mk.inj hpair).1
        exact within_array (forall_of_items1? ih hxs)
    · dsimp only at h
      split at h
      · obtain rfl := (Prod.mk.inj (Option.some.inj h)).1
        have hempty : Within (d + 1) (ofEntries []) := within_ofEntries (List.forall_mem_nil _)
        exact hempty
      · obtain ⟨⟨ms, r⟩, hms, hpair⟩ := Option.map_eq_some_iff.1 h
        obtain rfl := (Prod.mk.inj hpair).1
        exact within_ofEntries (forall_of_members1? ih hms)
    · exact within_of_scalar? h (d + 1)

/-- **What was read** nests in as many levels as may be open, its objects are in order, and its
integers have 64 bits. -/
theorem within_of_parse? {text : String} {v : Json} (h : parse? text = some v) :
    Within maxDepth v := by
  unfold parse? parseWithin? at h
  split at h
  · next w rest hread =>
    split at h
    · obtain rfl := Option.some.inj h
      exact within_of_value? hread
    · exact nomatch h
  · exact nomatch h

/-- A number that is no integer is read as itself. -/
def FloatReadsBack (n : JsonNumber) : Prop := ∀ x, n = .float x → ReadsBack n

/-- What was read can be read again, if the numbers in it that are no integers can. -/
theorem lawful_of_parse? {text : String} {v : Json} (h : parse? text = some v)
    (hfloats : v.Lawful FloatReadsBack) : v.Lawful ReadsBack := by
  refine Lawful.mono ?_ v (Lawful.and v (within_of_parse? h).lawful hfloats)
  rintro (n | x) ⟨hrange, hfloat⟩
  · exact readsBack_int hrange.1 hrange.2
  · exact hfloat x rfl

end TrafficLens.Json
