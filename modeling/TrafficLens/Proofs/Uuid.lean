import TrafficLens.Proofs.Json.Reading
import TrafficLens.Uuid

/-!
# The text of identifiers

An identifier is read back from its text (`parse?_toText`).
-/

namespace TrafficLens.Uuid

theorem length_hexDigits (count n : Nat) : (hexDigits count n).length = count := by
  induction count generalizing n with
  | zero => rfl
  | succ count ih => rw [hexDigits, List.length_append, ih, List.length_singleton]

/-- Only so many digits are written. -/
theorem hexValue?_hexDigits (count n : Nat) :
    hexValue? (hexDigits count n) = some (n % Nat.pow 16 count) := by
  induction count generalizing n with
  | zero => simp [hexDigits, hexValue?, Nat.mod_one]
  | succ count ih =>
    have hlow : n % 16 < 16 := Nat.mod_lt _ (by decide)
    have hpow : n / 16 % Nat.pow 16 count * 16 + n % 16 = n % Nat.pow 16 (count + 1) := by
      rw [show Nat.pow 16 (count + 1) = 16 * Nat.pow 16 count from Nat.mul_comm .., Nat.mod_mul]
      omega
    simp only [hexValue?] at ih ⊢
    rw [hexDigits, List.foldlM_append, ih, Option.bind_eq_bind, Option.bind_some,
      List.foldlM_cons, Json.hexDigit?_digitChar _ hlow]
    exact congrArg some hpow

theorem ofDigits?_hexDigits (u : Uuid) : ofDigits? (hexDigits 32 u.value.val) = some u := by
  have hval : u.value.val % Nat.pow 16 32 = u.value.val :=
    Nat.mod_eq_of_lt (Nat.lt_of_lt_of_eq u.value.isLt (by decide))
  rw [ofDigits?, if_pos (length_hexDigits ..), hexValue?_hexDigits, hval, Option.map_some, ofNat]
  simp only [Nat.mod_eq_of_lt u.value.isLt]

/-- The digits between the hyphens. -/
theorem ofHyphenated?_groups {a b c d e : List Char} (ha : a.length = 8) (hb : b.length = 4)
    (hc : c.length = 4) (hd : d.length = 4) (he : e.length = 12) :
    ofHyphenated? (a ++ '-' :: b ++ '-' :: c ++ '-' :: d ++ '-' :: e) =
      ofDigits? (a ++ b ++ c ++ d ++ e) := by
  simp (disch := omega) [ofHyphenated?, List.drop_append,
    List.drop_of_length_le, List.take_of_length_le, ha, hb, hc, hd, he]

theorem parseChars?_of_length {cs : List Char} (h : cs.length = 36) :
    parseChars? cs = ofHyphenated? cs := by
  simp only [parseChars?, h]

/-- Thirty-two digits are their groups, one behind the other. -/
theorem groups_append {ds : List Char} (h : ds.length = 32) :
    (ds.drop 0).take 8 ++ (ds.drop 8).take 4 ++ (ds.drop 12).take 4 ++ (ds.drop 16).take 4 ++
      (ds.drop 20).take 12 = ds := by
  have hnext : ∀ start len, (ds.drop start).take len ++ ds.drop (start + len) = ds.drop start :=
    fun start len => by rw [← List.drop_drop, List.take_append_drop]
  have hlast : (ds.drop 20).take 12 = ds.drop 20 :=
    List.take_of_length_le (by rw [List.length_drop, h])
  rw [hlast, List.append_assoc, hnext, List.append_assoc, hnext, List.append_assoc, hnext, hnext,
    List.drop_zero]

/-- **An identifier is read back from its text.** -/
theorem parse?_toText (u : Uuid) : parse? u.toText = some u := by
  have hlen := length_hexDigits 32 u.value.val
  have hread := ofDigits?_hexDigits u
  rw [parse?, toText, String.toList_ofList]
  generalize hexDigits 32 u.value.val = ds at hlen hread ⊢
  dsimp only
  rw [parseChars?_of_length (by simp [hlen]),
    ofHyphenated?_groups (by simp [hlen]) (by simp [hlen]) (by simp [hlen]) (by simp [hlen])
      (by simp [hlen]), groups_append hlen, hread]

end TrafficLens.Uuid
