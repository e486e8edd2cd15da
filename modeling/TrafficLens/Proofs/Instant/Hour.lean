import TrafficLens.Instant.Basic

/-!
# The beginning of an hour

Traces from before the current hour are counted and deleted, so the beginning of the hour must not
lie behind the present. It is found from the remainder of the stamp by an hour, and that remainder
is negative before 1970. `excess_eq_emod` says that what is taken off is the remainder of a division
that rounds down, before and after 1970. So what is left is the last whole hour that is not after
the instant (`floorHour_isFloor`). The stamp of that hour itself need not fit in 64 bits.
-/

namespace TrafficLens.Instant

/-- The instant is not inside a leap second. -/
def IsPlain (t : Instant) : Prop := t.nanos < nanosPerSecond

/-- A whole hour of Coordinated Universal Time. -/
def OnHour (t : Instant) : Prop := t.nanos = 0 ∧ t.seconds % 3600 = 0

instance (t : Instant) : Decidable t.IsPlain := inferInstanceAs (Decidable (_ < _))

instance (t : Instant) : Decidable t.OnHour := inferInstanceAs (Decidable (_ ∧ _))

variable {t u : Instant}

/-! ## Stamps -/

theorem ofStamp_eq (n : Int) : ofStamp n = ⟨n / 1000000000, (n % 1000000000).toNat⟩ := by
  have hdiv : n.fdiv nanosPerSecond = n / 1000000000 := Int.fdiv_eq_ediv_of_nonneg n (by decide)
  have hmod : n.fmod nanosPerSecond = n % 1000000000 := Int.fmod_eq_emod_of_nonneg n (by decide)
  rw [ofStamp, hdiv, hmod]

theorem stamp_ofStamp (n : Int) : (ofStamp n).stamp = n := by
  simp only [ofStamp_eq, stamp, nanosPerSecond]
  omega

theorem isPlain_ofStamp (n : Int) : (ofStamp n).IsPlain := by
  simp only [ofStamp_eq, IsPlain, nanosPerSecond]
  omega

/-- Outside leap seconds an instant is determined by its stamp. -/
theorem ofStamp_stamp (h : t.IsPlain) : ofStamp t.stamp = t := by
  obtain ⟨seconds, nanos⟩ := t
  simp only [IsPlain, nanosPerSecond] at h
  simp only [ofStamp_eq, stamp, nanosPerSecond, Instant.mk.injEq]
  omega

/-- Outside leap seconds the order of instants is that of their stamps. -/
theorem isLE_compare_iff (ht : t.IsPlain) (hu : u.IsPlain) :
    (compare t u).isLE ↔ t.stamp ≤ u.stamp := by
  obtain ⟨s, n⟩ := t
  obtain ⟨s', n'⟩ := u
  simp only [IsPlain, nanosPerSecond] at ht hu
  change ((compare s s').then (compare n n')).isLE ↔ _
  simp only [stamp, nanosPerSecond]
  rcases Int.lt_trichotomy s s' with h | h | h
  · rw [Int.compare_eq_lt.2 h]
    simp only [Ordering.lt_then, Ordering.isLE_lt, true_iff]
    omega
  · subst h
    rw [Int.compare_eq_eq.2 rfl, Ordering.eq_then, Nat.isLE_compare]
    omega
  · rw [Int.compare_eq_gt.2 h]
    simp only [Ordering.gt_then, Ordering.isLE_gt, Bool.false_eq_true, false_iff]
    omega

/-! ## Cutting off at multiples of a span -/

/-- **What is cut off** is the remainder of a division that rounds down. -/
theorem excess_eq_emod (stamp : Int) {span : Nat} (h : 0 < span) :
    (excess stamp span : Int) = stamp % span := by
  have hnonneg : 0 ≤ stamp % span := Int.emod_nonneg stamp (by omega)
  have hlt : stamp % span < span := Int.emod_lt_of_pos stamp (by omega)
  have htmod : stamp.tmod span = stamp % span ∨ stamp.tmod span = stamp % span - span := by
    rw [Int.tmod_eq_emod]
    split
    · exact .inl (by simp)
    · exact .inr rfl
  simp only [excess]
  split <;> omega

/-- What is left is the last multiple of the span that is not after the instant. -/
theorem truncate?_eq {span : Nat} (hspan : 0 < span) (hfits : t.fitsStamp) (ht : t.IsPlain) :
    t.truncate? span = some (ofStamp (t.stamp - t.stamp % span)) := by
  have hlate := excess_eq_emod t.stamp hspan
  rw [truncate?, if_pos hfits]
  dsimp only
  split
  · next hzero => rw [← hlate, hzero, Int.natCast_zero, Int.sub_zero, ofStamp_stamp ht]
  · have hplain : ¬ (nanosPerSecond ≤ t.nanos ∧ excess t.stamp span < nanosPerSecond) :=
      fun h => Nat.not_le.2 ht h.1
    rw [subNanos, if_neg hplain, hlate]

/-! ## Whole hours -/

theorem floorHour_eq (hfits : t.fitsStamp) (ht : t.IsPlain) :
    t.floorHour = ofStamp (t.stamp - t.stamp % nanosPerHour) := by
  rw [floorHour, truncate?_eq (by decide) hfits ht]
  rfl

theorem stamp_floorHour (hfits : t.fitsStamp) (ht : t.IsPlain) :
    t.floorHour.stamp = t.stamp - t.stamp % nanosPerHour := by
  rw [floorHour_eq hfits ht, stamp_ofStamp]

theorem isPlain_floorHour (hfits : t.fitsStamp) (ht : t.IsPlain) : t.floorHour.IsPlain := by
  rw [floorHour_eq hfits ht]
  exact isPlain_ofStamp _

/-- Outside leap seconds the whole hours are the instants whose stamps are multiples of an hour. -/
theorem onHour_iff (ht : t.IsPlain) : t.OnHour ↔ t.stamp % nanosPerHour = 0 := by
  simp only [IsPlain, nanosPerSecond] at ht
  simp only [OnHour, stamp, nanosPerHour, nanosPerSecond]
  omega

/-- A whole hour is left alone, whether its stamp fits in 64 bits or not. -/
theorem floorHour_of_onHour (ht : t.OnHour) : t.floorHour = t := by
  have hplain : t.IsPlain := by rw [IsPlain, ht.1]; decide
  by_cases hfits : t.fitsStamp
  · rw [floorHour_eq hfits hplain, (onHour_iff hplain).1 ht, Int.sub_zero, ofStamp_stamp hplain]
  · rw [floorHour, truncate?, if_neg hfits]
    rfl

theorem onHour_floorHour (hfits : t.fitsStamp) (ht : t.IsPlain) : t.floorHour.OnHour := by
  rw [onHour_iff (isPlain_floorHour hfits ht), stamp_floorHour hfits ht]
  simp only [nanosPerHour, nanosPerSecond]
  omega

theorem floorHour_le (hfits : t.fitsStamp) (ht : t.IsPlain) : (compare t.floorHour t).isLE := by
  rw [isLE_compare_iff (isPlain_floorHour hfits ht) ht, stamp_floorHour hfits ht]
  simp only [nanosPerHour, nanosPerSecond]
  omega

theorem stamp_lt_stamp_floorHour_add (hfits : t.fitsStamp) (ht : t.IsPlain) :
    t.stamp < t.floorHour.stamp + nanosPerHour := by
  rw [stamp_floorHour hfits ht]
  simp only [nanosPerHour, nanosPerSecond]
  omega

theorem floorHour_mono (htfits : t.fitsStamp) (ht : t.IsPlain) (hufits : u.fitsStamp)
    (hu : u.IsPlain) (h : (compare t u).isLE) : (compare t.floorHour u.floorHour).isLE := by
  rw [isLE_compare_iff ht hu] at h
  rw [isLE_compare_iff (isPlain_floorHour htfits ht) (isPlain_floorHour hufits hu),
    stamp_floorHour htfits ht, stamp_floorHour hufits hu]
  simp only [nanosPerHour, nanosPerSecond]
  omega

/-- **The beginning of the hour** of an instant outside leap seconds, with a stamp of 64 bits, is a
whole hour that is not after the instant and less than an hour before it. It comes no later for an
earlier instant, and the beginning of an hour is its own. -/
theorem floorHour_isFloor (t : Instant) (hfits : t.fitsStamp) (ht : t.IsPlain) :
    t.floorHour.OnHour ∧ (compare t.floorHour t).isLE ∧
      t.stamp < t.floorHour.stamp + nanosPerHour ∧
      (∀ u : Instant, u.fitsStamp → u.IsPlain → (compare t u).isLE →
        (compare t.floorHour u.floorHour).isLE) ∧
      t.floorHour.floorHour = t.floorHour :=
  ⟨onHour_floorHour hfits ht, floorHour_le hfits ht, stamp_lt_stamp_floorHour_add hfits ht,
    fun _ hufits hu h => floorHour_mono hfits ht hufits hu h,
    floorHour_of_onHour (onHour_floorHour hfits ht)⟩

/-- The first instant with a stamp of 64 bits. -/
def earliest : Instant := ⟨-9223372037, 145224192⟩

/-- The stamp of the beginning of its hour needs more bits. -/
example : earliest.floorHour = ⟨-9223372800, 0⟩ ∧ ¬ earliest.floorHour.fitsStamp := by decide

theorem floorHour_isFloor_earliest :
    earliest.fitsStamp ∧ earliest.IsPlain ∧ earliest.floorHour.OnHour ∧
      (compare earliest.floorHour earliest).isLE ∧
      earliest.stamp < earliest.floorHour.stamp + nanosPerHour ∧
      (∀ u : Instant, u.fitsStamp → u.IsPlain → (compare earliest u).isLE →
        (compare earliest.floorHour u.floorHour).isLE) ∧
      earliest.floorHour.floorHour = earliest.floorHour :=
  ⟨by decide, by decide, floorHour_isFloor earliest (by decide) (by decide)⟩

end TrafficLens.Instant
