import Mathlib.Data.List.Forall2
import Mathlib.Data.List.Induction
import Mathlib.Data.List.Nodup
import TrafficLens.Dict

/-!
# Looking up in ordered maps

`Dict.alter` walks down a list of entries and stops at the first key that is not smaller than the
one it looks for. `seek?` is the look-up that walks in the same way. The two obey the laws of a
finite map on every list of entries, in order or not (`seek?_alter_self`, `seek?_alter_of_ne`,
`alter_eq_self`), and on entries in strictly increasing order of keys (`Ordered`) the look-up is
`Dict.find?`. An ordered list is determined by its look-ups (`forall₂_of_seek?`, `Ordered.ext`), and
one that is built of entries with different keys holds them all (`seek?_ofList`).
-/

namespace TrafficLens.Dict

open Std

variable {κ α β : Type} [Ord κ]

/-- The value under a key, looked for up to the first key that is not smaller. -/
def seek? (key : κ) : List (κ × α) → Option α
  | [] => none
  | (k, v) :: rest =>
    match compare key k with
    | .lt => none
    | .eq => some v
    | .gt => seek? key rest

/-- The keys increase strictly. -/
def Ordered (entries : List (κ × α)) : Prop :=
  entries.Pairwise fun a b => compare a.1 b.1 = .lt

@[simp] theorem seek?_nil (key : κ) : seek? key ([] : List (κ × α)) = none := rfl

theorem ordered_nil : Ordered ([] : List (κ × α)) := List.Pairwise.nil

/-- Whether entries are in order can be told from their keys. -/
theorem ordered_iff_keys {entries : List (κ × α)} :
    Ordered entries ↔ (keys entries).Pairwise fun a b => compare a b = .lt := by
  rw [keys, List.pairwise_map]
  rfl

theorem Ordered.nodup_keys [TransOrd κ] {entries : List (κ × α)} (h : Ordered entries) :
    (keys entries).Nodup := by
  refine (ordered_iff_keys.1 h).imp ?_
  rintro key _ hlt rfl
  rw [ReflOrd.compare_self] at hlt
  cases hlt

/-! ## Altering one entry -/

theorem seek?_alter_self [LawfulEqOrd κ] (key : κ) (f : Option α → α) (entries : List (κ × α)) :
    seek? key (alter key f entries) = some (f (seek? key entries)) := by
  induction entries with
  | nil => simp [alter, seek?]
  | cons e rest ih =>
    obtain ⟨k, v⟩ := e
    cases h : compare key k with
    | lt => simp [alter, seek?, h]
    | eq => simp [alter, seek?, h]
    | gt => simp [alter, seek?, h, ih]

theorem seek?_alter_of_ne [TransOrd κ] [LawfulEqOrd κ] {key other : κ} (hne : other ≠ key)
    (f : Option α → α) (entries : List (κ × α)) :
    seek? other (alter key f entries) = seek? other entries := by
  have hcmp : compare other key ≠ .eq := fun h => hne (LawfulEqOrd.eq_of_compare h)
  induction entries with
  | nil => cases h : compare other key <;> simp_all [alter, seek?]
  | cons e rest ih =>
    obtain ⟨k, v⟩ := e
    cases hk : compare key k with
    | lt =>
      cases ho : compare other key with
      | lt =>
        have hok : compare other k = .lt := TransCmp.lt_trans ho hk
        simp [alter, seek?, hk, ho, hok]
      | eq => exact absurd ho hcmp
      | gt => simp [alter, seek?, hk, ho]
    | eq =>
      obtain rfl := LawfulEqOrd.eq_of_compare hk
      cases ho : compare other key with
      | lt => simp [alter, seek?, ho]
      | eq => exact absurd ho hcmp
      | gt => simp [alter, seek?, ho]
    | gt => cases ho : compare other k <;> simp [alter, seek?, hk, ho, ih]

/-- An entry that the change leaves alone leaves the map alone. -/
theorem alter_eq_self [LawfulEqOrd κ] {key : κ} {f : Option α → α} {v : α}
    {entries : List (κ × α)} (h : seek? key entries = some v) (hf : f (some v) = v) :
    alter key f entries = entries := by
  induction entries with
  | nil => simp at h
  | cons e rest ih =>
    obtain ⟨k, w⟩ := e
    cases hk : compare key k with
    | lt => simp [seek?, hk] at h
    | eq =>
      obtain rfl := LawfulEqOrd.eq_of_compare hk
      simp only [seek?, hk, Option.some.injEq] at h
      subst h
      simp [alter, hf]
    | gt =>
      simp only [seek?, hk] at h
      simp [alter, hk, ih h]

/-- Two changes of one entry are one change. -/
theorem alter_alter [LawfulEqOrd κ] (key : κ) (f g : Option α → α) (entries : List (κ × α)) :
    alter key g (alter key f entries) = alter key (fun old => g (some (f old))) entries := by
  induction entries with
  | nil => simp [alter]
  | cons e rest ih =>
    obtain ⟨k, v⟩ := e
    cases hk : compare key k with
    | lt => simp [alter, hk]
    | eq => simp [alter, hk]
    | gt => simp [alter, hk, ih]

/-- To change an entry is to store what the change makes of it. -/
theorem alter_eq_insert [LawfulEqOrd κ] (key : κ) (f : Option α → α) (entries : List (κ × α)) :
    alter key f entries = insert key (f (seek? key entries)) entries := by
  unfold insert
  induction entries with
  | nil => rfl
  | cons e rest ih =>
    obtain ⟨k, v⟩ := e
    cases hk : compare key k with
    | lt => simp [alter, seek?, hk]
    | eq => simp [alter, seek?, hk]
    | gt => simp [alter, seek?, hk, ih]

/-- A change under one key leaves the other entries as they are. -/
theorem filter_alter [LawfulEqOrd κ] [DecidableEq κ] (key : κ) (f : Option α → α)
    (entries : List (κ × α)) :
    (alter key f entries).filter (fun e => e.1 ≠ key) = entries.filter fun e => e.1 ≠ key := by
  induction entries with
  | nil => simp [alter]
  | cons e rest ih =>
    obtain ⟨k, v⟩ := e
    cases hc : compare key k with
    | lt => simp [alter, hc]
    | eq =>
      obtain rfl := LawfulEqOrd.eq_of_compare hc
      simp [alter]
    | gt => simp only [alter, hc, List.filter_cons, ih]

/-- A search by equality does not see a change under another key. -/
theorem find?_alter_of_ne [LawfulEqOrd κ] [DecidableEq κ] {key other : κ} (hne : other ≠ key)
    (f : Option α → α) (entries : List (κ × α)) :
    find? other (alter key f entries) = find? other entries := by
  induction entries with
  | nil => simp [alter, find?_cons, Ne.symm hne]
  | cons e rest ih =>
    obtain ⟨k, v⟩ := e
    cases hk : compare key k with
    | lt => simp [alter, hk, find?_cons, Ne.symm hne]
    | eq =>
      obtain rfl := LawfulEqOrd.eq_of_compare hk
      simp [alter, find?_cons, Ne.symm hne]
    | gt => simp [alter, hk, find?_cons, ih]

/-- The keys of an altered map are the old ones and the new one. -/
theorem mem_alter {key : κ} {f : Option α → α} {entries : List (κ × α)} {e : κ × α}
    (h : e ∈ alter key f entries) : e.1 = key ∨ e ∈ entries := by
  induction entries with
  | nil =>
    obtain rfl := List.mem_singleton.1 h
    exact Or.inl rfl
  | cons d rest ih =>
    obtain ⟨k, v⟩ := d
    cases hk : compare key k with
    | lt =>
      simp only [alter, hk, List.mem_cons] at h
      rcases h with rfl | h
      · exact Or.inl rfl
      · exact Or.inr (List.mem_cons.2 h)
    | eq =>
      simp only [alter, hk, List.mem_cons] at h
      rcases h with rfl | h
      · exact Or.inl rfl
      · exact Or.inr (List.mem_cons_of_mem _ h)
    | gt =>
      simp only [alter, hk, List.mem_cons] at h
      rcases h with rfl | h
      · exact Or.inr List.mem_cons_self
      · exact (ih h).imp_right (List.mem_cons_of_mem _)

/-- An entry of an altered map is an old one, or the one that was altered. -/
theorem mem_or_eq_of_mem_alter [LawfulEqOrd κ] {key : κ} {f : Option α → α}
    {entries : List (κ × α)} {e : κ × α} (h : e ∈ alter key f entries) :
    e ∈ entries ∨ ∃ old : Option α, (∀ v ∈ old, (key, v) ∈ entries) ∧ e = (key, f old) := by
  induction entries with
  | nil => exact .inr ⟨none, by simp, List.mem_singleton.1 h⟩
  | cons d rest ih =>
    obtain ⟨k, v⟩ := d
    cases hk : compare key k with
    | lt =>
      simp only [alter, hk, List.mem_cons] at h
      rcases h with rfl | h
      · exact .inr ⟨none, by simp, rfl⟩
      · exact .inl (List.mem_cons.2 h)
    | eq =>
      obtain rfl := LawfulEqOrd.eq_of_compare hk
      simp only [alter, hk, List.mem_cons] at h
      rcases h with rfl | h
      · exact .inr ⟨some v, by simp, rfl⟩
      · exact .inl (List.mem_cons_of_mem _ h)
    | gt =>
      simp only [alter, hk, List.mem_cons] at h
      rcases h with rfl | h
      · exact .inl List.mem_cons_self
      · rcases ih h with h | ⟨old, hold, rfl⟩
        · exact .inl (List.mem_cons_of_mem _ h)
        · exact .inr ⟨old, fun w hw => List.mem_cons_of_mem _ (hold w hw), rfl⟩

theorem ordered_alter [TransOrd κ] [LawfulEqOrd κ] (key : κ) (f : Option α → α)
    {entries : List (κ × α)} (h : Ordered entries) : Ordered (alter key f entries) := by
  induction entries with
  | nil => exact List.pairwise_singleton _ _
  | cons e rest ih =>
    obtain ⟨k, v⟩ := e
    obtain ⟨hv, hrest⟩ := List.pairwise_cons.1 h
    cases hk : compare key k with
    | lt =>
      simp only [alter, hk]
      refine List.pairwise_cons.2 ⟨fun d hd => ?_, h⟩
      rcases List.mem_cons.1 hd with rfl | hd
      · exact hk
      · exact TransCmp.lt_trans hk (hv d hd)
    | eq =>
      obtain rfl := LawfulEqOrd.eq_of_compare hk
      simp only [alter, hk]
      exact List.pairwise_cons.2 ⟨hv, hrest⟩
    | gt =>
      simp only [alter, hk]
      refine List.pairwise_cons.2 ⟨fun d hd => ?_, ih hrest⟩
      rcases mem_alter hd with hd | hd
      · rw [hd]
        exact OrientedCmp.lt_of_gt hk
      · exact hv d hd

/-! ## Ordered entries -/

/-- A key below all others is not found. -/
theorem seek?_eq_none {key : κ} {entries : List (κ × α)}
    (h : ∀ e ∈ entries, compare key e.1 = .lt) : seek? key entries = none := by
  cases entries with
  | nil => rfl
  | cons e rest => simp [seek?, h e List.mem_cons_self]

/-- What is sought and found is what a search by equality finds. -/
theorem find?_of_seek? [LawfulEqOrd κ] [DecidableEq κ] {key : κ} {v : α} {entries : List (κ × α)}
    (h : seek? key entries = some v) : find? key entries = some v := by
  induction entries with
  | nil => simp at h
  | cons e rest ih =>
    obtain ⟨k, w⟩ := e
    cases hk : compare key k with
    | lt => simp [seek?, hk] at h
    | eq =>
      obtain rfl := LawfulEqOrd.eq_of_compare hk
      simpa [seek?, find?_cons, hk] using h
    | gt =>
      have hne : k ≠ key := by
        rintro rfl
        simp at hk
      simp only [seek?, hk] at h
      rw [find?_cons, if_neg hne, ih h]

/-- An entry that is found by its key is an entry of the map. -/
theorem mem_of_seek? [LawfulEqOrd κ] {key : κ} {v : α} {entries : List (κ × α)}
    (h : seek? key entries = some v) : (key, v) ∈ entries := by
  classical
  exact mem_of_find? (find?_of_seek? h)

theorem find?_eq_seek? [TransOrd κ] [LawfulEqOrd κ] [DecidableEq κ] (key : κ)
    {entries : List (κ × α)} (h : Ordered entries) : find? key entries = seek? key entries := by
  induction entries with
  | nil => rfl
  | cons e rest ih =>
    obtain ⟨k, w⟩ := e
    obtain ⟨hk, hrest⟩ := List.pairwise_cons.1 h
    cases hc : compare key k with
    | lt =>
      have hne : k ≠ key := by
        rintro rfl
        simp at hc
      rw [find?_cons, if_neg hne, ih hrest]
      simpa [seek?, hc] using seek?_eq_none fun d hd => TransCmp.lt_trans hc (hk d hd)
    | eq =>
      obtain rfl := LawfulEqOrd.eq_of_compare hc
      simp [find?_cons, seek?]
    | gt =>
      have hne : k ≠ key := by
        rintro rfl
        simp at hc
      simp [find?_cons, if_neg hne, ih hrest, seek?, hc]

/-- The look-up of the rest is that of the whole list, except for the first key. -/
theorem seek?_tail [TransOrd κ] [LawfulEqOrd κ] {k key : κ} {v : α} {rest : List (κ × α)}
    (h : Ordered ((k, v) :: rest)) :
    seek? key rest = if compare key k = .gt then seek? key ((k, v) :: rest) else none := by
  obtain ⟨hk, -⟩ := List.pairwise_cons.1 h
  cases hc : compare key k with
  | lt => simpa using seek?_eq_none fun d hd => TransCmp.lt_trans hc (hk d hd)
  | eq =>
    obtain rfl := LawfulEqOrd.eq_of_compare hc
    simpa using seek?_eq_none hk
  | gt => simp [seek?, hc]

/-- **An ordered map is determined by its look-ups**: maps whose look-ups are related have the same
keys, with related values. -/
theorem forall₂_of_seek? [TransOrd κ] [LawfulEqOrd κ] {R : α → β → Prop} :
    {xs : List (κ × α)} → {ys : List (κ × β)} → Ordered xs → Ordered ys →
    (∀ key v, seek? key xs = some v → ∃ w, seek? key ys = some w ∧ R v w) →
    (∀ key w, seek? key ys = some w → ∃ v, seek? key xs = some v) →
    List.Forall₂ (fun a b => a.1 = b.1 ∧ R a.2 b.2) xs ys
  | [], [], _, _, _, _ => .nil
  | [], (l, w) :: ys, _, _, _, hr => by
    obtain ⟨v, hv⟩ := hr l w (by simp [seek?])
    simp at hv
  | (k, v) :: xs, [], _, _, hl, _ => by
    obtain ⟨w, hw, -⟩ := hl k v (by simp [seek?])
    simp at hw
  | (k, v) :: xs, (l, w) :: ys, hx, hy, hl, hr => by
    obtain ⟨w', hw', hR⟩ := hl k v (by simp [seek?])
    obtain ⟨v', hv'⟩ := hr l w (by simp [seek?])
    -- the first key of either list occurs in the other one, so neither is the smaller
    have hkl : compare k l = .eq := by
      cases hc : compare k l with
      | lt => simp [seek?, hc] at hw'
      | eq => rfl
      | gt =>
        have hlk : compare l k = .lt := OrientedCmp.lt_of_gt hc
        simp [seek?, hlk] at hv'
    obtain rfl := LawfulEqOrd.eq_of_compare hkl
    simp only [seek?, hkl, Option.some.injEq] at hw'
    subst hw'
    refine .cons ⟨rfl, hR⟩ (forall₂_of_seek? (List.pairwise_cons.1 hx).2
      (List.pairwise_cons.1 hy).2 (fun key a ha => ?_) (fun key b hb => ?_))
    · rw [seek?_tail hx] at ha
      rw [seek?_tail hy]
      split at ha
      · next hg => simpa [hg] using hl key a ha
      · cases ha
    · rw [seek?_tail hy] at hb
      rw [seek?_tail hx]
      split at hb
      · next hg => simpa [hg] using hr key b hb
      · cases hb

/-! ## Maps that are built entry by entry -/

/-- **Ordered maps with the same look-ups are equal.** -/
theorem Ordered.ext [TransOrd κ] [LawfulEqOrd κ] {xs ys : List (κ × α)} (hx : Ordered xs)
    (hy : Ordered ys) (h : ∀ key, seek? key xs = seek? key ys) : xs = ys := by
  have hall : List.Forall₂ (fun a b : κ × α => a.1 = b.1 ∧ a.2 = b.2) xs ys :=
    forall₂_of_seek? hx hy (fun key v hv => ⟨v, (h key).symm.trans hv, rfl⟩)
      fun key w hw => ⟨w, (h key).trans hw⟩
  have heq : List.Forall₂ (fun a b : κ × α => a = b) xs ys :=
    hall.imp fun a b hab => Prod.ext hab.1 hab.2
  rwa [List.forall₂_eq_eq_eq] at heq

/-- The entries of an ordered map are its look-ups. -/
theorem Ordered.mem_iff [TransOrd κ] [LawfulEqOrd κ] {entries : List (κ × α)}
    (h : Ordered entries) {key : κ} {v : α} : (key, v) ∈ entries ↔ seek? key entries = some v := by
  induction entries with
  | nil => simp
  | cons e rest ih =>
    obtain ⟨k, w⟩ := e
    obtain ⟨hk, hrest⟩ := List.pairwise_cons.1 h
    have htail := ih hrest
    rw [List.mem_cons, htail, Prod.mk.injEq]
    cases hc : compare key k with
    | lt =>
      have hne : key ≠ k := by
        rintro rfl
        simp at hc
      have hnone : seek? key rest = none := seek?_eq_none fun d hd => TransCmp.lt_trans hc (hk d hd)
      simp [seek?, hc, hne, hnone]
    | eq =>
      obtain rfl := LawfulEqOrd.eq_of_compare hc
      have hnone : seek? key rest = none := seek?_eq_none hk
      simp [seek?, hnone, eq_comm]
    | gt =>
      have hne : key ≠ k := by
        rintro rfl
        simp at hc
      simp [seek?, hc, hne]

theorem mem_keys_alter [LawfulEqOrd κ] {key k : κ} (f : Option α → α) (entries : List (κ × α)) :
    k ∈ keys (alter key f entries) ↔ k = key ∨ k ∈ keys entries := by
  induction entries with
  | nil => simp [alter, keys]
  | cons e rest ih =>
    obtain ⟨l, v⟩ := e
    unfold keys at ih ⊢
    cases hc : compare key l with
    | lt => simp [alter, hc]
    | eq =>
      obtain rfl := LawfulEqOrd.eq_of_compare hc
      simp [alter]
    | gt =>
      simp only [alter, hc, List.map_cons, List.mem_cons, ih]
      exact or_left_comm

/-- A property of all values is kept if the change keeps it. -/
theorem forall_mem_alter {P : α → Prop} {key : κ} {f : Option α → α} {entries : List (κ × α)}
    (h : ∀ e ∈ entries, P e.2) (hf : ∀ old : Option α, (∀ v ∈ old, P v) → P (f old)) :
    ∀ e ∈ alter key f entries, P e.2 := by
  have hnone : P (f none) := hf none fun v hv => by cases hv
  induction entries with
  | nil => simpa [alter] using hnone
  | cons d rest ih =>
    obtain ⟨k, v⟩ := d
    obtain ⟨hv, hrest⟩ := List.forall_mem_cons.1 h
    cases hc : compare key k with
    | lt =>
      simp only [alter, hc]
      exact List.forall_mem_cons.2 ⟨hnone, h⟩
    | eq =>
      have hsome : P (f (some v)) := hf (some v) fun w hw => Option.some.inj hw ▸ hv
      simp only [alter, hc]
      exact List.forall_mem_cons.2 ⟨hsome, hrest⟩
    | gt =>
      simp only [alter, hc]
      exact List.forall_mem_cons.2 ⟨hv, ih hrest⟩

theorem ordered_insert [TransOrd κ] [LawfulEqOrd κ] (key : κ) (v : α) {entries : List (κ × α)}
    (h : Ordered entries) : Ordered (insert key v entries) :=
  ordered_alter key _ h

theorem seek?_insert [TransOrd κ] [LawfulEqOrd κ] [DecidableEq κ] (key k : κ) (v : α)
    (entries : List (κ × α)) :
    seek? k (insert key v entries) = if k = key then some v else seek? k entries := by
  split
  · next hk => rw [hk, insert, seek?_alter_self]
  · next hk => rw [insert, seek?_alter_of_ne hk]

omit [Ord κ] in
theorem find?_append [DecidableEq κ] (key : κ) (xs ys : List (κ × α)) :
    find? key (xs ++ ys) = (find? key xs).or (find? key ys) := by
  induction xs with
  | nil => rfl
  | cons e rest ih =>
    obtain ⟨k, v⟩ := e
    rw [List.cons_append, find?_cons, find?_cons, ih]
    split <;> rfl

omit [Ord κ] in
theorem find?_eq_none_iff [DecidableEq κ] {key : κ} {entries : List (κ × α)} :
    find? key entries = none ↔ key ∉ keys entries := by
  induction entries with
  | nil => simp [keys]
  | cons e rest ih =>
    obtain ⟨k, v⟩ := e
    unfold keys at ih ⊢
    rw [find?_cons, List.map_cons, List.mem_cons, not_or, ← ih]
    split
    · next hk => simp [hk]
    · next hk => simp [Ne.symm hk]

omit [Ord κ] in
theorem find?_of_mem [DecidableEq κ] {key : κ} {v : α} {entries : List (κ × α)}
    (h : (keys entries).Nodup) (hmem : (key, v) ∈ entries) : find? key entries = some v := by
  induction entries with
  | nil => cases hmem
  | cons e rest ih =>
    obtain ⟨k, w⟩ := e
    obtain ⟨hk, hrest⟩ := List.nodup_cons.1 h
    rw [find?_cons]
    rcases List.mem_cons.1 hmem with heq | hmem
    · obtain ⟨rfl, rfl⟩ := Prod.mk.inj heq
      exact if_pos rfl
    · have hkey : key ∈ rest.map Prod.fst := List.mem_map_of_mem hmem
      have hne : k ≠ key := fun he => hk (he ▸ hkey)
      rw [if_neg hne, ih hrest hmem]

theorem ofList_append_singleton (entries : List (κ × α)) (e : κ × α) :
    ofList (entries ++ [e]) = insert e.1 e.2 (ofList entries) := by
  rw [ofList, List.foldl_append]
  rfl

theorem ordered_ofList [TransOrd κ] [LawfulEqOrd κ] (entries : List (κ × α)) :
    Ordered (ofList entries) := by
  induction entries using List.reverseRecOn with
  | nil => exact ordered_nil
  | append_singleton entries e ih =>
    rw [ofList_append_singleton]
    exact ordered_insert _ _ ih

theorem mem_keys_ofList [LawfulEqOrd κ] {key : κ} (entries : List (κ × α)) :
    key ∈ keys (ofList entries) ↔ key ∈ keys entries := by
  induction entries using List.reverseRecOn with
  | nil => rfl
  | append_singleton entries e ih =>
    rw [ofList_append_singleton, insert, mem_keys_alter, ih]
    simp [keys, or_comm]

theorem forall_mem_ofList {P : α → Prop} {entries : List (κ × α)} (h : ∀ e ∈ entries, P e.2) :
    ∀ e ∈ ofList entries, P e.2 := by
  induction entries using List.reverseRecOn with
  | nil => exact List.forall_mem_nil _
  | append_singleton entries e ih =>
    obtain ⟨hentries, he⟩ := List.forall_mem_append.1 h
    rw [ofList_append_singleton]
    exact forall_mem_alter (ih hentries) fun _ _ => he e List.mem_cons_self

/-- A map that is built of entries holds no others. -/
theorem mem_of_mem_ofList [TransOrd κ] [LawfulEqOrd κ] [DecidableEq κ] {entries : List (κ × α)}
    {e : κ × α} (h : e ∈ ofList entries) : e ∈ entries := by
  induction entries using List.reverseRecOn with
  | nil => exact h
  | append_singleton entries d ih =>
    obtain ⟨k, v⟩ := e
    rw [(ordered_ofList _).mem_iff, ofList_append_singleton, seek?_insert] at h
    split at h
    · next hk =>
      obtain rfl := Option.some.inj h
      subst hk
      exact List.mem_append_right _ List.mem_cons_self
    · exact List.mem_append_left _ (ih ((ordered_ofList _).mem_iff.2 h))

/-- A map that is built of entries with different keys holds them all. -/
theorem seek?_ofList [TransOrd κ] [LawfulEqOrd κ] [DecidableEq κ] (key : κ)
    {entries : List (κ × α)} (h : (keys entries).Nodup) :
    seek? key (ofList entries) = find? key entries := by
  induction entries using List.reverseRecOn with
  | nil => rfl
  | append_singleton entries e ih =>
    obtain ⟨k, v⟩ := e
    rw [keys, List.map_append, List.nodup_append] at h
    obtain ⟨hnd, -, hdis⟩ := h
    rw [ofList_append_singleton, seek?_insert, ih hnd, find?_append, find?_cons]
    split
    · next hk =>
      have hnot : find? key entries = none := by
        rw [find?_eq_none_iff]
        intro hmem
        exact hdis key hmem k (by simp) hk
      rw [hnot, if_pos hk.symm]
      rfl
    · next hk => simp [Ne.symm hk]

theorem mem_ofList_of_mem [TransOrd κ] [LawfulEqOrd κ] [DecidableEq κ] {key : κ} {v : α}
    {entries : List (κ × α)} (h : (keys entries).Nodup) (hmem : (key, v) ∈ entries) :
    (key, v) ∈ ofList entries := by
  rw [(ordered_ofList entries).mem_iff, seek?_ofList key h]
  exact find?_of_mem h hmem

/-- A map that is built of entries with different keys is a rearrangement of them. -/
theorem perm_ofList [TransOrd κ] [LawfulEqOrd κ] [DecidableEq κ] {entries : List (κ × α)}
    (h : (keys entries).Nodup) : (ofList entries).Perm entries := by
  have hbuilt : (ofList entries).Nodup := List.Nodup.of_map _ (ordered_ofList entries).nodup_keys
  refine (List.perm_ext_iff_of_nodup hbuilt (List.Nodup.of_map _ h)).2 fun e => ?_
  exact ⟨mem_of_mem_ofList, mem_ofList_of_mem h⟩

end TrafficLens.Dict
