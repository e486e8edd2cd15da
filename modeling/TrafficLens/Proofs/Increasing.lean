import TrafficLens.Proofs.Dict

/-!
# Lists in increasing order

A list that increases strictly holds each of its members once, and it is determined by them
(`Increasing.ext`). So two listings that are made by `insertSorted`, whatever was put into them
and how often, are equal as soon as the same things were put into both.
-/

namespace TrafficLens

open Std

variable {κ : Type} [Ord κ]

/-- The members increase strictly. -/
def Increasing (keys : List κ) : Prop := keys.Pairwise fun a b => compare a b = .lt

theorem increasing_nil : Increasing ([] : List κ) := List.Pairwise.nil

/-- The keys of an ordered map are in increasing order. -/
theorem Dict.Ordered.increasing_keys {α : Type} {entries : List (κ × α)}
    (h : Dict.Ordered entries) : Increasing (Dict.keys entries) :=
  Dict.ordered_iff_keys.1 h

namespace Increasing

theorem nodup [ReflOrd κ] {keys : List κ} (h : Increasing keys) : keys.Nodup := by
  refine List.Pairwise.imp (fun {a b} hab => ?_) h
  rintro rfl
  simp at hab

/-- **An increasing list is determined by its members.** -/
theorem ext [TransOrd κ] [LawfulEqOrd κ] : {xs ys : List κ} → Increasing xs → Increasing ys →
    (∀ k, k ∈ xs ↔ k ∈ ys) → xs = ys
  | [], ys, _, _, h => (List.eq_nil_iff_forall_not_mem.2 fun k hk => by simpa using (h k).2 hk).symm
  | x :: xs, [], _, _, h => by simpa using (h x).1 List.mem_cons_self
  | x :: xs, y :: ys, hx, hy, h => by
    obtain ⟨hx, hxs⟩ := List.pairwise_cons.1 hx
    obtain ⟨hy, hys⟩ := List.pairwise_cons.1 hy
    -- the head of each list is a member of the other, and is not above the head there
    have hxy : x = y := by
      rcases List.mem_cons.1 ((h x).1 List.mem_cons_self) with hxy | hxy
      · exact hxy
      · rcases List.mem_cons.1 ((h y).2 List.mem_cons_self) with hyx | hyx
        · exact hyx.symm
        · have hlt : compare x x = .lt := TransCmp.lt_trans (hx y hyx) (hy x hxy)
          simp at hlt
    subst hxy
    have htail : ∀ k, k ∈ xs ↔ k ∈ ys := by
      intro k
      have hk := h k
      rw [List.mem_cons, List.mem_cons] at hk
      constructor
      · intro hmem
        refine (hk.1 (.inr hmem)).resolve_left ?_
        rintro rfl
        simpa using hx k hmem
      · intro hmem
        refine (hk.2 (.inr hmem)).resolve_left ?_
        rintro rfl
        simpa using hy k hmem
    rw [ext hxs hys htail]

end Increasing

/-! ## Inserting -/

theorem mem_insertSorted [LawfulEqOrd κ] {key k : κ} {keys : List κ} :
    k ∈ insertSorted key keys ↔ k = key ∨ k ∈ keys := by
  induction keys with
  | nil => simp [insertSorted]
  | cons a rest ih =>
    unfold insertSorted
    cases h : compare key a with
    | lt => simp
    | eq =>
      obtain rfl := LawfulEqOrd.eq_of_compare h
      simp
    | gt =>
      simp only [List.mem_cons, ih]
      exact or_left_comm

theorem increasing_insertSorted [TransOrd κ] [LawfulEqOrd κ] (key : κ) {keys : List κ}
    (h : Increasing keys) : Increasing (insertSorted key keys) := by
  induction keys with
  | nil => exact List.pairwise_singleton _ _
  | cons a rest ih =>
    obtain ⟨ha, hrest⟩ := List.pairwise_cons.1 h
    unfold insertSorted
    cases hk : compare key a with
    | lt =>
      refine List.pairwise_cons.2 ⟨fun b hb => ?_, h⟩
      rcases List.mem_cons.1 hb with rfl | hb
      · exact hk
      · exact TransCmp.lt_trans hk (ha b hb)
    | eq => exact h
    | gt =>
      refine List.pairwise_cons.2 ⟨fun b hb => ?_, ih hrest⟩
      rcases mem_insertSorted.1 hb with rfl | hb
      · exact OrientedCmp.lt_of_gt hk
      · exact ha b hb

/-! ## Sorting -/

theorem mem_foldl_insertSorted [LawfulEqOrd κ] {k : κ} (keys acc : List κ) :
    k ∈ keys.foldl (fun acc key => insertSorted key acc) acc ↔ k ∈ acc ∨ k ∈ keys := by
  induction keys generalizing acc with
  | nil => simp
  | cons key rest ih =>
    simp only [List.foldl_cons, ih, mem_insertSorted, List.mem_cons, or_assoc]
    exact or_left_comm

@[simp] theorem mem_sortDistinct [LawfulEqOrd κ] {k : κ} {keys : List κ} :
    k ∈ sortDistinct keys ↔ k ∈ keys := by
  simp [sortDistinct, mem_foldl_insertSorted]

theorem increasing_sortDistinct [TransOrd κ] [LawfulEqOrd κ] (keys : List κ) :
    Increasing (sortDistinct keys) := by
  have hfold : ∀ acc, Increasing acc →
      Increasing (keys.foldl (fun acc key => insertSorted key acc) acc) := by
    induction keys with
    | nil => exact fun acc h => h
    | cons key rest ih => exact fun acc h => ih _ (increasing_insertSorted key h)
  exact hfold [] increasing_nil

end TrafficLens
