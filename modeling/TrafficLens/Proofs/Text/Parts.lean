import Mathlib.Data.List.Infix

/-!
# Taking texts apart

Two texts that were put together are equal only if their parts are, as long as it can be seen where
one part ends: because it is one of some names, none of which begins another
(`append_inj_of_prefixFree`), or because a mark stands there for the last time
(`append_cons_inj_of_last`).
-/

namespace TrafficLens

variable {α β : Type}

/-- A text that begins with one of some names, none of them the beginning of another, begins with
only one. -/
theorem append_inj_of_prefixFree {name : α → List β}
    (hname : ∀ a b, name a <+: name b → a = b) {a b : α} {xs ys : List β}
    (h : name a ++ xs = name b ++ ys) : a = b ∧ xs = ys := by
  have hbegins : name a <+: name b ++ ys := h ▸ List.prefix_append (name a) xs
  obtain rfl : a = b := by
    rcases List.prefix_or_prefix_of_prefix hbegins (List.prefix_append (name b) ys) with hab | hba
    · exact hname a b hab
    · exact (hname b a hba).symm
  exact ⟨rfl, List.append_cancel_left h⟩

/-- A text is cut at its last mark in one way. -/
theorem append_cons_inj_of_last {mark : β} {xs ys xs' ys' : List β}
    (h : xs ++ mark :: ys = xs' ++ mark :: ys') (hys : mark ∉ ys) (hys' : mark ∉ ys') :
    xs = xs' ∧ ys = ys' := by
  rcases List.append_eq_append_iff.1 h with ⟨zs, rfl, hrest⟩ | ⟨zs, rfl, hrest⟩
  · cases zs with
    | nil => exact ⟨by simp, by simpa using hrest⟩
    | cons z zs => exact absurd (by simp [(List.cons.inj hrest).2]) hys
  · cases zs with
    | nil => exact ⟨by simp, by simpa using hrest.symm⟩
    | cons z zs => exact absurd (by simp [(List.cons.inj hrest).2]) hys'

end TrafficLens
