import TrafficLens.Store.Memory

/-!
# What the store in memory finds

The answers of the store, as statements about the endpoints in it: what is found by its pattern is
stored and matches (`of_findMatch`), nothing is found if nothing matches (`findMatch_eq_none`), and
the same for keys. Storing an endpoint is looking for its key first (`insert_eq`).
-/

namespace TrafficLens

namespace MemoryStore

theorem mem_of_fewest {es : List Endpoint} {e : Endpoint} (h : fewest es = some e) : e ∈ es := by
  induction es with
  | nil => cases h
  | cons d rest ih =>
    rw [fewest] at h
    split at h
    · obtain rfl := Option.some.inj h
      exact List.mem_cons_self
    · next best hbest =>
      split at h
      · obtain rfl := Option.some.inj h
        exact List.mem_cons_of_mem _ (ih hbest)
      · obtain rfl := Option.some.inj h
        exact List.mem_cons_self

theorem fewest_eq_none {es : List Endpoint} : fewest es = none ↔ es = [] := by
  cases es with
  | nil => simp [fewest]
  | cons e rest =>
    rw [fewest]
    split
    · simp
    · split <;> simp

/-- An endpoint with fewer placeholders than all others is the one. -/
theorem fewest_append {es : List Endpoint} {e : Endpoint}
    (h : ∀ f ∈ es, e.numberParams < f.numberParams) : fewest (es ++ [e]) = some e := by
  induction es with
  | nil => rfl
  | cons f es ih =>
    obtain ⟨hf, hes⟩ := List.forall_mem_cons.1 h
    rw [List.cons_append, fewest, ih hes]
    exact if_pos hf

theorem numberParams_le_of_fewest {es : List Endpoint} {e f : Endpoint} (h : fewest es = some e)
    (hf : f ∈ es) : e.numberParams ≤ f.numberParams := by
  induction es generalizing e with
  | nil => cases hf
  | cons d rest ih =>
    rw [fewest] at h
    split at h
    · next hrest =>
      obtain rfl := Option.some.inj h
      obtain rfl := fewest_eq_none.1 hrest
      obtain rfl := List.mem_singleton.1 hf
      omega
    · next best hbest =>
      rcases List.mem_cons.1 hf with rfl | hf
      · split at h <;> obtain rfl := Option.some.inj h <;> omega
      · have hle := ih hbest hf
        split at h <;> obtain rfl := Option.some.inj h <;> omega

/-- Of more endpoints, the same one is found as before, or one of the others. -/
theorem of_fewest_append {es fs : List Endpoint} {e : Endpoint} (h : fewest (es ++ fs) = some e) :
    fewest es = some e ∨ e ∈ fs := by
  induction es generalizing e with
  | nil => exact .inr (mem_of_fewest h)
  | cons d rest ih =>
    rw [List.cons_append, fewest] at h
    split at h
    · next hnone =>
      obtain rfl := (List.append_eq_nil_iff.1 (fewest_eq_none.1 hnone)).1
      exact .inl h
    · next best hbest =>
      split at h
      · next hfewer =>
        obtain rfl := Option.some.inj h
        refine (ih hbest).imp_left fun hrest => ?_
        rw [fewest, hrest]
        exact if_pos hfewer
      · next hfewer =>
        refine .inl ?_
        rw [← h, fewest]
        split
        · rfl
        · next b hb =>
          -- `best` is the least of more endpoints than `b` is
          have hle : best.numberParams ≤ b.numberParams :=
            numberParams_le_of_fewest hbest (List.mem_append_left _ (mem_of_fewest hb))
          exact if_neg (by omega)

variable {s : MemoryStore} {host method path : String}

/-- What is found by its pattern is stored, and its pattern matches. -/
theorem of_findMatch {e : Endpoint} (h : s.findMatch host method path = some e) :
    e ∈ s ∧ e.host = host ∧ e.method = method ∧ Pattern.isMatch e.pathPattern path := by
  have hmem := List.mem_filter.1 (mem_of_fewest h)
  simp only [Bool.and_eq_true, beq_iff_eq] at hmem
  exact ⟨hmem.1, hmem.2.1.1, hmem.2.1.2, hmem.2.2⟩

theorem findMatch_eq_none : s.findMatch host method path = none ↔
    ∀ e ∈ s, e.host = host → e.method = method → ¬ Pattern.isMatch e.pathPattern path := by
  simp [findMatch, fewest_eq_none, List.filter_eq_nil_iff]

theorem of_findExact {template : String} {e : Endpoint}
    (h : s.findExact host method template = some e) :
    e ∈ s ∧ e.hasKey host method template := by
  rw [findExact] at h
  have hkey := List.find?_some h
  exact ⟨List.mem_of_find?_eq_some h, hkey⟩

theorem findExact_eq_none {template : String} : s.findExact host method template = none ↔
    ∀ e ∈ s, ¬ e.hasKey host method template := by
  simp [findExact]

/-- Stored endpoints that match two paths alike find the same one for both. -/
theorem findMatch_congr {other : String}
    (h : ∀ e ∈ s, Pattern.isMatch e.pathPattern path = Pattern.isMatch e.pathPattern other) :
    s.findMatch host method path = s.findMatch host method other := by
  rw [findMatch, findMatch]
  refine congrArg fewest (List.filter_congr fun e he => ?_)
  rw [h e he]

/-- A new endpoint that does not match the path is not found. -/
theorem findMatch_append_of_not {e : Endpoint} (h : ¬ Pattern.isMatch e.pathPattern path) :
    MemoryStore.findMatch (s ++ [e]) host method path = s.findMatch host method path := by
  rw [findMatch, findMatch, List.filter_append]
  simp [h]

/-- What is found after more endpoints were stored was found before, or is one of them. -/
theorem of_findMatch_append {more : List Endpoint} {e : Endpoint}
    (h : MemoryStore.findMatch (s ++ more) host method path = some e) :
    s.findMatch host method path = some e ∨ e ∈ more := by
  rw [findMatch, List.filter_append] at h
  exact (of_fewest_append h).imp_right fun he => (List.mem_filter.1 he).1

/-- A new endpoint that matches the path with fewer placeholders than the others is found. -/
theorem findMatch_append {e : Endpoint} (hhost : e.host = host) (hmethod : e.method = method)
    (hmatch : Pattern.isMatch e.pathPattern path)
    (hfewer : ∀ f ∈ s, f.host = host → f.method = method → Pattern.isMatch f.pathPattern path →
      e.numberParams < f.numberParams) :
    MemoryStore.findMatch (s ++ [e]) host method path = some e := by
  rw [findMatch, List.filter_append]
  have hlast : [e].filter (fun f =>
      f.host == host && f.method == method && Pattern.isMatch f.pathPattern path) = [e] := by
    simp [hhost, hmethod, hmatch]
  rw [hlast]
  refine fewest_append fun f hf => ?_
  obtain ⟨hmem, hf⟩ := List.mem_filter.1 hf
  simp only [Bool.and_eq_true, beq_iff_eq] at hf
  exact hfewer f hmem hf.1.1 hf.1.2 hf.2

theorem findExact_append {template : String} {e : Endpoint}
    (hfree : s.findExact host method template = none) (hkey : e.hasKey host method template) :
    MemoryStore.findExact (s ++ [e]) host method template = some e := by
  rw [findExact] at hfree ⊢
  rw [List.find?_append, hfree, Option.none_or]
  exact List.find?_cons_of_pos hkey

/-- An endpoint is stored behind all others, unless its key is taken. -/
theorem insert_eq (s : MemoryStore) (e : Endpoint) :
    s.insert e =
      if s.findExact e.host e.method e.path = none then (.inserted, s ++ [e])
      else (.conflict, s) := by
  rw [insert]
  by_cases h : s.findExact e.host e.method e.path = none
  · rw [if_pos h, if_neg]
    simpa using findExact_eq_none.1 h
  · rw [if_neg h, if_pos]
    simpa [findExact_eq_none] using h

end MemoryStore

end TrafficLens
