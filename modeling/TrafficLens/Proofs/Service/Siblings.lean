import TrafficLens.Proofs.Path.Variation
import TrafficLens.Proofs.Service.Resolution

/-!
# Traces that differ in their identifiers

Two traces are *siblings* if they differ in nothing that a resolver looks at but the identifiers in
their paths. On a store of inferred endpoints (`MemoryStore.Inferred`) siblings share one endpoint,
whatever else is stored, and the one that comes second makes none (`siblings_share`).

Before the first call the store treats both alike: every pattern matches both or neither
(`accepted_sibling`), and the bypass refuses both or neither (`Bypass.refuses_sibling`). If the first
call makes an endpoint, every stored endpoint that matches has more placeholders
(`numberParams_lt_of_isMatch`), so that the new one is found by the second call; and if its pattern
is too large to match anything, it is found by its template.
-/

namespace TrafficLens

open TrafficLens.Path IdentifierPolicy

/-! ## Inferred endpoints -/

/-- The template of the endpoint is inferred for some path. The other columns may be anything. -/
def Endpoint.Inferred (policy : IdentifierPolicy) (e : Endpoint) : Prop :=
  ∃ path template, policy.infer path = some template ∧ e.path = template.path ∧
    e.pathPattern = template.pattern ∧
    e.numberParams = Int.bmod template.paramCount (Nat.pow 2 32) ∧
    e.isGraphql = template.isGraphql

/-- All stored endpoints are inferred. -/
def MemoryStore.Inferred (policy : IdentifierPolicy) (store : MemoryStore) : Prop :=
  ∀ e ∈ store, e.Inferred policy

/-- The traces differ only in identifiers: they have the same host, the same method but for its
case, and both make endpoints. -/
structure Trace.Siblings (policy : IdentifierPolicy) (a b : Trace) : Prop where
  host : a.host = b.host
  method : a.method.toUpper = b.method.toUpper
  found : a.isNotFound = false
  found_other : b.isNotFound = false
  path_ne : a.path ≠ ""
  path_ne_other : b.path ≠ ""
  varies : policy.Varies a.path b.path

theorem Trace.Siblings.symm {policy : IdentifierPolicy} {a b : Trace}
    (h : Siblings policy a b) : Siblings policy b a :=
  ⟨h.host.symm, h.method.symm, h.found_other, h.found, h.path_ne_other, h.path_ne, h.varies.symm⟩

theorem bmod_of_le {n : Nat} (h : n ≤ Pattern.sizeBound) : Int.bmod n (Nat.pow 2 32) = n := by
  have hpow : Nat.pow 2 32 = 4294967296 := rfl
  rw [Pattern.sizeBound] at h
  rw [hpow]
  exact Int.bmod_eq_of_le (by omega) (by omega)

section

variable {policy : IdentifierPolicy} {e : Endpoint} {store : MemoryStore} {a b : Trace}

/-- A stored endpoint that matches a path has its template or more placeholders than that. -/
theorem numberParams_lt_of_isMatch (he : e.Inferred policy) {path : String} (hpath : path ≠ "")
    (hgraphql : ¬ policy.isGraphql path)
    (hmatch : Pattern.isMatch e.pathPattern (normalize path)) :
    e.path = (policy.template path).path ∨
      ((policy.template path).paramCount : Int) < e.numberParams := by
  obtain ⟨source, template, hinfer, hepath, hpattern, hnumber, -⟩ := he
  obtain ⟨-, rfl⟩ := policy.infer_eq_some_iff.1 hinfer
  rw [hpattern] at hmatch
  rcases paramCount_lt_of_isMatch hpath hgraphql hmatch with heq | hlt
  · exact .inl (hepath.trans (congrArg PathTemplate.path heq))
  · have hcompiles := ((policy.isMatch_normalize_iff hpath).1 hmatch).1
    rw [hnumber, bmod_of_le (policy.paramCount_le_of_compiles source hcompiles)]
    exact .inr (Int.ofNat_lt.2 hlt)

/-- Stored endpoints match siblings alike. -/
theorem isMatch_sibling (he : e.Inferred policy) (h : Trace.Siblings policy a b) :
    Pattern.isMatch e.pathPattern (normalize a.path) =
      Pattern.isMatch e.pathPattern (normalize b.path) := by
  obtain ⟨source, template, hinfer, -, hpattern, -⟩ := he
  obtain ⟨-, rfl⟩ := policy.infer_eq_some_iff.1 hinfer
  rw [hpattern]
  exact h.varies.isMatch_eq h.path_ne h.path_ne_other source

theorem any_zip_of_agrees {slot slot' : String → Bool} {path other : List String}
    (h : Agrees slot slot' path other) (segs : List String) (refused : String → Bool → Bool) :
    (segs.zip path).any (fun s => refused s.1 (slot s.2)) =
      (segs.zip other).any (fun s => refused s.1 (slot' s.2)) := by
  induction h generalizing segs with
  | nil => rw [List.zip_nil_right, List.any_nil, List.any_nil]
  | cons hs _ ih =>
    cases segs with
    | nil => rfl
    | cons s segs => simp only [List.zip_cons_cons, List.any_cons, hs.1, ih]

/-- A bypass refuses an endpoint for both of two siblings or for neither. -/
theorem Bypass.refuses_sibling (h : Trace.Siblings policy a b) (bypass : Bypass) (e : Endpoint) :
    bypass.refuses policy e (normalize a.path) = bypass.refuses policy e (normalize b.path) := by
  cases bypass with
  | never => rfl
  | generated =>
    rw [refuses, refuses, segments_normalize, segments_normalize]
    exact congrArg _ (any_zip_of_agrees h.varies.2.2 _ fun s slot => isPlaceholder s && !slot)

end

/-! ## One call after the other -/

namespace Resolver

variable {r : Resolver} {store : MemoryStore} {a b : Trace}

/-- The same stored endpoint is accepted for siblings. -/
theorem accepted_sibling (hstore : store.Inferred r.policy) (h : Trace.Siblings r.policy a b)
    (host method : String) :
    r.accepted store host method (normalize a.path) =
      r.accepted store host method (normalize b.path) := by
  rw [accepted, accepted, MemoryStore.findMatch_congr fun e he => isMatch_sibling (hstore e he) h]
  refine congrArg (Option.filter · _) (funext fun e => ?_)
  rw [Bypass.refuses_sibling h]

/-- What is answered for a trace that can make an endpoint. -/
theorem answer_of_found (r : Resolver) (store : MemoryStore) (id : Uuid) {trace : Trace}
    (hpath : trace.path ≠ "") (hfound : trace.isNotFound = false) :
    r.answer store id trace =
      match r.accepted store trace.host trace.method.toUpper (normalize trace.path) with
      | some e => (.resolved e false, store)
      | none =>
        made store id trace.host trace.method.toUpper (r.policy.template trace.path) := by
  have hne : normalize trace.path ≠ "" := by simpa using normalize_ne_empty hpath
  have hinfer := r.policy.infer_eq hne
  rw [template_normalize] at hinfer
  rw [answer, hinfer, hfound, normalize_ne_empty hpath]
  rfl

/-- A new endpoint for a path is found for the siblings of its trace. -/
theorem answer_sibling_of_made (hstore : store.Inferred r.policy)
    (h : Trace.Siblings r.policy a b) {id : Uuid} {e : Endpoint}
    (he : e = .ofTemplate id b.host b.method.toUpper (r.policy.template b.path)) (id' : Uuid)
    (hnone : r.accepted store b.host b.method.toUpper (normalize b.path) = none)
    (hfree : store.findExact b.host b.method.toUpper (r.policy.template b.path).path = none) :
    (r.answer (store ++ [e]) id' b).1 = .resolved e false := by
  have hhost : e.host = b.host := by rw [he, Endpoint.ofTemplate]
  have hmethod : e.method = b.method.toUpper := by
    rw [he, Endpoint.ofTemplate]
    exact toUpper_toUpper _
  have hpath : e.path = (r.policy.template b.path).path := by rw [he, Endpoint.ofTemplate]
  have hpattern : e.pathPattern = (r.policy.template b.path).pattern := by
    rw [he, Endpoint.ofTemplate]
  have hunlinked : e.documentGenerated = none := by rw [he, Endpoint.ofTemplate]
  rw [answer_of_found r _ id' h.path_ne_other h.found_other]
  by_cases hmatch : Pattern.isMatch e.pathPattern (normalize b.path)
  · have hcount : e.numberParams = (r.policy.template b.path).paramCount := by
      have hcompiles :=
        ((r.policy.isMatch_normalize_iff h.path_ne_other).1 (hpattern ▸ hmatch)).1
      rw [← bmod_of_le (r.policy.paramCount_le_of_compiles b.path hcompiles), he,
        Endpoint.ofTemplate]
    have hfound := MemoryStore.findMatch_append hhost hmethod hmatch
      fun f hf hfhost hfmethod hfmatch => by
        rw [hcount]
        refine (numberParams_lt_of_isMatch (hstore f hf) h.path_ne_other h.varies.2.1
          hfmatch).resolve_left fun hfpath => ?_
        exact MemoryStore.findExact_eq_none.1 hfree f hf
          (Endpoint.hasKey_iff.2 ⟨hfhost, hfmethod, hfpath⟩)
    have haccepted : r.accepted (store ++ [e]) b.host b.method.toUpper (normalize b.path) =
        some e := by
      rw [accepted, hfound]
      simp [Option.filter, Bypass.refuses_of_unlinked hunlinked]
    rw [haccepted]
  · have haccepted : r.accepted (store ++ [e]) b.host b.method.toUpper (normalize b.path) =
        none := by
      rw [accepted, MemoryStore.findMatch_append_of_not hmatch]
      exact hnone
    have hexact := MemoryStore.findExact_append hfree
      (Endpoint.hasKey_iff.2 ⟨hhost, hmethod, hpath⟩)
    rw [haccepted]
    dsimp only
    rw [made, hexact]

/-- The endpoint that is answered for a trace is answered for its sibling behind it. -/
theorem answer_sibling (hstore : store.Inferred r.policy) (h : Trace.Siblings r.policy a b)
    (id id' : Uuid) :
    ∃ e isNew, (r.answer store id a).1 = .resolved e isNew ∧
      (r.answer (r.answer store id a).2 id' b).1 = .resolved e false := by
  have hsame := accepted_sibling hstore h b.host b.method.toUpper
  rw [answer_of_found r store id h.path_ne h.found, h.host, h.method, hsame,
    h.varies.template_eq]
  cases haccepted : r.accepted store b.host b.method.toUpper (normalize b.path) with
  | some e =>
    refine ⟨e, false, rfl, ?_⟩
    rw [answer_of_found r store id' h.path_ne_other h.found_other, haccepted]
  | none =>
    dsimp only
    rw [made]
    cases hexact : store.findExact b.host b.method.toUpper (r.policy.template b.path).path with
    | some e =>
      refine ⟨e, false, rfl, ?_⟩
      rw [answer_of_found r store id' h.path_ne_other h.found_other, haccepted]
      dsimp only
      rw [made, hexact]
    | none => exact ⟨_, true, rfl, answer_sibling_of_made hstore h rfl id' haccepted hexact⟩

end Resolver

namespace World

/-- The calls answer one endpoint, and the second one does not make it. -/
def Shares (w : World) (first second : Attempt Resolution) : Prop :=
  ∃ e isNew, (rehearse first w).1 = .ok (.resolved e isNew) ∧
    (rehearse second (rehearse first w).2).1 = .ok (.resolved e false)

theorem shares_of_siblings {w : World} (hw : w.faults = {}) {r : Resolver}
    (hr : r.store = .memory) (hstore : w.store.Inferred r.policy) (t : Tenant) {a b : Trace}
    (h : Trace.Siblings r.policy a b) : w.Shares (r.resolve t a) (r.resolve t b) := by
  obtain ⟨supplies, hfirst⟩ := rehearse_resolve hr hw t a
  obtain ⟨_, hsecond⟩ := rehearse_resolve hr
    (w := { w with store := (r.answer w.store (w.freshId 0) a).2, supplies }) hw t b
  obtain ⟨e, isNew, he, he'⟩ := Resolver.answer_sibling hstore h (w.freshId 0) _
  refine ⟨e, isNew, ?_, ?_⟩
  · rw [hfirst, he]
  · rw [hfirst, hsecond, he']

/-- **Siblings share one endpoint**, whichever comes first, on every store of inferred endpoints,
and the second call does not make it. -/
theorem siblings_share {w : World} (hw : w.faults = {}) {r : Resolver} (hr : r.store = .memory)
    (hstore : w.store.Inferred r.policy) (t : Tenant) {a b : Trace}
    (h : Trace.Siblings r.policy a b) :
    w.Shares (r.resolve t a) (r.resolve t b) ∧ w.Shares (r.resolve t b) (r.resolve t a) :=
  ⟨shares_of_siblings hw hr hstore t h, shares_of_siblings hw hr hstore t h.symm⟩

/-- The template of paths of three identifiers. -/
def broadTemplate : PathTemplate :=
  ⟨"/\x7bparam1\x7d/\x7bparam2\x7d/\x7bparam3\x7d", "^/[^/]+/[^/]+/[^/]+(/)*$", 3, false⟩

/-- Its endpoint, with a generated document. -/
def broadEndpoint : Endpoint :=
  { Endpoint.ofTemplate (.ofNat 0) "api.local" "GET" broadTemplate with
    documentName := some "api.local-generated", documentGenerated := some true }

/-- The broad endpoint matches both paths, but it is refused, and the first call makes another. -/
theorem siblings_share_refused :
    let w : World := { blank with store := [broadEndpoint] }
    let r : Resolver := { store := .memory, policy := {}, bypass := .generated }
    let a : Trace := { Trace.bare (.ofNat 1) ⟨0, 0⟩ "api.local" "" "/users/7/posts" 200 with
      method := "get" }
    let b : Trace := { Trace.bare (.ofNat 2) ⟨5, 0⟩ "api.local" "" "users//8/posts/" 500 with
      method := "Get" }
    w.faults = {} ∧ r.store = .memory ∧ w.store.Inferred r.policy ∧ Trace.Siblings r.policy a b ∧
      w.Shares (r.resolve .standard a) (r.resolve .standard b) ∧
        w.Shares (r.resolve .standard b) (r.resolve .standard a) := by
  intro w r a b
  have hstore : w.store.Inferred r.policy := by
    intro e he
    obtain rfl := List.mem_singleton.1 he
    exact ⟨"/1/2/3", broadTemplate, by decide +kernel, rfl, rfl, by decide +kernel, rfl⟩
  have hsiblings : Trace.Siblings r.policy a b := by
    have ha : segments a.path = ["users", "7", "posts"] := by decide +kernel
    have hb : segments b.path = ["users", "8", "posts"] := by decide +kernel
    have hmethod : "get".toUpper = "Get".toUpper := by
      rw [← String.toList_inj, String.toUpper, String.toUpper, String.toList_map,
        String.toList_map]
      decide
    refine ⟨rfl, hmethod, rfl, rfl, by decide, by decide, ?_⟩
    refine ⟨by decide +kernel, by decide +kernel, ?_⟩
    have hseven : IdentifierPolicy.isIdentifier {} "7" = true := by decide +kernel
    have height : IdentifierPolicy.isIdentifier {} "8" = true := by decide +kernel
    rw [Agrees, ha, hb]
    refine .cons ⟨rfl, fun _ => rfl⟩ (.cons ⟨?_, fun h => ?_⟩ (.cons ⟨rfl, fun _ => rfl⟩ .nil))
    · rw [hseven, height]
    · rw [hseven] at h
      cases h
  exact ⟨rfl, rfl, hstore, hsiblings, siblings_share rfl rfl hstore .standard hsiblings⟩

end World

end TrafficLens
