import TrafficLens.Proofs.Path.Inference
import TrafficLens.Proofs.Program.Rehearsal
import TrafficLens.Proofs.Store.Memory
import TrafficLens.Service.Resolution

/-!
# What a resolver answers

With its endpoints in memory, a resolver is a function of the store, of a fresh identifier and of
the trace (`Resolver.answer`, `rehearse_resolve`), and everything that is said about runs of calls
goes through that function.

The endpoint that is answered has the host and the method of the trace, but its pattern need not
match the path. It does if the endpoint was found by its pattern, or if it was made for the path and
its pattern is not too large. It does not if somebody holds the template already: templates are
told apart by their text, and a segment that is spelled like a placeholder has the text of one
without its pattern (`resolved_matches_iff`).
-/

namespace TrafficLens

/-! ## Methods -/

theorem toUpper_toUpper_char (c : Char) : c.toUpper.toUpper = c.toUpper := by
  unfold Char.toUpper
  split
  · next h =>
    refine dif_neg fun h' => ?_
    have hsum : 'a'.val ≤ c.val + ('A'.val - 'a'.val) := h'.1
    have hlower : 'a'.val ≤ c.val := h.1
    have hupper : c.val ≤ 'z'.val := h.2
    rw [UInt32.le_iff_toNat_le] at hsum hlower hupper
    rw [UInt32.toNat_add] at hsum
    simp only [Char.reduceVal, UInt32.reduceSub, UInt32.reduceToNat] at hsum hlower hupper
    omega
  · rfl

theorem toUpper_toUpper (s : String) : s.toUpper.toUpper = s.toUpper := by
  have h : Char.toUpper ∘ Char.toUpper = Char.toUpper := funext toUpper_toUpper_char
  rw [String.toUpper, String.toUpper, String.map_map, h]

/-! ## One call -/

/-- The stored endpoint that a path gets, if the bypass accepts it. -/
def Resolver.accepted (r : Resolver) (store : MemoryStore) (host method path : String) :
    Option Endpoint :=
  (store.findMatch host method path).filter fun e => !r.bypass.refuses r.policy e path

/-- The endpoint of a template: the stored one with its text, or a new one. -/
def Resolver.made (store : MemoryStore) (id : Uuid) (host method : String)
    (template : PathTemplate) : Resolution × MemoryStore :=
  match store.findExact host method template.path with
  | some e => (.resolved e false, store)
  | none =>
    (.resolved (.ofTemplate id host method template) true,
      store ++ [.ofTemplate id host method template])

/-- What is answered for a trace, and the store behind it. -/
def Resolver.answer (r : Resolver) (store : MemoryStore) (id : Uuid) (trace : Trace) :
    Resolution × MemoryStore :=
  let path := Path.normalize trace.path
  let method := trace.method.toUpper
  if path.isEmpty then (.unresolvable, store)
  else
    match r.accepted store trace.host method path with
    | some e => (.resolved e false, store)
    | none =>
      if trace.isNotFound then (.unresolvable, store)
      else
        match r.policy.infer path with
        | some template => made store id trace.host method template
        | none => (.unresolvable, store)

namespace World

open EndpointStore

variable {w : World} {r : Resolver}

theorem rehearse_find (hr : r.store = .memory) (hw : w.faults = {}) (t : Tenant)
    (host method path : String) :
    rehearse (r.find t host method path) w = (.ok (r.accepted w.store host method path), w) := by
  rw [Resolver.find, hr, rehearse_bind_of_ok (rehearse_findMatch hw t host method path)]
  rfl

theorem rehearse_create (hr : r.store = .memory) (hw : w.faults = {}) (t : Tenant)
    (host method : String) (template : PathTemplate) :
    rehearse (r.create t host method.toUpper template) w =
      (.ok (Resolver.made w.store (w.freshId 0) host method.toUpper template).1,
        { w with store := (Resolver.made w.store (w.freshId 0) host method.toUpper template).2,
                 supplies := w.supplies + 1 }) := by
  let endpoint := Endpoint.ofTemplate (w.freshId 0) host method.toUpper template
  let next : World := { w with supplies := w.supplies + 1 }
  have hnext : next.faults = {} := hw
  -- the method of the new endpoint is put in upper case once more
  have hmethod : endpoint.method = method.toUpper := toUpper_toUpper method
  have hkey : w.store.insert endpoint =
      if w.store.findExact host method.toUpper template.path = none
        then (.inserted, w.store ++ [endpoint]) else (.conflict, w.store) := by
    rw [MemoryStore.insert_eq, hmethod]
    rfl
  have hinsert : rehearse (EndpointStore.memory.insert t endpoint).outcome next =
      (.ok (.ok (w.store.insert endpoint).1),
        { next with store := (w.store.insert endpoint).2 }) := by
    rw [rehearse_outcome, rehearse_insert hnext]
  rw [Resolver.create, hr, rehearse_bind_of_ok (rehearse_freshIds w)]
  refine (rehearse_bind_of_ok hinsert _).trans ?_
  rw [hkey, Resolver.made]
  cases hfound : w.store.findExact host method.toUpper template.path with
  | none => rfl
  | some e =>
    have hexact :
        rehearse (EndpointStore.memory.findExact t host method.toUpper template.path) next =
          (.ok (some e), next) := by
      rw [rehearse_findExact hnext, ← hfound]
    exact rehearse_bind_of_ok hexact _

/-- **A resolver is a function of the store**, of a fresh identifier and of the trace. -/
theorem rehearse_resolve (hr : r.store = .memory) (hw : w.faults = {}) (t : Tenant)
    (trace : Trace) :
    ∃ supplies, rehearse (r.resolve t trace) w =
      (.ok (r.answer w.store (w.freshId 0) trace).1,
        { w with store := (r.answer w.store (w.freshId 0) trace).2, supplies }) := by
  rw [Resolver.resolve, Resolver.answer]
  split
  · exact ⟨w.supplies, rfl⟩
  rw [rehearse_bind_of_ok (rehearse_find hr hw t trace.host trace.method.toUpper _)]
  cases r.accepted w.store trace.host trace.method.toUpper (Path.normalize trace.path) with
  | some e => exact ⟨w.supplies, rfl⟩
  | none =>
    dsimp only
    split
    · exact ⟨w.supplies, rfl⟩
    · cases r.policy.infer (Path.normalize trace.path) with
      | some template => exact ⟨_, rehearse_create hr hw t _ _ _⟩
      | none => exact ⟨w.supplies, rfl⟩

end World

/-! ## What is answered -/

theorem Endpoint.hasKey_iff {e : Endpoint} {host method path : String} :
    e.hasKey host method path ↔ e.host = host ∧ e.method = method ∧ e.path = path := by
  simp [hasKey, and_assoc]

theorem Bypass.refuses_of_unlinked {e : Endpoint} (h : e.documentGenerated = none)
    (bypass : Bypass) (policy : IdentifierPolicy) (path : String) :
    bypass.refuses policy e path = false := by
  cases bypass <;> simp [refuses, h]

/-- No endpoint is linked to a document. -/
def MemoryStore.Unlinked (store : MemoryStore) : Prop := ∀ e ∈ store, e.documentGenerated = none

namespace Resolver

variable {r : Resolver} {store : MemoryStore} {trace : Trace}

theorem accepted_of_unlinked (h : store.Unlinked) (host method path : String) :
    r.accepted store host method path = store.findMatch host method path := by
  rw [accepted]
  cases hfound : store.findMatch host method path with
  | none => rfl
  | some e =>
    have hlink := h e (MemoryStore.of_findMatch hfound).1
    simp [Option.filter, Bypass.refuses_of_unlinked hlink]

theorem unlinked_answer (h : store.Unlinked) (r : Resolver) (id : Uuid) (trace : Trace) :
    (r.answer store id trace).2.Unlinked := by
  rw [answer]
  split
  · exact h
  split
  · exact h
  split
  · exact h
  split
  · rw [made]
    split
    · exact h
    · intro e he
      rcases List.mem_append.1 he with he | he
      · exact h e he
      · obtain rfl := List.mem_singleton.1 he
        rfl
  · exact h

/-- Nothing that is stored matches the path of the trace, and the template that is inferred instead
is no help: an endpoint with another pattern has its text, or its own pattern is too large. -/
def Misfit (r : Resolver) (store : MemoryStore) (trace : Trace) : Prop :=
  (∀ f ∈ store, f.host = trace.host → f.method = trace.method.toUpper →
    ¬ Pattern.isMatch f.pathPattern (Path.normalize trace.path)) ∧
  ∃ template, r.policy.infer (Path.normalize trace.path) = some template ∧
    (¬ Pattern.compiles template.pattern ∨
      ∃ f ∈ store, f.hasKey trace.host trace.method.toUpper template.path ∧
        f.pathPattern ≠ template.pattern)

theorem isMatch_infer_normalize {policy : IdentifierPolicy} {path : String}
    {template : PathTemplate} (h : policy.infer (Path.normalize path) = some template) :
    Pattern.isMatch template.pattern (Path.normalize path) ↔
      Pattern.compiles template.pattern := by
  simpa using policy.isMatch_infer h

/-- The endpoint of an inferred template matches the path unless the trace is a misfit. -/
theorem made_matches_iff {id : Uuid} {template : PathTemplate} {e : Endpoint} {isNew : Bool}
    (hnone : ∀ f ∈ store, f.host = trace.host → f.method = trace.method.toUpper →
      ¬ Pattern.isMatch f.pathPattern (Path.normalize trace.path))
    (hinfer : r.policy.infer (Path.normalize trace.path) = some template)
    (h : (made store id trace.host trace.method.toUpper template).1 = .resolved e isNew) :
    e.host = trace.host ∧ e.method = trace.method.toUpper ∧
      (Pattern.isMatch e.pathPattern (Path.normalize trace.path) ↔ ¬ r.Misfit store trace) := by
  have hmatch := isMatch_infer_normalize hinfer
  rw [made] at h
  split at h
  · next f hfound =>
    obtain ⟨rfl, -⟩ := Resolution.resolved.inj h
    obtain ⟨hmem, hkey⟩ := MemoryStore.of_findExact hfound
    obtain ⟨hhost, hmethod, -⟩ := Endpoint.hasKey_iff.1 hkey
    have hf := hnone f hmem hhost hmethod
    refine ⟨hhost, hmethod, iff_of_false hf (not_not_intro ⟨hnone, template, hinfer, ?_⟩)⟩
    -- with the same pattern it would match, as the pattern that is inferred for a path does
    by_cases hc : Pattern.compiles template.pattern
    · exact Or.inr ⟨f, hmem, hkey, fun heq => hf (heq ▸ hmatch.2 hc)⟩
    · exact Or.inl hc
  · next hfound =>
    obtain ⟨rfl, -⟩ := Resolution.resolved.inj h
    refine ⟨rfl, toUpper_toUpper _, hmatch.trans ⟨?_, fun hfit => ?_⟩⟩
    · rintro hc ⟨-, template', hinfer', hc' | ⟨f, hmem, hkey, -⟩⟩
      · obtain rfl := Option.some.inj (hinfer.symm.trans hinfer')
        exact hc' hc
      · obtain rfl := Option.some.inj (hinfer.symm.trans hinfer')
        exact MemoryStore.findExact_eq_none.1 hfound f hmem hkey
    · by_contra hc
      exact hfit ⟨hnone, template, hinfer, Or.inl hc⟩

/-- The endpoint that is answered matches the path of the trace unless the trace is a misfit. -/
theorem answer_matches_iff (hstore : store.Unlinked) {id : Uuid} {e : Endpoint} {isNew : Bool}
    (h : (r.answer store id trace).1 = .resolved e isNew) :
    e.host = trace.host ∧ e.method = trace.method.toUpper ∧
      (Pattern.isMatch e.pathPattern (Path.normalize trace.path) ↔ ¬ r.Misfit store trace) := by
  rw [answer, accepted_of_unlinked hstore] at h
  split at h
  · cases h
  cases hfound : store.findMatch trace.host trace.method.toUpper (Path.normalize trace.path) with
  | some f =>
    rw [hfound] at h
    obtain ⟨rfl, -⟩ := Resolution.resolved.inj h
    obtain ⟨hmem, hhost, hmethod, hmatch⟩ := MemoryStore.of_findMatch hfound
    exact ⟨hhost, hmethod, iff_of_true hmatch fun hfit => hfit.1 f hmem hhost hmethod hmatch⟩
  | none =>
    rw [hfound] at h
    dsimp only at h
    split at h
    · cases h
    cases hinfer : r.policy.infer (Path.normalize trace.path) with
    | none =>
      rw [hinfer] at h
      cases h
    | some template =>
      rw [hinfer] at h
      exact made_matches_iff (MemoryStore.findMatch_eq_none.1 hfound) hinfer h

end Resolver

/-! ## Runs of calls -/

/-- A call of a resolver that keeps its endpoints in memory. -/
structure ResolverCall where
  policy : IdentifierPolicy
  bypass : Bypass
  tenant : Tenant
  trace : Trace

namespace ResolverCall

/-- The resolver that is called. -/
def resolver (c : ResolverCall) : Resolver :=
  { store := .memory, policy := c.policy, bypass := c.bypass }

/-- What the call does. -/
def attempt (c : ResolverCall) : Attempt Resolution := c.resolver.resolve c.tenant c.trace

end ResolverCall

namespace World

/-- The world after some calls, one after another. -/
def afterCalls (w : World) (calls : List ResolverCall) : World :=
  calls.foldl (fun w c => (rehearse c.attempt w).2) w

theorem rehearse_attempt {w : World} (hw : w.faults = {}) (c : ResolverCall) :
    ∃ supplies, rehearse c.attempt w =
      (.ok (c.resolver.answer w.store (w.freshId 0) c.trace).1,
        { w with store := (c.resolver.answer w.store (w.freshId 0) c.trace).2, supplies }) :=
  rehearse_resolve rfl hw c.tenant c.trace

/-- Calls link no endpoint to a document, and they plan no faults. -/
theorem afterCalls_unlinked {w : World} (hw : w.faults = {}) (hstore : w.store.Unlinked)
    (calls : List ResolverCall) :
    (w.afterCalls calls).faults = {} ∧ (w.afterCalls calls).store.Unlinked := by
  induction calls generalizing w with
  | nil => exact ⟨hw, hstore⟩
  | cons c calls ih =>
    obtain ⟨supplies, hc⟩ := rehearse_attempt hw c
    rw [afterCalls, List.foldl_cons, hc]
    exact ih hw (Resolver.unlinked_answer hstore c.resolver _ c.trace)

/-- **Which endpoint is answered.** After any calls on a store that was empty, the endpoint that the
next call answers has the host and the method of its trace, and its pattern matches the path unless
the trace is a misfit: nothing that is stored matches the path, and the template that is inferred
for it has its text in common with an endpoint of another pattern, or too large a pattern. -/
theorem resolved_matches_iff {w : World} (hw : w.faults = {}) (hstore : w.store = [])
    (calls : List ResolverCall) (c : ResolverCall) {e : Endpoint} {isNew : Bool}
    (h : (rehearse c.attempt (w.afterCalls calls)).1 = .ok (.resolved e isNew)) :
    e.host = c.trace.host ∧ e.method = c.trace.method.toUpper ∧
      (Pattern.isMatch e.pathPattern (Path.normalize c.trace.path) ↔
        ¬ c.resolver.Misfit (w.afterCalls calls).store c.trace) := by
  have hempty : w.store.Unlinked := by simp [hstore, MemoryStore.Unlinked]
  obtain ⟨hfaults, hunlinked⟩ := afterCalls_unlinked hw hempty calls
  obtain ⟨supplies, hc⟩ := rehearse_attempt hfaults c
  rw [hc] at h
  exact Resolver.answer_matches_iff hunlinked (Except.ok.inj h)

/-- A world with nothing in it. -/
def blank : World := { clock := ⟨0, 0⟩, firstId := 0 }

/-- A call for a path, with the settings as they come. -/
def plainCall (path : String) : ResolverCall :=
  { policy := {}, bypass := .never, tenant := .standard,
    trace := .bare (.ofNat 0) ⟨0, 0⟩ "api.local" "get" path 200 }

/-- The endpoint of a path with a segment that is spelled like a placeholder. -/
def literalEndpoint : Endpoint :=
  .ofTemplate (.ofNat 0) "api.local" "GET"
    ⟨"/users/\x7bparam1\x7d", "^/users/\\\x7bparam1\\\x7d(/)*$", 0, false⟩

/-- The template of `/users/123` has the text of the literal path, and so the endpoint of that path
is answered. -/
theorem rehearse_plainCall_taken :
    (rehearse (plainCall "/users/123").attempt
        (blank.afterCalls [plainCall "/users/\x7bparam1\x7d"])).1 =
      .ok (.resolved literalEndpoint false) := by
  let literal := plainCall "/users/\x7bparam1\x7d"
  let number := plainCall "/users/123"
  obtain ⟨n, hliteral⟩ := rehearse_attempt (w := blank) rfl literal
  have hstored : (literal.resolver.answer [] (blank.freshId 0) literal.trace).2 =
      [literalEndpoint] := by decide +kernel
  have hworld : blank.afterCalls [literal] =
      { blank with store := [literalEndpoint], supplies := n } := by
    rw [afterCalls, List.foldl_cons, List.foldl_nil, hliteral]
    exact congrArg (fun store => { blank with store, supplies := n }) hstored
  obtain ⟨m, hnumber⟩ :=
    rehearse_attempt (w := { blank with store := [literalEndpoint], supplies := n }) rfl number
  have hpath : Path.normalize number.trace.path = "/users/123" := by decide +kernel
  have hmethod : number.trace.method.toUpper = "GET" := by decide +kernel
  have hnone :
      number.resolver.accepted [literalEndpoint] "api.local" "GET" "/users/123" = none := by
    decide +kernel
  have hinfer : number.policy.infer "/users/123" =
      some ⟨"/users/\x7bparam1\x7d", "^/users/[^/]+(/)*$", 1, false⟩ := by decide +kernel
  have htaken : MemoryStore.findExact [literalEndpoint] "api.local" "GET" "/users/\x7bparam1\x7d" =
      some literalEndpoint := by decide +kernel
  rw [hworld, hnumber, Resolver.answer, hpath, hmethod]
  simp only [number, plainCall, ResolverCall.resolver, Trace.bare] at hnone hinfer htaken ⊢
  rw [hnone]
  simp only [hinfer, Resolver.made, htaken]
  rfl

theorem resolved_matches_iff_taken :
    let c := plainCall "/users/123"
    let w := blank.afterCalls [plainCall "/users/\x7bparam1\x7d"]
    (rehearse c.attempt w).1 = .ok (.resolved literalEndpoint false) ∧
      literalEndpoint.host = c.trace.host ∧ literalEndpoint.method = c.trace.method.toUpper ∧
      (Pattern.isMatch literalEndpoint.pathPattern (Path.normalize c.trace.path) ↔
        ¬ c.resolver.Misfit w.store c.trace) :=
  ⟨rehearse_plainCall_taken, resolved_matches_iff rfl rfl _ _ rehearse_plainCall_taken⟩

/-- An endpoint is answered whose pattern does not match the path. -/
theorem exists_resolved_not_matching :
    ∃ (calls : List ResolverCall) (c : ResolverCall) (e : Endpoint) (isNew : Bool),
      (rehearse c.attempt (blank.afterCalls calls)).1 = .ok (.resolved e isNew) ∧
        ¬ Pattern.isMatch e.pathPattern (Path.normalize c.trace.path) :=
  ⟨[plainCall "/users/\x7bparam1\x7d"], plainCall "/users/123", literalEndpoint, false,
    rehearse_plainCall_taken, by decide +kernel⟩

end World

end TrafficLens
