import TrafficLens.Proofs.Program.Smooth
import TrafficLens.Proofs.Service.Concurrency

/-!
# Traces that are resolved one at a time

`Resolver.resolveAll` resolves some traces one after another. If nothing fails then the answers and
the store that is left are those of `Resolver.answer`, with some identifiers
(`performs_resolveAll`). Which identifiers those are makes no difference to anything but the
identifiers of the endpoints that are made: stores that are equal without them are answered from in
the same way (`Resolver.answer_congr`), and so it is enough to follow the traces with one identifier
for all (`Resolver.foresee`).
-/

namespace TrafficLens

open Attempt

/-! ## Programs of a resolver -/

section Programs

variable {c : ConnectionId} {s : MemoryStore} {r : Resolver} {t : Tenant}

theorem Resolver.performs_find (hr : r.store = .memory) (host method path : String) :
    Performs c s (r.find t host method path) fun found s' works =>
      found = r.accepted s host method path ∧ s' = s ∧ works = [] := by
  rw [find, hr]
  refine (performs_askMemory (.findMatch host method path)).bind ?_
  rintro found s' works ⟨h, rfl⟩
  cases h
  exact performs_pure ⟨rfl, rfl, rfl⟩

/-- Storing the endpoint of a template is the first half of making it. The method is in upper case,
so the key that is looked for is the one that was given. -/
theorem performs_insert {host method : String} (hmethod : method.toUpper = method) (id : Uuid)
    (template : PathTemplate) :
    Performs c s (EndpointStore.memory.insert t (.ofTemplate id host method template))
      fun outcome s' works => works = [] ∧
        ((outcome = .inserted ∧ Resolver.made s id host method template =
            (.resolved (.ofTemplate id host method template) true, s')) ∨
          (outcome = .conflict ∧ s' = s ∧ ∃ e, s.findExact host method template.path = some e ∧
            Resolver.made s id host method template = (.resolved e false, s))) := by
  have hstored : (Endpoint.ofTemplate id host method template).method = method := hmethod
  refine (performs_askMemory (.insert (.ofTemplate id host method template))).mono ?_
  rintro outcome s' works ⟨hinsert, rfl⟩
  rw [MemoryStore.perform, MemoryStore.insert_eq, hstored] at hinsert
  refine ⟨rfl, ?_⟩
  split at hinsert
  · next hfree =>
    cases hinsert
    have hnone : s.findExact host method template.path = none := hfree
    exact .inl ⟨rfl, by rw [Resolver.made, hnone]⟩
  · next htaken =>
    cases hinsert
    obtain ⟨e, he⟩ := Option.ne_none_iff_exists'.1 htaken
    have hsome : s.findExact host method template.path = some e := he
    exact .inr ⟨rfl, rfl, e, hsome, by rw [Resolver.made, hsome]⟩

/-- The endpoint with a key is looked for among those that are stored. -/
theorem performs_findExact (host method template : String) :
    Performs c s (EndpointStore.memory.findExact t host method template) fun found s' works =>
      found = s.findExact host method template ∧ s' = s ∧ works = [] := by
  refine (performs_askMemory (.findExact host method template)).mono ?_
  rintro found s' works ⟨hfind, rfl⟩
  obtain ⟨rfl, rfl⟩ := Prod.mk.inj hfind
  exact ⟨rfl, rfl, rfl⟩

theorem Resolver.performs_create (hr : r.store = .memory) {host method : String}
    (hmethod : method.toUpper = method) (template : PathTemplate) :
    Performs c s (r.create t host method template) fun x s' works =>
      (∃ id, (x, s') = made s id host method template) ∧ works = [] := by
  rw [create, hr]
  refine performs_freshIds.bind ?_
  rintro ids s _ ⟨rfl, rfl⟩
  refine (performs_insert hmethod (ids 0) template).outcome.bind ?_
  rintro _ s' _ ⟨outcome, rfl, rfl, ⟨rfl, hmade⟩ | ⟨rfl, rfl, e, hfound, hmade⟩⟩
  · exact performs_pure ⟨⟨ids 0, hmade.symm⟩, rfl⟩
  · refine (performs_findExact host method template.path).bind ?_
    rintro _ s _ ⟨rfl, rfl, rfl⟩
    rw [hfound]
    exact performs_pure ⟨⟨ids 0, hmade.symm⟩, rfl⟩

/-- If nothing fails, a resolver answers as the function of the store does. -/
theorem Resolver.performs_resolve (hr : r.store = .memory) (trace : Trace) :
    Performs c s (r.resolve t trace) fun x s' works =>
      (∃ id, (x, s') = r.answer s id trace) ∧ works = [] := by
  rw [resolve]
  split
  · next hempty => exact performs_pure ⟨⟨.nil, by rw [answer, if_pos hempty]⟩, rfl⟩
  next hpath =>
  refine (performs_find hr ..).bind ?_
  rintro _ s _ ⟨rfl, rfl, rfl⟩
  cases hfound : r.accepted s trace.host trace.method.toUpper (Path.normalize trace.path) with
  | some e => exact performs_pure ⟨⟨.nil, by simp only [answer, if_neg hpath, hfound]⟩, rfl⟩
  | none =>
    dsimp only
    split
    · next hmissing =>
      exact performs_pure
        ⟨⟨.nil, by simp only [answer, if_neg hpath, hfound, if_pos hmissing]⟩, rfl⟩
    next hmissing =>
    cases hinfer : r.policy.infer (Path.normalize trace.path) with
    | none =>
      exact performs_pure
        ⟨⟨.nil, by simp only [answer, if_neg hpath, hfound, if_neg hmissing, hinfer]⟩, rfl⟩
    | some template =>
      refine (performs_create hr (toUpper_toUpper _) template).mono ?_
      rintro x s' works ⟨⟨id, h⟩, rfl⟩
      refine ⟨⟨id, h.trans ?_⟩, rfl⟩
      simp only [answer, if_neg hpath, hfound, if_neg hmissing, hinfer]

/-- Resolve traces, one after another. -/
def Resolver.resolveAll (r : Resolver) (t : Tenant) : List Trace → Attempt (List Resolution)
  | [] => pure []
  | trace :: rest => do
    let x ← r.resolve t trace
    let xs ← resolveAll r t rest
    pure (x :: xs)

/-- The answers for traces, one after another, and the store behind them, with some identifiers. -/
inductive Resolver.Answered (r : Resolver) :
    MemoryStore → List Trace → List Resolution → MemoryStore → Prop
  | nil (s : MemoryStore) : Answered r s [] [] s
  | cons {s s' : MemoryStore} {trace : Trace} {rest : List Trace} {xs : List Resolution} (id : Uuid)
    (h : Answered r (r.answer s id trace).2 rest xs s') :
    Answered r s (trace :: rest) ((r.answer s id trace).1 :: xs) s'

theorem Resolver.performs_resolveAll (hr : r.store = .memory) (traces : List Trace) :
    Performs c s (r.resolveAll t traces) fun xs s' works =>
      r.Answered s traces xs s' ∧ works = [] := by
  induction traces generalizing s with
  | nil => exact performs_pure ⟨.nil s, rfl⟩
  | cons trace rest ih =>
    refine (performs_resolve hr trace).bind ?_
    rintro x s₁ _ ⟨⟨id, h⟩, rfl⟩
    obtain ⟨rfl, rfl⟩ := Prod.mk.inj h
    refine ih.bind ?_
    rintro xs s₂ _ ⟨hxs, rfl⟩
    exact performs_pure ⟨.cons id hxs, rfl⟩

end Programs

/-! ## Identifiers make no difference -/

/-- The endpoint without its identifier. -/
def Endpoint.anonymous (e : Endpoint) : Endpoint := { e with id := .nil }

/-- The answer without the identifier of the endpoint. -/
def Resolution.anonymous : Resolution → Resolution
  | resolved e isNew => resolved e.anonymous isNew
  | unresolvable => unresolvable
  | deferred => deferred

namespace MemoryStore

/-- The endpoints without their identifiers. -/
def anonymous (s : MemoryStore) : MemoryStore := s.map Endpoint.anonymous

variable (s : MemoryStore) (host method path : String)

theorem fewest_anonymous (es : List Endpoint) :
    fewest (es.map Endpoint.anonymous) = (fewest es).map Endpoint.anonymous := by
  induction es with
  | nil => rfl
  | cons e es ih =>
    rw [List.map_cons, fewest, ih, fewest]
    cases fewest es with
    | none => rfl
    | some best =>
      have hcount : ∀ d : Endpoint, d.anonymous.numberParams = d.numberParams := fun d => rfl
      simp only [Option.map_some, hcount]
      split <;> rfl

theorem findMatch_anonymous :
    s.anonymous.findMatch host method path =
      (s.findMatch host method path).map Endpoint.anonymous := by
  rw [findMatch, anonymous, List.filter_map, fewest_anonymous]
  rfl

theorem findExact_anonymous (template : String) :
    s.anonymous.findExact host method template =
      (s.findExact host method template).map Endpoint.anonymous := by
  rw [findExact, anonymous, List.find?_map]
  rfl

end MemoryStore

namespace Resolver

variable {r : Resolver} {s u : MemoryStore} {id : Uuid}

theorem accepted_anonymous (host method path : String) :
    r.accepted s.anonymous host method path =
      (r.accepted s host method path).map Endpoint.anonymous := by
  rw [accepted, s.findMatch_anonymous, Option.filter_map]
  rfl

theorem anonymous_made (host method : String) (template : PathTemplate) :
    made s.anonymous .nil host method template =
      ((made s id host method template).1.anonymous,
        (made s id host method template).2.anonymous) := by
  rw [made, made, s.findExact_anonymous]
  cases s.findExact host method template.path with
  | some e => rfl
  | none =>
    simp [Resolution.anonymous, MemoryStore.anonymous, Endpoint.anonymous, Endpoint.ofTemplate]

theorem anonymous_answer (id : Uuid) (trace : Trace) :
    r.answer s.anonymous .nil trace =
      ((r.answer s id trace).1.anonymous, (r.answer s id trace).2.anonymous) := by
  rw [answer, answer, accepted_anonymous]
  split
  · rfl
  cases r.accepted s trace.host trace.method.toUpper (Path.normalize trace.path) with
  | some e => rfl
  | none =>
    dsimp only [Option.map_none]
    split
    · rfl
    cases r.policy.infer (Path.normalize trace.path) with
    | none => rfl
    | some template => exact anonymous_made ..

/-- Stores that are equal without identifiers are answered from in the same way. -/
theorem answer_congr (h : s.anonymous = u.anonymous) (id' : Uuid) (trace : Trace) :
    (r.answer s id trace).1.anonymous = (r.answer u id' trace).1.anonymous ∧
      (r.answer s id trace).2.anonymous = (r.answer u id' trace).2.anonymous := by
  refine Prod.mk.inj ((anonymous_answer id trace).symm.trans ?_)
  rw [h]
  exact anonymous_answer id' trace

/-- The store after some traces, one after another. All endpoints that are made have one
identifier. -/
def foresee (r : Resolver) (s : MemoryStore) (traces : List Trace) : MemoryStore :=
  traces.foldl (fun s trace => (r.answer s .nil trace).2) s

/-- The answer for a trace after others. -/
def foretell (r : Resolver) (s : MemoryStore) (before : List Trace) (trace : Trace) : Resolution :=
  (r.answer (r.foresee s before) .nil trace).1

@[simp] theorem foresee_nil : r.foresee s [] = s := rfl

@[simp] theorem foresee_cons (trace : Trace) (rest : List Trace) :
    r.foresee s (trace :: rest) = r.foresee (r.answer s .nil trace).2 rest := rfl

/-- Every answer is the one that is foretold, but for the identifier. -/
theorem Answered.foretell {before after : List Trace} {trace : Trace} {xs : List Resolution}
    {s' : MemoryStore} (h : r.Answered s (before ++ trace :: after) xs s')
    (hs : s.anonymous = u.anonymous) :
    ∃ x, xs[before.length]? = some x ∧
      x.anonymous = (r.foretell u before trace).anonymous := by
  induction before generalizing s u xs with
  | nil =>
    cases h with
    | cons id h => exact ⟨_, rfl, (answer_congr hs _ trace).1⟩
  | cons b before ih =>
    cases h with
    | cons id h => exact ih h (answer_congr hs _ b).2

end Resolver

end TrafficLens
