import Mathlib.Data.List.Nodup
import TrafficLens.Proofs.Program.Interleaving
import TrafficLens.Proofs.Service.Resolution

/-!
# Calls of a resolver at the same time

Calls that share a store in memory take turns: between two requests of one of them the others may do
anything. A call is in one of a few stages (`ResolverCall.Stage`), and its program is what the stage
has left to do. `Stage.next` says what one turn does, and `Stage.next_cases` is all that a turn can
do to the store: nothing, or a call that has found its template free stores its endpoint and ends.

The invariant of all runs (`Orderly`) ties each stage to the store. What a call knows of the store
stays true, for the store only grows (`Stage.Sound.append`): a call whose endpoint was refused will
find the one in its place.
-/

namespace TrafficLens

/-! ## Keys of stored endpoints -/

/-- What no two stored endpoints share. -/
def Endpoint.key (e : Endpoint) : String × String × String := (e.host, e.method, e.path)

theorem Endpoint.hasKey_iff_key {e : Endpoint} {host method path : String} :
    e.hasKey host method path ↔ e.key = (host, method, path) := by
  rw [hasKey_iff, key, Prod.mk.injEq, Prod.mk.injEq]

namespace MemoryStore

/-- No two stored endpoints share host, method and path. -/
def DistinctKeys (s : MemoryStore) : Prop := (s.map Endpoint.key).Nodup

variable {s : MemoryStore} {e f : Endpoint}

theorem DistinctKeys.eq_of_key (h : s.DistinctKeys) (he : e ∈ s) (hf : f ∈ s)
    (hkey : e.key = f.key) : e = f :=
  List.inj_on_of_nodup_map h he hf hkey

theorem notMem_of_findExact (h : s.findExact e.host e.method e.path = none) : e ∉ s :=
  fun he => findExact_eq_none.1 h e he (Endpoint.hasKey_iff_key.2 rfl)

theorem DistinctKeys.append (h : s.DistinctKeys)
    (hfree : s.findExact e.host e.method e.path = none) : (s ++ [e]).DistinctKeys := by
  have hkey : e.key ∉ s.map Endpoint.key := by
    intro hmem
    obtain ⟨f, hf, hkey⟩ := List.mem_map.1 hmem
    exact findExact_eq_none.1 hfree f hf (Endpoint.hasKey_iff_key.2 hkey)
  rw [DistinctKeys, List.map_append, List.nodup_append]
  refine ⟨h, List.nodup_singleton _, ?_⟩
  rintro a ha b hb rfl
  rw [List.map_cons, List.map_nil, List.mem_singleton] at hb
  exact hkey (hb ▸ ha)

end MemoryStore

/-! ## The stages of a call -/

namespace ResolverCall

variable {c : ResolverCall}

/-- The path that the call looks for. -/
def path (c : ResolverCall) : String := Path.normalize c.trace.path

/-- The method that the call looks for. -/
def method (c : ResolverCall) : String := c.trace.method.toUpper

/-- The template that the call infers for its path. -/
def template? (c : ResolverCall) : Option PathTemplate := c.policy.infer c.path

/-- The endpoint that the call makes of a template. -/
def endpoint (c : ResolverCall) (template : PathTemplate) (id : Uuid) : Endpoint :=
  .ofTemplate id c.trace.host c.method template

@[simp] theorem endpoint_host (template : PathTemplate) (id : Uuid) :
    (c.endpoint template id).host = c.trace.host := rfl

/-- The method is in upper case already. -/
@[simp] theorem endpoint_method (template : PathTemplate) (id : Uuid) :
    (c.endpoint template id).method = c.method := toUpper_toUpper _

@[simp] theorem endpoint_path (template : PathTemplate) (id : Uuid) :
    (c.endpoint template id).path = template.path := rfl

/-- What the call does with what it has found. -/
def useFound (c : ResolverCall) : Option Endpoint → Attempt Resolution
  | some endpoint => pure (.resolved endpoint false)
  | none =>
    if c.trace.isNotFound then pure .unresolvable
    else
      match c.template? with
      | some template => c.resolver.create c.tenant c.trace.host c.method template
      | none => pure .unresolvable

/-- What the call does when its endpoint was refused. -/
def reread (c : ResolverCall) (template : PathTemplate) : Attempt Resolution := do
  match ← c.resolver.store.findExact c.tenant c.trace.host c.method template.path with
  | some existing => pure (.resolved existing false)
  | none => pure .deferred

/-- What the call does with an endpoint of its own. -/
def place (c : ResolverCall) (template : PathTemplate) (id : Uuid) : Attempt Resolution := do
  match ← (c.resolver.store.insert c.tenant (c.endpoint template id)).outcome with
  | .ok .inserted => pure (.resolved (c.endpoint template id) true)
  | .ok .conflict => c.reread template
  | .error _ => pure .deferred

/-- How far a call has come. -/
inductive Stage where
  /-- It will look for an endpoint that matches its path. -/
  | looking
  /-- It has found none, and needs an identifier for a new one. -/
  | naming (template : PathTemplate)
  /-- It will store an endpoint. -/
  | storing (template : PathTemplate) (id : Uuid)
  /-- Its endpoint was refused, and it will look for the one that is there. -/
  | rereading (template : PathTemplate)
  | ended (answer : Resolution)

namespace Stage

/-- What is left to do. -/
def program (c : ResolverCall) : Stage → Program (Except Failure Resolution)
  | looking => (c.resolver.find c.tenant c.trace.host c.method c.path >>= c.useFound).run
  | naming template => (c.resolver.create c.tenant c.trace.host c.method template).run
  | storing template id => (c.place template id).run
  | rereading template => (c.reread template).run
  | ended answer => .done (.ok answer)

/-- The stage in which a call uses what it has found. -/
def ofFound (c : ResolverCall) : Option Endpoint → Stage
  | some e => ended (.resolved e false)
  | none =>
    if c.trace.isNotFound then ended .unresolvable
    else
      match c.template? with
      | some template => naming template
      | none => ended .unresolvable

/-- The stage and the world after a turn. -/
def next (c : ResolverCall) (w : World) : Stage → Stage × World
  | looking => (ofFound c (c.resolver.accepted w.store c.trace.host c.method c.path), w)
  | naming template => (storing template (w.freshId 0), { w with supplies := w.supplies + 1 })
  | storing template id =>
    if w.store.findExact c.trace.host c.method template.path = none then
      (ended (.resolved (c.endpoint template id) true),
        { w with store := w.store ++ [c.endpoint template id] })
    else (rereading template, w)
  | rereading template =>
    match w.store.findExact c.trace.host c.method template.path with
    | some e => (ended (.resolved e false), w)
    | none => (ended .deferred, w)
  | ended answer => (ended answer, w)

end Stage

/-- The stage in which the call begins. -/
def start (c : ResolverCall) : Stage := if c.path.isEmpty then .ended .unresolvable else .looking

theorem program_start (c : ResolverCall) : c.start.program c = c.attempt.run := by
  rw [start, attempt, Resolver.resolve, path]
  split
  · rfl
  · refine congrArg (fun f => (c.resolver.find c.tenant c.trace.host c.method c.path >>= f).run)
      (funext fun found => ?_)
    cases found with
    | some e => rfl
    | none =>
      rw [useFound, template?, path]
      dsimp only [resolver]
      cases c.policy.infer (Path.normalize c.trace.path) <;> rfl

namespace Stage

theorem program_ofFound (found : Option Endpoint) :
    (ofFound c found).program c = (c.useFound found).run := by
  cases found with
  | some e => rfl
  | none =>
    rw [ofFound, useFound]
    split
    · rfl
    · cases c.template? <;> rfl

/-- A turn is a step of the program. -/
theorem step_program {w : World} (hw : w.faults = {}) (stage : Stage) :
    (stage.program c).step w = ((stage.next c w).1.program c, (stage.next c w).2) := by
  cases stage with
  | looking =>
    refine (Program.step_store hw (.findMatch c.trace.host c.method c.path) _).trans ?_
    rw [next, program_ofFound]
    rfl
  | naming template => rfl
  | storing template id =>
    refine (Program.step_store hw (.insert (c.endpoint template id)) _).trans ?_
    have hinsert : w.store.perform (.insert (c.endpoint template id)) =
        if w.store.findExact c.trace.host c.method template.path = none then
          (.inserted, w.store ++ [c.endpoint template id])
        else (.conflict, w.store) := by
      rw [← endpoint_method template id]
      exact MemoryStore.insert_eq w.store (c.endpoint template id)
    rw [hinsert, next]
    split <;> rfl
  | rereading template =>
    refine (Program.step_store hw (.findExact c.trace.host c.method template.path) _).trans ?_
    have hread : w.store.perform (.findExact c.trace.host c.method template.path) =
      (w.store.findExact c.trace.host c.method template.path, w.store) := rfl
    rw [hread, next]
    cases w.store.findExact c.trace.host c.method template.path with
    | some e => rfl
    | none => rfl
  | ended answer => rfl

/-! ### The number of turns -/

theorem within_reread (c : ResolverCall) (template : PathTemplate) :
    (c.reread template).run.Within 1 := by
  rintro (f | found)
  · trivial
  · cases found <;> trivial

theorem within_place (c : ResolverCall) (template : PathTemplate) (id : Uuid) :
    (c.place template id).run.Within 2 := by
  rintro (f | outcome)
  · trivial
  · cases outcome with
    | inserted => trivial
    | conflict => exact within_reread c template

theorem within_useFound (c : ResolverCall) (found : Option Endpoint) :
    (c.useFound found).run.Within 3 := by
  rw [← program_ofFound]
  cases found with
  | some e => trivial
  | none =>
    rw [ofFound]
    split
    · trivial
    cases c.template? with
    | some template => exact fun ids => within_place c template (ids 0)
    | none => trivial

/-- A call needs at most four turns. -/
theorem within_start (c : ResolverCall) : (c.start.program c).Within 4 := by
  rw [start]
  split
  · trivial
  · rintro (f | found)
    · trivial
    · exact within_useFound c _

end Stage

/-! ## What a call knows of the store -/

/-- The endpoint has the host and the method of the call, and matches its path. -/
def Matches (c : ResolverCall) (e : Endpoint) : Prop :=
  e.host = c.trace.host ∧ e.method = c.method ∧ Pattern.isMatch e.pathPattern c.path

/-- The endpoint has the host and the method of the call, and the template of its path. -/
def Names (c : ResolverCall) (e : Endpoint) : Prop :=
  ∃ template, c.template? = some template ∧ e.hasKey c.trace.host c.method template.path

namespace Stage

/-- What is true of a call in a stage and of the store. -/
def Sound (c : ResolverCall) (store : MemoryStore) : Stage → Prop
  | looking => True
  | naming template | storing template _ =>
    c.trace.isNotFound = false ∧ c.template? = some template
  | rereading template =>
    c.template? = some template ∧
      store.findExact c.trace.host c.method template.path ≠ none
  | ended (.resolved e false) => e ∈ store ∧ (c.Matches e ∨ c.Names e)
  | ended (.resolved e true) => e ∈ store ∧ c.Names e
  | ended .unresolvable => c.trace.isNotFound ∨ c.template? = none
  | ended .deferred => False

variable {stage : Stage} {w : World}

/-- The store only grows, and so what a call knows of it stays true. -/
theorem Sound.append {store : MemoryStore} (h : stage.Sound c store) (more : List Endpoint) :
    stage.Sound c (store ++ more) := by
  cases stage with
  | looking | naming template | storing template id => exact h
  | rereading template =>
    refine ⟨h.1, ?_⟩
    rw [MemoryStore.findExact, List.find?_append]
    exact fun hnone => h.2 (Option.or_eq_none_iff.1 hnone).1
  | ended answer =>
    cases answer with
    | resolved e isNew =>
      cases isNew
      · exact ⟨List.mem_append_left _ h.1, h.2⟩
      · exact ⟨List.mem_append_left _ h.1, h.2⟩
    | unresolvable | deferred => exact h

theorem sound_start (c : ResolverCall) (store : MemoryStore) : c.start.Sound c store := by
  rw [start]
  split
  · next h =>
    refine .inr ?_
    rw [template?, IdentifierPolicy.infer, path, Path.normalize_normalize]
    exact if_pos h
  · trivial

theorem sound_ofFound (store : MemoryStore) :
    (ofFound c (c.resolver.accepted store c.trace.host c.method c.path)).Sound c store := by
  cases hfound : c.resolver.accepted store c.trace.host c.method c.path with
  | some e =>
    obtain ⟨hmem, hhost, hmethod, hmatch⟩ :=
      MemoryStore.of_findMatch (Option.filter_eq_some_iff.1 hfound).1
    exact ⟨hmem, .inl ⟨hhost, hmethod, hmatch⟩⟩
  | none =>
    rw [ofFound]
    split
    · next h => exact .inl h
    · next h =>
      cases htemplate : c.template? with
      | some template => exact ⟨by simpa using h, htemplate⟩
      | none => exact .inr htemplate

theorem sound_next (h : stage.Sound c w.store) :
    (stage.next c w).1.Sound c (stage.next c w).2.store := by
  cases stage with
  | looking => exact sound_ofFound w.store
  | naming template => exact h
  | storing template id =>
    rw [next]
    split
    · exact ⟨by simp, template, h.2,
        Endpoint.hasKey_iff.2 ⟨rfl, endpoint_method template id, rfl⟩⟩
    · next hfree => exact ⟨h.2, hfree⟩
  | rereading template =>
    rw [next]
    cases hfound : w.store.findExact c.trace.host c.method template.path with
    | some e =>
      obtain ⟨hmem, hkey⟩ := MemoryStore.of_findExact hfound
      exact ⟨hmem, .inr ⟨template, h.1, hkey⟩⟩
    | none => exact h.2 hfound
  | ended answer => exact h

/-- **What a turn does to the store**: nothing, and then nobody becomes the maker of an endpoint; or
a call whose template is free makes its endpoint. -/
theorem next_cases (h : stage.Sound c w.store) :
    ((stage.next c w).2.store = w.store ∧ ∀ e, (stage.next c w).1 = ended (.resolved e true) ↔
      stage = ended (.resolved e true)) ∨
    ∃ template id, stage = storing template id ∧ c.trace.isNotFound = false ∧
      w.store.findExact c.trace.host c.method template.path = none ∧
      (stage.next c w).1 = ended (.resolved (c.endpoint template id) true) ∧
      (stage.next c w).2.store = w.store ++ [c.endpoint template id] := by
  cases stage with
  | looking =>
    refine .inl ⟨rfl, fun e => iff_of_false ?_ (by simp)⟩
    rw [next]
    cases c.resolver.accepted w.store c.trace.host c.method c.path with
    | some f => simp [ofFound]
    | none =>
      dsimp only [ofFound]
      split
      · simp
      · cases c.template? <;> simp
  | naming template => exact .inl ⟨rfl, fun e => by simp [next]⟩
  | storing template id =>
    rw [next]
    split
    · next hfree => exact .inr ⟨template, id, rfl, h.1, hfree, rfl, rfl⟩
    · exact .inl ⟨rfl, fun e => by simp⟩
  | rereading template =>
    refine .inl ?_
    rw [next]
    cases hfound : w.store.findExact c.trace.host c.method template.path with
    | some e => exact ⟨rfl, fun e' => by simp⟩
    | none => exact ⟨rfl, fun e' => by simp⟩
  | ended answer => exact .inl ⟨rfl, fun e => .rfl⟩

theorem faults_next (stage : Stage) (c : ResolverCall) (w : World) :
    (stage.next c w).2.faults = w.faults := by
  cases stage with
  | looking | naming template | ended answer => rfl
  | storing template id =>
    rw [next]
    split <;> rfl
  | rereading template =>
    rw [next]
    split <;> rfl

theorem program_eq_done {answer : Resolution} :
    stage.program c = .done (.ok answer) ↔ stage = ended answer := by
  constructor
  · intro h
    cases stage with
    | ended answer' => rw [Except.ok.inj (Program.done.inj h)]
    | looking | naming template | storing template id | rereading template => cases h
  · rintro rfl
    rfl

theorem program_ne_error {f : Failure} : stage.program c ≠ .done (.error f) := by
  cases stage with
  | ended answer => exact fun h => nomatch Program.done.inj h
  | looking | naming template | storing template id | rereading template => exact fun h => nomatch h

end Stage

end ResolverCall

/-! ## Runs -/

open ResolverCall

variable {ι : Type}

/-- What holds in every state of a crowd of calls. -/
structure Orderly (calls : ι → ResolverCall) (initial : MemoryStore) (stage : ι → Stage)
    (w : World) : Prop where
  faults : w.faults = {}
  keys : w.store.DistinctKeys
  sound : ∀ i, (stage i).Sound (calls i) w.store
  /-- Every endpoint that was added has one maker. -/
  makers : ∃ added, w.store = initial ++ added ∧
    (∀ i e, stage i = .ended (.resolved e true) → e ∈ added) ∧
    ∀ e ∈ added, ∃! i, stage i = .ended (.resolved e true)

namespace Orderly

variable {calls : ι → ResolverCall} {initial : MemoryStore} {stage : ι → Stage} {w : World}

theorem start (hw : w.faults = {}) (hkeys : w.store.DistinctKeys) (calls : ι → ResolverCall) :
    Orderly calls w.store (fun i => (calls i).start) w where
  faults := hw
  keys := hkeys
  sound i := Stage.sound_start (calls i) w.store
  makers := by
    refine ⟨[], (List.append_nil _).symm, fun i e h => ?_, by simp⟩
    rw [ResolverCall.start] at h
    split at h <;> cases h

variable [DecidableEq ι]

/-- The makers of endpoints after a turn in which none was made. -/
theorem makers_of_idle (h : Orderly calls initial stage w) {i : ι} {s : Stage}
    (hs : ∀ e, s = .ended (.resolved e true) ↔ stage i = .ended (.resolved e true)) :
    ∃ added, w.store = initial ++ added ∧
      (∀ j e, Function.update stage i s j = .ended (.resolved e true) → e ∈ added) ∧
      ∀ e ∈ added, ∃! j, Function.update stage i s j = .ended (.resolved e true) := by
  have hall : ∀ j e, Function.update stage i s j = .ended (.resolved e true) ↔
      stage j = .ended (.resolved e true) := by
    intro j e
    by_cases hj : j = i
    · subst hj
      rw [Function.update_self, hs]
    · rw [Function.update_of_ne hj]
  simpa only [hall] using h.makers

/-- The makers of endpoints after a turn in which one was made. -/
theorem makers_of_made (h : Orderly calls initial stage w) {i : ι} {e : Endpoint}
    (hi : ∀ e', stage i ≠ .ended (.resolved e' true)) (he : e ∉ w.store) :
    ∃ added, w.store ++ [e] = initial ++ added ∧
      (∀ j e', Function.update stage i (.ended (.resolved e true)) j = .ended (.resolved e' true) →
        e' ∈ added) ∧
      ∀ e' ∈ added, ∃! j,
        Function.update stage i (.ended (.resolved e true)) j = .ended (.resolved e' true) := by
  obtain ⟨added, hadded, hmade, hmaker⟩ := h.makers
  have hfresh : ∀ e' ∈ added, e' ≠ e := by
    rintro e' he' rfl
    exact he (hadded ▸ List.mem_append_right _ he')
  refine ⟨added ++ [e], by rw [hadded, List.append_assoc], fun j e' hj => ?_, fun e' he' => ?_⟩
  · by_cases hji : j = i
    · subst hji
      rw [Function.update_self] at hj
      obtain rfl : e = e' := by simpa using hj
      exact List.mem_append_right _ (List.mem_singleton_self _)
    · rw [Function.update_of_ne hji] at hj
      exact List.mem_append_left _ (hmade j e' hj)
  rcases List.mem_append.1 he' with he' | he'
  · obtain ⟨j, hj, honly⟩ := hmaker e' he'
    have hji : j ≠ i := fun hji => hi e' (hji ▸ hj)
    refine ⟨j, (Function.update_of_ne hji ..).trans hj, fun k hk => ?_⟩
    by_cases hki : k = i
    · subst hki
      have heq := hk.symm.trans (Function.update_self ..)
      simp only [Stage.ended.injEq, Resolution.resolved.injEq, and_true] at heq
      exact absurd heq (hfresh e' he')
    · exact honly k ((Function.update_of_ne hki ..).symm.trans hk)
  · obtain rfl := List.mem_singleton.1 he'
    refine ⟨i, Function.update_self .., fun k hk => ?_⟩
    by_contra hki
    exact hfresh _ (hmade k _ ((Function.update_of_ne hki ..).symm.trans hk)) rfl

/-- **A turn keeps everything in order.** -/
theorem next (h : Orderly calls initial stage w) (i : ι) :
    Orderly calls initial (Function.update stage i ((stage i).next (calls i) w).1)
      ((stage i).next (calls i) w).2 := by
  have hfaults := (Stage.faults_next (stage i) (calls i) w).trans h.faults
  have hsound : ∀ more, ((stage i).next (calls i) w).2.store = w.store ++ more → ∀ j,
      (Function.update stage i ((stage i).next (calls i) w).1 j).Sound (calls j)
        ((stage i).next (calls i) w).2.store := by
    intro more hmore j
    by_cases hj : j = i
    · subst hj
      rw [Function.update_self]
      exact Stage.sound_next (h.sound j)
    · rw [Function.update_of_ne hj, hmore]
      exact (h.sound j).append more
  rcases Stage.next_cases (h.sound i) with
    ⟨hstore, hidle⟩ | ⟨template, id, hstage, -, hfree, hended, hstore⟩
  · refine ⟨hfaults, hstore ▸ h.keys, hsound [] (by simp [hstore]), ?_⟩
    rw [hstore]
    exact h.makers_of_idle hidle
  · have hkey : w.store.findExact ((calls i).endpoint template id).host
        ((calls i).endpoint template id).method ((calls i).endpoint template id).path = none := by
      rw [endpoint_method]
      exact hfree
    refine ⟨hfaults, ?_, hsound _ hstore, ?_⟩
    · rw [hstore]
      exact h.keys.append hkey
    · rw [hstore, hended]
      exact h.makers_of_made (by simp [hstage]) (MemoryStore.notMem_of_findExact hkey)

omit [DecidableEq ι] in
/-- What is answered for a call, and where the endpoint is. -/
theorem of_ended (h : Orderly calls initial stage w) {i : ι} {e : Endpoint} {isNew : Bool}
    (hi : stage i = .ended (.resolved e isNew)) :
    e ∈ w.store ∧ ((calls i).Matches e ∨ (calls i).Names e) := by
  have hsound := h.sound i
  rw [hi] at hsound
  cases isNew with
  | false => exact hsound
  | true => exact ⟨hsound.1, .inr hsound.2⟩

end Orderly

namespace Crowd

/-- Calls that have not begun yet. -/
def ofCalls (w : World) (calls : ι → ResolverCall) : Crowd ι (Except Failure Resolution) :=
  ⟨w, fun i => (calls i).attempt.run⟩

/-- The call is over, with an answer. -/
def Answered (crowd : Crowd ι (Except Failure Resolution)) (i : ι) (answer : Resolution) : Prop :=
  crowd.parts i = .done (.ok answer)

variable [DecidableEq ι] {calls : ι → ResolverCall} {w : World}

/-- A run of calls is a run through their stages, and all is in order. -/
theorem exists_orderly_run (hw : w.faults = {}) (hkeys : w.store.DistinctKeys)
    (calls : ι → ResolverCall) (schedule : List ι) :
    ∃ stage : ι → Stage,
      ((ofCalls w calls).run schedule).parts = (fun i => (stage i).program (calls i)) ∧
        Orderly calls w.store stage ((ofCalls w calls).run schedule).world := by
  refine invariant_run (P := fun crowd => ∃ stage : ι → Stage,
    crowd.parts = (fun i => (stage i).program (calls i)) ∧
      Orderly calls w.store stage crowd.world) ?_ ?_ schedule
  · rintro crowd i ⟨stage, hparts, horderly⟩
    have hpart : crowd.parts i = (stage i).program (calls i) := congrFun hparts i
    have hstep := Stage.step_program (c := calls i) horderly.faults (stage i)
    rw [← hpart] at hstep
    refine ⟨Function.update stage i ((stage i).next (calls i) crowd.world).1, ?_, ?_⟩
    · funext j
      by_cases hj : j = i
      · subst hj
        rw [step_parts_self, hstep, Function.update_self]
      · rw [step_parts_of_ne hj, hparts, Function.update_of_ne hj]
    · rw [step, hstep]
      exact horderly.next i
  · exact ⟨fun i => (calls i).start, funext fun i => (program_start (calls i)).symm,
      Orderly.start hw hkeys calls⟩

/-- The calls ask for one endpoint that is not there: they share the host, the method and the text
of the template, none is of a response that says "not found", and no stored endpoint matches any of
their paths or has the template. -/
structure SameNew (calls : ι → ResolverCall) (store : MemoryStore) (host method path : String) :
    Prop where
  host_eq : ∀ i, (calls i).trace.host = host
  method_eq : ∀ i, (calls i).method = method
  template_eq : ∀ i, (calls i).template?.map (·.path) = some path
  found : ∀ i, (calls i).trace.isNotFound = false
  unmatched : ∀ i, store.findMatch host method (calls i).path = none
  free : store.findExact host method path = none

end Crowd

namespace Orderly

open Crowd

variable {calls : ι → ResolverCall} {initial : MemoryStore} {stage : ι → Stage} {w : World}
  {host method path : String}

theorem hasKey_of_names (hnew : SameNew calls initial host method path) {i : ι} {e : Endpoint}
    (h : (calls i).Names e) : e.hasKey host method path := by
  obtain ⟨template, htemplate, hkey⟩ := h
  have hpath := hnew.template_eq i
  rw [htemplate] at hpath
  rw [← hnew.host_eq i, ← hnew.method_eq i, ← Option.some.inj hpath]
  exact hkey

/-- A call for an endpoint that was not there answers one of those that were added. -/
theorem resolved_of_ended (h : Orderly calls initial stage w)
    (hnew : SameNew calls initial host method path) {added : MemoryStore}
    (hadded : w.store = initial ++ added) {i : ι} {answer : Resolution}
    (hi : stage i = .ended answer) : ∃ e ∈ added, ∃ isNew, answer = .resolved e isNew := by
  have hsound := h.sound i
  rw [hi] at hsound
  cases answer with
  | deferred => exact hsound.elim
  | unresolvable =>
    have hpath := hnew.template_eq i
    rcases hsound with hsound | hsound
    · rw [hnew.found i] at hsound
      cases hsound
    · rw [hsound] at hpath
      cases hpath
  | resolved e isNew =>
    refine ⟨e, ?_, isNew, rfl⟩
    obtain ⟨hmem, hfit⟩ := h.of_ended hi
    rw [hadded] at hmem
    refine (List.mem_append.1 hmem).resolve_left fun hold => ?_
    rcases hfit with ⟨hhost, hmethod, hmatch⟩ | hname
    · exact MemoryStore.findMatch_eq_none.1 (hnew.unmatched i) e hold
        (hhost.trans (hnew.host_eq i)) (hmethod.trans (hnew.method_eq i)) hmatch
    · exact MemoryStore.findExact_eq_none.1 hnew.free e hold (hasKey_of_names hnew hname)

/-- Calls for one new endpoint make it once, and all of them answer it. -/
theorem one_made (h : Orderly calls initial stage w)
    (hnew : SameNew calls initial host method path) [Nonempty ι]
    (hended : ∀ i, ∃ answer, stage i = .ended answer) :
    ∃ e, w.store = initial ++ [e] ∧ ∀ i, ∃ isNew, stage i = .ended (.resolved e isNew) := by
  obtain ⟨added, hadded, -, hmaker⟩ := h.makers
  have hresolved : ∀ i, ∃ e ∈ added, ∃ isNew, stage i = .ended (.resolved e isNew) := by
    intro i
    obtain ⟨answer, hi⟩ := hended i
    obtain ⟨e, he, isNew, rfl⟩ := h.resolved_of_ended hnew hadded hi
    exact ⟨e, he, isNew, hi⟩
  have hkey : ∀ e ∈ added, e.key = (host, method, path) := by
    intro e he
    obtain ⟨i, hi, -⟩ := hmaker e he
    have hsound := h.sound i
    rw [hi] at hsound
    exact Endpoint.hasKey_iff_key.1 (hasKey_of_names hnew hsound.2)
  have hmem : ∀ e ∈ added, e ∈ w.store := fun e he => hadded ▸ List.mem_append_right _ he
  have hone : ∀ e ∈ added, ∀ f ∈ added, e = f := fun e he f hf =>
    h.keys.eq_of_key (hmem e he) (hmem f hf) ((hkey e he).trans (hkey f hf).symm)
  obtain ⟨e, he, -⟩ := hresolved (Classical.arbitrary ι)
  have hnodup : added.Nodup := by
    have hstore := List.Nodup.of_map Endpoint.key h.keys
    rw [hadded] at hstore
    exact (List.nodup_append.1 hstore).2.1
  have hsingle : added = [e] := by
    have hall := List.eq_replicate_of_mem fun f hf => hone f hf e he
    have hlength : added.length ≤ 1 := List.nodup_replicate.1 (hall ▸ hnodup)
    have hpos := List.length_pos_of_mem he
    rw [hall, show added.length = 1 by omega]
    rfl
  refine ⟨e, by rw [hadded, hsingle], fun j => ?_⟩
  obtain ⟨f, hf, isNew, hj⟩ := hresolved j
  obtain rfl := hone f hf e he
  exact ⟨isNew, hj⟩

end Orderly

namespace Crowd

variable [DecidableEq ι] {w : World}

/-- **Calls at the same time make each endpoint once.** Calls of resolvers share a store without
planned faults, in which no two endpoints have the same host, method and path. However they take
turns: no two stored endpoints ever share host, method and path; the calls that answer a new
endpoint are the makers of the endpoints that were added, one for each; no call fails or answers
that its trace is to be kept for later; every endpoint that is answered is stored; a call for a
response that says "not found" never stores anything; and four turns are enough for a call. Calls
that all ask for one endpoint which is not there make one, and all of them answer it. -/
theorem calls_make_once (hw : w.faults = {}) (hkeys : w.store.DistinctKeys)
    (calls : ι → ResolverCall) (schedule : List ι) :
    let crowd := (ofCalls w calls).run schedule
    crowd.world.store.DistinctKeys ∧
      (∃ added, crowd.world.store = w.store ++ added ∧
        (∀ i e, crowd.Answered i (.resolved e true) → e ∈ added) ∧
        ∀ e ∈ added, ∃! i, crowd.Answered i (.resolved e true)) ∧
      (∀ i f, crowd.parts i ≠ .done (.error f)) ∧
      (∀ i, ¬ crowd.Answered i .deferred) ∧
      (∀ i e isNew, crowd.Answered i (.resolved e isNew) → e ∈ crowd.world.store) ∧
      (∀ i, (calls i).trace.isNotFound → (crowd.step i).world.store = crowd.world.store) ∧
      (∀ i, 4 ≤ schedule.count i → ∃ answer, crowd.Answered i answer) ∧
      ∀ host method path, SameNew calls w.store host method path → Nonempty ι →
        (∀ i, ∃ answer, crowd.Answered i answer) →
        ∃ e, crowd.world.store = w.store ++ [e] ∧
          ∀ i, ∃ isNew, crowd.Answered i (.resolved e isNew) := by
  intro crowd
  obtain ⟨stage, hparts, h⟩ := exists_orderly_run hw hkeys calls schedule
  have hpart : ∀ i, crowd.parts i = (stage i).program (calls i) := congrFun hparts
  have hanswered : ∀ i answer, crowd.Answered i answer ↔ stage i = .ended answer := by
    intro i answer
    rw [Answered, hpart]
    exact Stage.program_eq_done
  have hfailed : ∀ i f, crowd.parts i ≠ .done (.error f) := by
    intro i f hi
    rw [hpart] at hi
    exact Stage.program_ne_error hi
  simp only [hanswered]
  refine ⟨h.keys, h.makers, hfailed, ?_, ?_, ?_, ?_, ?_⟩
  · intro i hi
    have hsound := h.sound i
    rw [hi] at hsound
    exact hsound
  · exact fun i e isNew hi => (h.of_ended hi).1
  · intro i hi
    have hstep := Stage.step_program (c := calls i) h.faults (stage i)
    rw [← hpart] at hstep
    rw [step, hstep]
    rcases Stage.next_cases (h.sound i) with ⟨hstore, -⟩ | ⟨_, _, -, hfound, -⟩
    · exact hstore
    · rw [hi] at hfound
      cases hfound
  · intro i hi
    have hwithin := Stage.within_start (calls i)
    rw [program_start] at hwithin
    obtain ⟨f | answer, hdone⟩ : ∃ outcome, crowd.parts i = .done outcome :=
      done_of_turns hwithin hi
    · exact absurd hdone (hfailed i f)
    · exact ⟨answer, (hanswered i answer).1 hdone⟩
  · intro host method path hnew hι hended
    exact h.one_made hnew hended

/-- Two calls that take turns, and both find nothing before either of them stores an endpoint. -/
theorem calls_make_once_twins :
    let calls : Bool → ResolverCall := fun i =>
      World.plainCall (if i then "/users/1" else "/users/2")
    let crowd := (ofCalls World.blank calls).run
      [false, true, false, true, false, true, false, true]
    SameNew calls World.blank.store "api.local" "GET" "/users/\x7bparam1\x7d" ∧
      ∃ e, crowd.world.store = [e] ∧ ∀ i, ∃ isNew, crowd.Answered i (.resolved e isNew) := by
  intro calls crowd
  have hnew : SameNew calls World.blank.store "api.local" "GET" "/users/\x7bparam1\x7d" :=
    { host_eq := by decide +kernel
      method_eq := by decide +kernel
      template_eq := by decide +kernel
      found := by decide +kernel
      unmatched := fun _ => rfl
      free := rfl }
  obtain ⟨-, -, -, -, -, -, hturns, hone⟩ :=
    calls_make_once (w := World.blank) rfl List.nodup_nil calls
      [false, true, false, true, false, true, false, true]
  exact ⟨hnew, hone _ _ _ hnew ⟨false⟩ fun i => hturns i (by cases i <;> decide)⟩

end Crowd

end TrafficLens
