import TrafficLens.Analysis.Document
import TrafficLens.Proofs.Json.Shape

/-!
# Edits of a tree

An edit changes the value at the end of a path of keys (`edit`), and what stands in its way is
replaced by objects. The value that it finds there is `valueAt`. Edits at different places of a tree
have nothing to do with each other, if no path is the beginning of another one: an edit is seen at
the end of its own path (`valueAt_edit_self`) and at the end of no other (`valueAt_edit_of_apart`),
and an edit that finds its change made leaves the whole tree as it is (`edit_eq_self`).

A run of edits is followed key by key. Under a key of the tree that a run leaves stands what the
edits below that key leave of what stood there before (`seek?_membersOf_run`), and so at the end of
any path (`valueAt_run`).
-/

namespace TrafficLens.Document

/-! ## Places -/

@[simp] theorem membersOf_none : membersOf none = [] := rfl

@[simp] theorem membersOf_object (ms : Members) : membersOf (some (.object ms)) = ms := rfl

/-- A value that has members is the object of them. -/
theorem eq_object_of_seek? {v : Option Json} {key : String} {w : Json}
    (h : Dict.seek? key (membersOf v) = some w) : v = some (.object (membersOf v)) := by
  rcases v with _ | _ | _ | _ | _ | _ | ms
  case some.object => rfl
  all_goals simp [membersOf, Json.members?] at h

/-- The value at the end of a path of keys. -/
def valueAt : List String → Option Json → Option Json
  | [], v => v
  | k :: ks, v => valueAt ks (Dict.seek? k (membersOf v))

theorem valueAt_append (p q : List String) (v : Option Json) :
    valueAt (p ++ q) v = valueAt q (valueAt p v) := by
  induction p generalizing v with
  | nil => rfl
  | cons k ks ih => exact ih _

theorem valueAt_none (path : List String) : valueAt path none = none := by
  induction path with
  | nil => rfl
  | cons k ks ih => exact ih

/-- On the way to a value stand objects. -/
theorem exists_object_of_valueAt {p q : List String} {k : String} {v : Option Json} {w : Json}
    (h : valueAt (p ++ k :: q) v = some w) : ∃ ms, valueAt p v = some (.object ms) := by
  rw [valueAt_append, valueAt] at h
  cases hk : Dict.seek? k (membersOf (valueAt p v)) with
  | none =>
    rw [hk, valueAt_none] at h
    cases h
  | some u => exact ⟨_, eq_object_of_seek? hk⟩

/-- What stands inside a lawful value is lawful. -/
theorem lawful_valueAt {allowed : JsonNumber → Prop} {v : Option Json}
    (h : ∀ x ∈ v, x.Lawful allowed) (path : List String) :
    ∀ x ∈ valueAt path v, x.Lawful allowed := by
  induction path generalizing v with
  | nil => exact h
  | cons k ks ih =>
    refine ih fun x hx => ?_
    have hobject := eq_object_of_seek? hx
    have hlawful := Json.lawful_object_iff.1 (h _ hobject)
    exact hlawful.2 _ (Dict.mem_of_seek? hx)

/-- In a value whose members are in order, a member that is looked up is what stands at the end of
the path with its key. -/
theorem member?_eq_valueAt {v : Option Json} (hv : ∀ x ∈ v, x.Ordered) {path : List String}
    {x : Json} (hx : valueAt path v = some x) (key : String) :
    x.member? key = valueAt (path ++ [key]) v := by
  have hordered : x.Ordered := lawful_valueAt hv path x hx
  rw [valueAt_append, hx]
  cases x with
  | object ms => exact Dict.find?_eq_seek? key (Json.lawful_object_iff.1 hordered).1
  | _ => rfl

/-! ## One edit -/

/-- Change the value at the end of a path of keys. What stands in the way is replaced by objects. -/
def edit (change : Option Json → Json) : List String → Option Json → Json
  | [], v => change v
  | k :: ks, v => .object (Dict.alter k (edit change ks) (membersOf v))

variable {change : Option Json → Json}

theorem valueAt_edit_self (path : List String) (v : Option Json) :
    valueAt path (some (edit change path v)) = some (change (valueAt path v)) := by
  induction path generalizing v with
  | nil => rfl
  | cons k ks ih =>
    rw [edit, valueAt, membersOf_object, Dict.seek?_alter_self]
    exact ih _

/-- An edit is not seen at the end of a path that goes another way. -/
theorem valueAt_edit_of_apart {p q : List String} (h : ¬ p <+: q) (h' : ¬ q <+: p)
    (v : Option Json) : valueAt q (some (edit change p v)) = valueAt q v := by
  induction p generalizing q v with
  | nil => exact absurd List.nil_prefix h
  | cons k ks ih =>
    cases q with
    | nil => exact absurd List.nil_prefix h'
    | cons l ls =>
      rw [edit, valueAt, membersOf_object, valueAt]
      by_cases hl : l = k
      · subst hl
        rw [List.prefix_cons_inj] at h h'
        rw [Dict.seek?_alter_self]
        exact ih h h' _
      · rw [Dict.seek?_alter_of_ne hl]

/-- An edit whose change is made already changes nothing. -/
theorem edit_eq_self {path : List String} {v : Option Json} {w : Json}
    (h : valueAt path v = some w) (hw : change (some w) = w) : some (edit change path v) = v := by
  induction path generalizing v with
  | nil =>
    obtain rfl : v = some w := h
    exact congrArg some hw
  | cons k ks ih =>
    have hinner : some (edit change ks (Dict.seek? k (membersOf v))) = Dict.seek? k (membersOf v) :=
      ih h
    have hobject := eq_object_of_seek? hinner.symm
    have hkept : Dict.alter k (edit change ks) (membersOf v) = membersOf v := by
      refine Dict.alter_eq_self hinner.symm ?_
      have hagain := hinner
      rw [← hinner] at hagain
      exact Option.some.inj hagain
    rw [edit, hkept]
    exact hobject.symm

/-- Edits keep a tree lawful if the changes do. -/
theorem lawful_edit {allowed : JsonNumber → Prop}
    (hchange : ∀ v : Option Json, (∀ x ∈ v, x.Lawful allowed) → (change v).Lawful allowed)
    (path : List String) {v : Option Json} (hv : ∀ x ∈ v, x.Lawful allowed) :
    (edit change path v).Lawful allowed := by
  induction path generalizing v with
  | nil => exact hchange v hv
  | cons k ks ih =>
    have hmembers : Dict.Ordered (membersOf v) ∧ ∀ m ∈ membersOf v, m.2.Lawful allowed := by
      rcases v with _ | _ | _ | _ | _ | _ | ms
      case some.object => exact Json.lawful_object_iff.1 (hv _ rfl)
      all_goals exact ⟨Dict.ordered_nil, by simp [membersOf, Json.members?]⟩
    rw [edit, Json.lawful_object_iff]
    exact ⟨Dict.ordered_alter _ _ hmembers.1,
      Dict.forall_mem_alter (P := Json.Lawful allowed) hmembers.2 fun old hold => ih hold⟩

/-! ## Runs of edits -/

section Run

variable {α : Type} (act : α → Option Json → Json)

/-- A tree after a run of edits: each has a path, and says what happens at its end. -/
def run (edits : List (List String × α)) (v : Option Json) : Option Json :=
  edits.foldl (fun v e => some (edit (act e.2) e.1 v)) v

@[simp] theorem run_nil (v : Option Json) : run act [] v = v := rfl

theorem run_cons (e : List String × α) (edits : List (List String × α)) (v : Option Json) :
    run act (e :: edits) v = run act edits (some (edit (act e.2) e.1 v)) := rfl

theorem run_append (edits more : List (List String × α)) (v : Option Json) :
    run act (edits ++ more) v = run act more (run act edits v) := by
  rw [run, List.foldl_append]
  rfl

/-- The edits below a key, with the rest of their paths. -/
def below (key : String) (edits : List (List String × α)) : List (List String × α) :=
  edits.filterMap fun e =>
    match e.1 with
    | [] => none
    | k :: ks => if k = key then some (ks, e.2) else none

/-- The edits at or below the end of a path, with the rest of their paths. -/
def belowPath : List String → List (List String × α) → List (List String × α)
  | [], edits => edits
  | k :: ks, edits => belowPath ks (below k edits)

variable {act}

theorem mem_below {key : String} {edits : List (List String × α)} {q : List String} {a : α} :
    (q, a) ∈ below key edits ↔ (key :: q, a) ∈ edits := by
  rw [below, List.mem_filterMap]
  constructor
  · rintro ⟨⟨_ | ⟨k, ks⟩, b⟩, hmem, h⟩
    · cases h
    · split at h
      · cases h
      · next heq =>
        split at h
        · next hk =>
          obtain ⟨rfl, rfl⟩ := List.cons.inj heq
          obtain ⟨rfl, rfl⟩ := Prod.mk.inj (Option.some.inj h)
          rwa [← hk]
        · cases h
  · intro h
    exact ⟨_, h, if_pos rfl⟩

theorem mem_belowPath {path : List String} {edits : List (List String × α)} {q : List String}
    {a : α} : (q, a) ∈ belowPath path edits ↔ (path ++ q, a) ∈ edits := by
  induction path generalizing edits with
  | nil => rfl
  | cons k ks ih => rw [belowPath, ih, mem_below, List.cons_append]

theorem below_perm {key : String} {edits others : List (List String × α)}
    (h : edits.Perm others) : (below key edits).Perm (below key others) :=
  h.filterMap _

/-- **A run is followed key by key.** -/
theorem seek?_membersOf_run {edits : List (List String × α)} (h : ∀ e ∈ edits, e.1 ≠ [])
    (key : String) (v : Option Json) :
    Dict.seek? key (membersOf (run act edits v)) =
      run act (below key edits) (Dict.seek? key (membersOf v)) := by
  induction edits generalizing v with
  | nil => rfl
  | cons e rest ih =>
    obtain ⟨he, hrest⟩ := List.forall_mem_cons.1 h
    obtain ⟨_ | ⟨k, ks⟩, a⟩ := e
    · exact absurd rfl he
    · rw [run_cons, ih hrest, edit, membersOf_object]
      by_cases hk : k = key
      · subst hk
        have hbelow : below k ((k :: ks, a) :: rest) = (ks, a) :: below k rest := by
          simp [below]
        rw [hbelow, run_cons, Dict.seek?_alter_self]
      · have hbelow : below key ((k :: ks, a) :: rest) = below key rest := by
          simp [below, hk]
        rw [hbelow, Dict.seek?_alter_of_ne (Ne.symm hk)]

/-- At the end of a path stands what the edits there leave, if no edit ends on the way. -/
theorem valueAt_run {path : List String} {edits : List (List String × α)}
    (h : ∀ e ∈ edits, e.1 <+: path → e.1 = path) (v : Option Json) :
    valueAt path (run act edits v) = run act (belowPath path edits) (valueAt path v) := by
  induction path generalizing edits v with
  | nil => rfl
  | cons k ks ih =>
    have hne : ∀ e ∈ edits, e.1 ≠ [] := by
      intro e he hnil
      have hpath := h e he (hnil ▸ List.nil_prefix)
      rw [hnil] at hpath
      cases hpath
    have hbelow : ∀ e ∈ below k edits, e.1 <+: ks → e.1 = ks := by
      rintro ⟨q, a⟩ he hq
      exact (List.cons.inj (h _ (mem_below.1 he) ((List.prefix_cons_inj k).2 hq))).2
    rw [valueAt, seek?_membersOf_run hne, ih hbelow]
    rfl

/-- A run of edits makes something. -/
theorem exists_run_eq_some {edits : List (List String × α)} (hne : edits ≠ []) (v : Option Json) :
    ∃ w, run act edits v = some w := by
  induction edits using List.reverseRecOn with
  | nil => exact absurd rfl hne
  | append_singleton front e _ =>
    rw [run_append]
    exact ⟨_, rfl⟩

/-- A run of edits below the root makes an object. -/
theorem run_eq_object {edits : List (List String × α)} (hne : edits ≠ [])
    (h : ∀ e ∈ edits, e.1 ≠ []) (v : Option Json) :
    run act edits v = some (.object (membersOf (run act edits v))) := by
  induction edits using List.reverseRecOn with
  | nil => exact absurd rfl hne
  | append_singleton front e _ =>
    obtain ⟨_ | ⟨k, ks⟩, a⟩ := e
    · exact absurd rfl (h ([], a) (by simp))
    · rw [run_append]
      rfl

/-- Edits below a key, as edits of the tree above. -/
def pushed (key : String) (edits : List (List String × α)) : List (List String × α) :=
  edits.map fun e => (key :: e.1, e.2)

theorem pushed_ne_nil {key : String} {edits : List (List String × α)} (h : edits ≠ []) :
    pushed key edits ≠ [] :=
  List.map_eq_nil_iff.not.2 h

theorem forall_pushed (key : String) (edits : List (List String × α)) :
    ∀ e ∈ pushed key edits, e.1 ≠ [] := by
  intro e he
  obtain ⟨d, -, rfl⟩ := List.mem_map.1 he
  exact List.cons_ne_nil _ _

/-- A run below a key changes one member. -/
theorem run_pushed (key : String) {edits : List (List String × α)} (hne : edits ≠ [])
    (v : Option Json) :
    run act (pushed key edits) v =
      some (.object
        (Dict.alter key (fun old => (run act edits old).getD .null) (membersOf v))) := by
  induction edits generalizing v with
  | nil => exact absurd rfl hne
  | cons e rest ih =>
    have hstep : run act (pushed key (e :: rest)) v =
        run act (pushed key rest)
          (some (.object (Dict.alter key (edit (act e.2) e.1) (membersOf v)))) := rfl
    cases rest with
    | nil => exact hstep
    | cons d rest =>
      rw [hstep, ih (by simp), membersOf_object, Dict.alter_alter]
      rfl

/-- Edits below the root see the members of a value only. -/
theorem run_congr {edits : List (List String × α)} (hne : edits ≠ []) (h : ∀ e ∈ edits, e.1 ≠ [])
    {v w : Option Json} (hvw : membersOf v = membersOf w) : run act edits v = run act edits w := by
  cases edits with
  | nil => exact absurd rfl hne
  | cons e rest =>
    obtain ⟨_ | ⟨k, ks⟩, a⟩ := e
    · exact absurd rfl (h ([], a) (by simp))
    · rw [run_cons, run_cons, edit, edit, hvw]

variable (act) in
/-- A run of edits does to the members of an object what `change` does. -/
def Performs (edits : List (List String × α)) (change : Members → Members) : Prop :=
  ∀ ms, run act edits (some (.object ms)) = some (.object (change ms))

theorem performs_nil : Performs act [] id := fun _ => rfl

theorem performs_singleton (key : String) (a : α) :
    Performs act [([key], a)] (Dict.alter key (act a)) := fun _ => rfl

theorem Performs.append {edits more : List (List String × α)} {f g : Members → Members}
    (hf : Performs act edits f) (hg : Performs act more g) :
    Performs act (edits ++ more) (fun ms => g (f ms)) := by
  intro ms
  rw [run_append, hf, hg]

/-- The edits of a list of things, made one after the other. -/
theorem performs_flatMap {β : Type} {edits : β → List (List String × α)}
    {change : β → Members → Members} (h : ∀ b, Performs act (edits b) (change b)) (bs : List β) :
    Performs act (bs.flatMap edits) (fun ms => bs.foldl (fun ms b => change b ms) ms) := by
  induction bs with
  | nil => exact performs_nil
  | cons b bs ih => exact (h b).append ih

theorem Performs.inChild {edits : List (List String × α)} {change : Members → Members}
    (h : Performs act edits change) (key : String) (hne : edits ≠ [])
    (hkeys : ∀ e ∈ edits, e.1 ≠ []) :
    Performs act (pushed key edits) (inChild key change) := by
  intro ms
  have hinner : ∀ old, run act edits old = some (.object (change (membersOf old))) := by
    intro old
    have hmembers : membersOf old = membersOf (some (.object (membersOf old))) := rfl
    rw [run_congr hne hkeys hmembers, h]
  rw [run_pushed key hne]
  simp only [hinner, Option.getD_some]
  rfl

theorem lawful_run {allowed : JsonNumber → Prop} {edits : List (List String × α)}
    (hact : ∀ e ∈ edits, ∀ v : Option Json, (∀ x ∈ v, x.Lawful allowed) →
      (act e.2 v).Lawful allowed)
    {v : Option Json} (hv : ∀ x ∈ v, x.Lawful allowed) :
    ∀ x ∈ run act edits v, x.Lawful allowed := by
  induction edits generalizing v with
  | nil => exact hv
  | cons e rest ih =>
    obtain ⟨he, hrest⟩ := List.forall_mem_cons.1 hact
    refine ih hrest fun x hx => ?_
    obtain rfl : edit (act e.2) e.1 v = x := Option.some.inj hx
    exact lawful_edit he e.1 hv

end Run

end TrafficLens.Document
