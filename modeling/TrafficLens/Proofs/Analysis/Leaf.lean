import TrafficLens.Analysis.Observation
import TrafficLens.Proofs.Json.Shape
import TrafficLens.Proofs.Text.Parts

/-!
# The paths of leaves

A leaf of a body is reached by steps, each to the member of an object or to an item of an array. The
path of the leaf is put together from these steps by writing keys as they are, between dots, and the
items of an array as `[]` (`Observation.leaves_eq_map`). A key that is empty, or has a dot in it, or
ends as items are written, can make the paths of different steps equal. Keys that are none of this
cannot: such steps are read off their path again (`pathOf_injective`).
-/

namespace TrafficLens

namespace Json

/-! ## Leaves and their steps -/

/-- A step into a value: to the member of an object under a key, or to some item of an array. -/
inductive Step where
  | member (key : String)
  | item
deriving DecidableEq

/-- A scalar or an empty container inside a value, with the steps to it. -/
structure Leaf where
  steps : List Step
  value : Json
deriving DecidableEq

/-- The leaf, seen from one step before. -/
def Leaf.behind (step : Step) (l : Leaf) : Leaf := { l with steps := step :: l.steps }

mutual

/-- The leaves of a value. -/
def leaves : Json → List Leaf
  | .object (m :: ms) => memberLeaves (m :: ms)
  | .array (x :: xs) => itemLeaves (x :: xs)
  | v => [⟨[], v⟩]
termination_by structural v => v

/-- The leaves of the members of an object. -/
def memberLeaves : List (String × Json) → List Leaf
  | [] => []
  | (k, v) :: rest => (leaves v).map (.behind (.member k)) ++ memberLeaves rest
termination_by structural ms => ms

/-- The leaves of the items of an array. -/
def itemLeaves : List Json → List Leaf
  | [] => []
  | v :: rest => (leaves v).map (.behind .item) ++ itemLeaves rest
termination_by structural xs => xs

end

theorem mem_memberLeaves {ms : List (String × Json)} {l : Leaf} :
    l ∈ memberLeaves ms ↔ ∃ m ∈ ms, ∃ d ∈ m.2.leaves, d.behind (.member m.1) = l := by
  induction ms with
  | nil => simp [memberLeaves]
  | cons m ms ih => simp [memberLeaves, ih]

theorem leaves_object {ms : List (String × Json)} (h : ms ≠ []) :
    (Json.object ms).leaves = memberLeaves ms := by
  cases ms with
  | nil => exact absurd rfl h
  | cons m ms => rfl

/-! ## Paths -/

/-- The path of a step from a path. -/
def Step.extend (path : String) : Step → String
  | .member key => Observation.memberPath path key
  | .item => path ++ "[]"

/-- The path of steps. -/
def pathOf (steps : List Step) : String := steps.foldl Step.extend ""

theorem pathOf_concat (steps : List Step) (step : Step) :
    pathOf (steps ++ [step]) = step.extend (pathOf steps) := by
  rw [pathOf, List.foldl_append]
  rfl

theorem extend_member_empty (key : String) : (Step.member key).extend "" = key := rfl

theorem toList_extend_member {path : String} (h : path ≠ "") (key : String) :
    ((Step.member key).extend path).toList = path.toList ++ '.' :: key.toList := by
  rw [Step.extend, Observation.memberPath, if_neg (by simpa using h)]
  simp

theorem toList_extend_item (path : String) :
    (Step.item.extend path).toList = path.toList ++ ['[', ']'] :=
  String.toList_append

theorem extend_eq_empty_iff {path : String} {step : Step} :
    step.extend path = "" ↔ path = "" ∧ step = .member "" := by
  cases step with
  | item =>
    rw [← String.toList_inj, toList_extend_item]
    simp
  | member key =>
    by_cases h : path = ""
    · simp [h, extend_member_empty]
    · rw [← String.toList_inj, toList_extend_member h]
      simp [h]

/-- A path is empty if there are no steps, or only steps with the empty key. -/
theorem pathOf_eq_empty_iff {steps : List Step} :
    pathOf steps = "" ↔ ∀ step ∈ steps, step = .member "" := by
  induction steps using List.reverseRecOn with
  | nil => simp [pathOf]
  | append_singleton steps step ih =>
    rw [pathOf_concat, extend_eq_empty_iff, ih, List.forall_mem_append, List.forall_mem_singleton]

/-! ## Plain keys -/

/-- A key that can be told from dots and items of arrays, where it stands in a path. -/
structure PlainKey (key : String) : Prop where
  ne_empty : key ≠ ""
  no_dot : '.' ∉ key.toList
  no_item : ¬ ['[', ']'] <:+ key.toList

instance (key : String) : Decidable (PlainKey key) :=
  decidable_of_iff (key ≠ "" ∧ '.' ∉ key.toList ∧ ¬ ['[', ']'] <:+ key.toList)
    ⟨fun h => ⟨h.1, h.2.1, h.2.2⟩, fun h => ⟨h.ne_empty, h.no_dot, h.no_item⟩⟩

/-- A step whose key is plain, if it has one. -/
def Step.Plain : Step → Prop
  | .member key => PlainKey key
  | .item => True

instance : DecidablePred Step.Plain
  | .member key => inferInstanceAs (Decidable (PlainKey key))
  | .item => .isTrue trivial

/-- A path that ends with a plain key does not end as items are written. -/
theorem PlainKey.not_suffix {key : String} (h : PlainKey key) (path : String) :
    ¬ ['[', ']'] <:+ ((Step.member key).extend path).toList := by
  by_cases hpath : path = ""
  · rw [hpath]
    exact h.no_item
  · rw [toList_extend_member hpath]
    intro hsuffix
    have hkey : '.' :: key.toList <:+ path.toList ++ '.' :: key.toList := List.suffix_append _ _
    -- with its dot, the key is too long to be a part of what items are written as
    rcases List.suffix_or_suffix_of_suffix hsuffix hkey with hitem | hdot
    · rcases List.suffix_cons_iff.1 hitem with heq | hitem
      · simp at heq
      · exact h.no_item hitem
    · simpa using hdot.subset List.mem_cons_self

theorem Step.Plain.extend_ne_empty {step : Step} (h : step.Plain) (path : String) :
    step.extend path ≠ "" := by
  rw [Ne, extend_eq_empty_iff]
  rintro ⟨-, rfl⟩
  exact h.ne_empty rfl

/-- The last step is read off a path. -/
theorem extend_injective {a b : Step} (ha : a.Plain) (hb : b.Plain) {p q : String}
    (h : a.extend p = b.extend q) : a = b ∧ p = q := by
  have hlist : (a.extend p).toList = (b.extend q).toList := congrArg String.toList h
  cases a with
  | item =>
    rw [toList_extend_item] at hlist
    cases b with
    | item =>
      rw [toList_extend_item] at hlist
      exact ⟨rfl, String.toList_inj.1 (List.append_cancel_right hlist)⟩
    | member key => exact absurd (hlist ▸ List.suffix_append _ _) (PlainKey.not_suffix hb q)
  | member key =>
    cases b with
    | item =>
      rw [toList_extend_item] at hlist
      exact absurd (hlist ▸ List.suffix_append _ _) (PlainKey.not_suffix ha p)
    | member key' =>
      by_cases hp : p = "" <;> by_cases hq : q = ""
      · subst hp hq
        exact ⟨congrArg Step.member h, rfl⟩
      · rw [hp, extend_member_empty, toList_extend_member hq] at hlist
        exact absurd (hlist ▸ by simp) ha.no_dot
      · rw [hq, extend_member_empty, toList_extend_member hp] at hlist
        exact absurd (hlist ▸ by simp) hb.no_dot
      · rw [toList_extend_member hp, toList_extend_member hq] at hlist
        obtain ⟨hpath, hkey⟩ := append_cons_inj_of_last hlist ha.no_dot hb.no_dot
        exact ⟨congrArg Step.member (String.toList_inj.1 hkey), String.toList_inj.1 hpath⟩

/-- **Plain steps are read off their path.** -/
theorem pathOf_injective {as bs : List Step} (ha : ∀ a ∈ as, a.Plain) (hb : ∀ b ∈ bs, b.Plain)
    (h : pathOf as = pathOf bs) : as = bs := by
  induction as using List.reverseRecOn generalizing bs with
  | nil =>
    cases bs using List.reverseRecOn with
    | nil => rfl
    | append_singleton bs b =>
      rw [pathOf_concat] at h
      exact absurd h.symm ((hb b (by simp)).extend_ne_empty _)
  | append_singleton as a ih =>
    cases bs using List.reverseRecOn with
    | nil =>
      rw [pathOf_concat] at h
      exact absurd h ((ha a (by simp)).extend_ne_empty _)
    | append_singleton bs b =>
      rw [List.forall_mem_append, List.forall_mem_singleton] at ha hb
      rw [pathOf_concat, pathOf_concat] at h
      obtain ⟨rfl, hpath⟩ := extend_injective ha.2 hb.2 h
      rw [ih ha.1 hb.1 hpath]

/-! ## Keys that are not plain -/

theorem ordered_ofEntries {entries : List (String × Json)} (h : ∀ e ∈ entries, e.2.Ordered) :
    (ofEntries entries).Ordered :=
  lawful_object_iff.2 ⟨Dict.ordered_ofList entries, Dict.forall_mem_ofList h⟩

theorem mem_leaves_ofEntries {entries : List (String × Json)} (h : (Dict.keys entries).Nodup)
    {key : String} {v : Json} (hv : (key, v) ∈ entries) {l : Leaf} (hl : l ∈ v.leaves) :
    l.behind (.member key) ∈ (ofEntries entries).leaves := by
  have hmem : (key, v) ∈ Dict.ofList entries := Dict.mem_ofList_of_mem h hv
  rw [ofEntries, leaves_object (List.ne_nil_of_mem hmem), mem_memberLeaves]
  exact ⟨(key, v), hmem, l, hl, rfl⟩

/-- An object with one member. -/
def single (key : String) (v : Json) : Json := ofEntries [(key, v)]

theorem ordered_single (key : String) {v : Json} (h : v.Ordered) : (single key v).Ordered :=
  ordered_ofEntries (List.forall_mem_singleton.2 h)

theorem mem_leaves_single (key : String) {v : Json} {l : Leaf} (h : l ∈ v.leaves) :
    l.behind (.member key) ∈ (single key v).leaves :=
  mem_leaves_ofEntries (by simp [Dict.keys]) List.mem_cons_self h

theorem ordered_null : Json.null.Ordered := trivial

theorem nil_mem_leaves_null : ⟨[], .null⟩ ∈ Json.null.leaves := List.mem_cons_self

/-- In some body, steps through the key have the path of other steps. -/
def Collide (key : String) : Prop :=
  ∃ body : Json, body.Ordered ∧ ∃ a ∈ body.leaves, ∃ b ∈ body.leaves,
    .member key ∈ a.steps ∧ pathOf a.steps = pathOf b.steps ∧ a.steps ≠ b.steps

/-- Two steps, one of them in front, have the path of one step. -/
theorem collide_of_two_steps {key : String} (other : String) {inner : Json} {step : Step}
    (hne : other ≠ key)
    (hinner : inner.Ordered) (hleaf : ⟨[step], .null⟩ ∈ inner.leaves)
    (hpath : step.extend ((Step.member other).extend "a") = (Step.member key).extend "a") :
    Collide key := by
  let around : Json := ofEntries [(other, inner), (key, .null)]
  have hnodup : (Dict.keys [(other, inner), (key, Json.null)]).Nodup := by simp [Dict.keys, hne]
  have ha : ⟨[.member key], .null⟩ ∈ around.leaves :=
    mem_leaves_ofEntries hnodup (List.mem_cons_of_mem _ List.mem_cons_self) nil_mem_leaves_null
  have hb : ⟨[.member other, step], .null⟩ ∈ around.leaves :=
    mem_leaves_ofEntries hnodup List.mem_cons_self hleaf
  have haround : around.Ordered :=
    ordered_ofEntries (List.forall_mem_cons.2 ⟨hinner, List.forall_mem_singleton.2 ordered_null⟩)
  refine ⟨single "a" around, ordered_single "a" haround, _, mem_leaves_single "a" ha, _,
    mem_leaves_single "a" hb, by simp [Leaf.behind], hpath.symm, by simp [Leaf.behind]⟩

theorem collide_empty : Collide "" := by
  have hnodup : (Dict.keys [("", single "a" .null), ("a", Json.null)]).Nodup := by decide
  have hinner : (single "a" .null).Ordered := ordered_single "a" ordered_null
  refine ⟨ofEntries [("", single "a" .null), ("a", .null)],
    ordered_ofEntries (List.forall_mem_cons.2 ⟨hinner, List.forall_mem_singleton.2 ordered_null⟩), _,
    mem_leaves_ofEntries hnodup List.mem_cons_self (mem_leaves_single "a" nil_mem_leaves_null), _,
    mem_leaves_ofEntries hnodup (List.mem_cons_of_mem _ List.mem_cons_self) nil_mem_leaves_null,
    List.mem_cons_self, rfl, by simp [Leaf.behind]⟩

theorem collide_of_dot {key : String} (h : '.' ∈ key.toList) : Collide key := by
  obtain ⟨before, rest, hkey⟩ := List.append_of_mem h
  obtain rfl : key = .ofList (before ++ '.' :: rest) := by
    rw [← hkey, String.ofList_toList]
  refine collide_of_two_steps (.ofList before) ?_
    (ordered_single (.ofList rest) ordered_null)
    (mem_leaves_single (.ofList rest) nil_mem_leaves_null) ?_
  · simp [← String.toList_inj]
  · have hne : (Step.member (.ofList before)).extend "a" ≠ "" := by simp [extend_eq_empty_iff]
    rw [← String.toList_inj, toList_extend_member hne, toList_extend_member (by decide),
      toList_extend_member (by decide)]
    simp

theorem collide_of_item {key : String} (h : ['[', ']'] <:+ key.toList) : Collide key := by
  obtain ⟨before, hkey⟩ := h
  obtain rfl : key = .ofList (before ++ ['[', ']']) := by
    rw [hkey, String.ofList_toList]
  have hitem : ⟨[.item], .null⟩ ∈ (Json.array [.null]).leaves := List.mem_cons_self
  refine collide_of_two_steps (.ofList before) ?_
    (lawful_array_iff.2 (List.forall_mem_singleton.2 ordered_null)) hitem ?_
  · simp [← String.toList_inj]
  · rw [← String.toList_inj, toList_extend_item, toList_extend_member (by decide),
      toList_extend_member (by decide)]
    simp

/-- Every key that is not plain makes the paths of different steps equal, in some body. -/
theorem collide_of_not_plain {key : String} (h : ¬ PlainKey key) : Collide key := by
  by_cases hempty : key = ""
  · exact hempty ▸ collide_empty
  by_cases hdot : '.' ∈ key.toList
  · exact collide_of_dot hdot
  by_cases hitem : ['[', ']'] <:+ key.toList
  · exact collide_of_item hitem
  exact absurd ⟨hempty, hdot, hitem⟩ h

end Json

namespace Observation

open Json

/-- What a leaf shows, from a path on. -/
def ofLeaf (sec : Section) (path : String) (l : Leaf) : Observation where
  sec := sec
  path := l.steps.foldl Step.extend path
  value := l.value

mutual

/-- **The observations of a body** are its leaves, with the paths of their steps. -/
theorem leaves_eq_map (sec : Section) (path : String) :
    (v : Json) → leaves sec path v = v.leaves.map (ofLeaf sec path)
  | .null => rfl
  | .bool _ => rfl
  | .number _ => rfl
  | .string _ => rfl
  | .array [] => rfl
  | .array (x :: xs) => itemLeaves_eq_map sec path (x :: xs)
  | .object [] => rfl
  | .object (m :: ms) => memberLeaves_eq_map sec path (m :: ms)

theorem memberLeaves_eq_map (sec : Section) (path : String) :
    (ms : List (String × Json)) →
      memberLeaves sec path ms = (Json.memberLeaves ms).map (ofLeaf sec path)
  | [] => rfl
  | (k, v) :: rest => by
    rw [memberLeaves, Json.memberLeaves, List.map_append, List.map_map,
      leaves_eq_map sec (memberPath path k) v, memberLeaves_eq_map sec path rest]
    rfl

theorem itemLeaves_eq_map (sec : Section) (path : String) :
    (xs : List Json) →
      itemLeaves sec (path ++ "[]") xs = (Json.itemLeaves xs).map (ofLeaf sec path)
  | [] => rfl
  | v :: rest => by
    rw [itemLeaves, Json.itemLeaves, List.map_append, List.map_map,
      leaves_eq_map sec (path ++ "[]") v, itemLeaves_eq_map sec path rest]
    rfl

end

end Observation

/-- **What the paths of a body tell.** A leaf of a body is shown at the path of its steps. If the
keys on the way are plain, the leaves at one path are those behind the same steps. Whatever the keys
are, the empty path says that all of them are empty. And a key that is not plain makes the paths of
different steps equal, in some body. -/
theorem paths_of_leaves (sec : Section) :
    (∀ body : Json, Observation.leaves sec "" body = body.leaves.map (Observation.ofLeaf sec "")) ∧
    (∀ body : Json, ∀ a ∈ body.leaves, ∀ b ∈ body.leaves,
      (∀ step ∈ a.steps, step.Plain) → (∀ step ∈ b.steps, step.Plain) →
        ((Observation.ofLeaf sec "" a).path = (Observation.ofLeaf sec "" b).path ↔
          a.steps = b.steps)) ∧
    (∀ body : Json, ∀ a ∈ body.leaves,
      (Observation.ofLeaf sec "" a).path = "" ↔ ∀ step ∈ a.steps, step = .member "") ∧
    ∀ key, ¬ Json.PlainKey key → ∃ body : Json, body.Ordered ∧
      ∃ a ∈ body.leaves, ∃ b ∈ body.leaves, .member key ∈ a.steps ∧ a.steps ≠ b.steps ∧
        (Observation.ofLeaf sec "" a).path = (Observation.ofLeaf sec "" b).path := by
  refine ⟨Observation.leaves_eq_map sec "", ?_, fun _ _ _ => Json.pathOf_eq_empty_iff, ?_⟩
  · intro body a _ b _ ha hb
    exact ⟨Json.pathOf_injective ha hb, fun h => congrArg Json.pathOf h⟩
  · intro key hkey
    obtain ⟨body, hordered, a, ha, b, hb, hstep, hpath, hne⟩ := Json.collide_of_not_plain hkey
    exact ⟨body, hordered, a, ha, b, hb, hstep, hne, hpath⟩

/-- A body with nested containers and plain keys. -/
def plainBody : Json :=
  .object
    [("empty", .object []), ("items", .array [.object [("id", .nat 1)]]),
      ("user", .object [("tags", .array [.string "x", .string "y"])])]

/-- The two tags share their steps and so their path, and no other leaves do. -/
theorem paths_of_leaves_plain :
    ∀ a ∈ plainBody.leaves, ∀ b ∈ plainBody.leaves,
      ((Observation.ofLeaf .responseBody "" a).path = (Observation.ofLeaf .responseBody "" b).path ↔
        a.steps = b.steps) := by
  have hplain : ∀ a ∈ plainBody.leaves, ∀ step ∈ a.steps, step.Plain := by decide
  intro a ha b hb
  exact (paths_of_leaves .responseBody).2.1 plainBody a ha b hb (hplain a ha) (hplain b hb)

/-- Two leaves of a body that stand at different steps can be shown at one path, and a leaf inside a
body can be shown at the empty path, which is that of the body itself. -/
theorem exists_leaves_share_path :
    (∃ body, Json.parse? "\x7b\"a\":\x7b\"b\":1\x7d,\"a.b\":2\x7d" = some body ∧
      ∃ a ∈ body.leaves, ∃ b ∈ body.leaves, a.steps ≠ b.steps ∧
        (Observation.ofLeaf .responseBody "" a).path =
          (Observation.ofLeaf .responseBody "" b).path) ∧
    ∃ body, Json.parse? "\x7b\"\":1\x7d" = some body ∧
      ∃ a ∈ body.leaves, a.steps ≠ [] ∧ (Observation.ofLeaf .responseBody "" a).path = "" := by
  refine ⟨⟨.object [("a", .object [("b", .nat 1)]), ("a.b", .nat 2)], by decide +kernel,
    ⟨[.member "a", .member "b"], .nat 1⟩, by decide, ⟨[.member "a.b"], .nat 2⟩, by decide,
    by decide, by decide⟩, ?_⟩
  exact ⟨.object [("", .nat 1)], by decide +kernel, ⟨[.member ""], .nat 1⟩, by decide, by decide,
    rfl⟩

end TrafficLens
