import TrafficLens.Json.Basic
import TrafficLens.Proofs.Dict

/-!
# The shape of JSON values

Two things about a value that its text depends on. `Json.depth` is the number of arrays and objects
that are open at once while the value is read. `Json.Lawful` says that the members of every object
inside the value are in the order of their keys, as they are in every value that was read, and that
every number is one of the `allowed` ones.

Both are given for a value as a whole, by recursion, and both are used through what they say of the
items and members (`itemsDepth_le_iff`, `lawful_object_iff` and so on).
-/

namespace TrafficLens.Json

mutual

/-- The number of arrays and objects that are open at once inside a value. -/
def depth : Json → Nat
  | .array xs => itemsDepth xs + 1
  | .object ms => membersDepth ms + 1
  | _ => 0
termination_by structural v => v

/-- The greatest depth of some items. -/
def itemsDepth : List Json → Nat
  | [] => 0
  | x :: xs => max (depth x) (itemsDepth xs)
termination_by structural xs => xs

/-- The greatest depth of some members. -/
def membersDepth : List (String × Json) → Nat
  | [] => 0
  | (_, x) :: ms => max (depth x) (membersDepth ms)
termination_by structural ms => ms

end

@[simp] theorem depth_array (xs : List Json) : (Json.array xs).depth = itemsDepth xs + 1 := rfl

@[simp] theorem depth_object (ms : List (String × Json)) :
    (Json.object ms).depth = membersDepth ms + 1 := rfl

theorem itemsDepth_le_iff {xs : List Json} {n : Nat} :
    itemsDepth xs ≤ n ↔ ∀ x ∈ xs, x.depth ≤ n := by
  induction xs with
  | nil => simp [itemsDepth]
  | cons x xs ih => rw [itemsDepth, Nat.max_le, ih, List.forall_mem_cons]

theorem membersDepth_le_iff {ms : List (String × Json)} {n : Nat} :
    membersDepth ms ≤ n ↔ ∀ m ∈ ms, m.2.depth ≤ n := by
  induction ms with
  | nil => simp [membersDepth]
  | cons m ms ih =>
    obtain ⟨k, x⟩ := m
    rw [membersDepth, Nat.max_le, ih, List.forall_mem_cons]

mutual

/-- The members of every object are in the order of their keys, and every number is allowed. -/
def Lawful (allowed : JsonNumber → Prop) : Json → Prop
  | .number n => allowed n
  | .array xs => LawfulItems allowed xs
  | .object ms => Dict.Ordered ms ∧ LawfulMembers allowed ms
  | _ => True
termination_by structural v => v

/-- All the items are lawful. -/
def LawfulItems (allowed : JsonNumber → Prop) : List Json → Prop
  | [] => True
  | x :: xs => Lawful allowed x ∧ LawfulItems allowed xs
termination_by structural xs => xs

/-- The values of all the members are lawful. -/
def LawfulMembers (allowed : JsonNumber → Prop) : List (String × Json) → Prop
  | [] => True
  | (_, x) :: ms => Lawful allowed x ∧ LawfulMembers allowed ms
termination_by structural ms => ms

end

/-- The members of every object inside the value are in the order of their keys. -/
abbrev Ordered : Json → Prop := Lawful fun _ => True

variable {allowed : JsonNumber → Prop}

theorem lawfulItems_iff {xs : List Json} :
    LawfulItems allowed xs ↔ ∀ x ∈ xs, x.Lawful allowed := by
  induction xs with
  | nil => simp [LawfulItems]
  | cons x xs ih => simp [LawfulItems, ih]

theorem lawfulMembers_iff {ms : List (String × Json)} :
    LawfulMembers allowed ms ↔ ∀ m ∈ ms, m.2.Lawful allowed := by
  induction ms with
  | nil => simp [LawfulMembers]
  | cons m ms ih =>
    obtain ⟨k, x⟩ := m
    simp [LawfulMembers, ih]

theorem lawful_array_iff {xs : List Json} :
    (Json.array xs).Lawful allowed ↔ ∀ x ∈ xs, x.Lawful allowed := by
  rw [Lawful, lawfulItems_iff]

theorem lawful_object_iff {ms : List (String × Json)} :
    (Json.object ms).Lawful allowed ↔ Dict.Ordered ms ∧ ∀ m ∈ ms, m.2.Lawful allowed := by
  rw [Lawful, lawfulMembers_iff]

mutual

/-- A lawful value is lawful when more numbers are allowed. -/
theorem Lawful.mono {other : JsonNumber → Prop} (hle : ∀ n, allowed n → other n) :
    (v : Json) → v.Lawful allowed → v.Lawful other
  | .null, _ => trivial
  | .bool _, _ => trivial
  | .number n, h => hle n h
  | .string _, _ => trivial
  | .array xs, h => LawfulItems.mono hle xs h
  | .object ms, h => ⟨h.1, LawfulMembers.mono hle ms h.2⟩

theorem LawfulItems.mono {other : JsonNumber → Prop} (hle : ∀ n, allowed n → other n) :
    (xs : List Json) → LawfulItems allowed xs → LawfulItems other xs
  | [], _ => trivial
  | x :: xs, h => ⟨Lawful.mono hle x h.1, LawfulItems.mono hle xs h.2⟩

theorem LawfulMembers.mono {other : JsonNumber → Prop} (hle : ∀ n, allowed n → other n) :
    (ms : List (String × Json)) → LawfulMembers allowed ms → LawfulMembers other ms
  | [], _ => trivial
  | (_, x) :: ms, h => ⟨Lawful.mono hle x h.1, LawfulMembers.mono hle ms h.2⟩

end

mutual

/-- A value that is lawful in two ways is lawful in both at once. -/
theorem Lawful.and {other : JsonNumber → Prop} : (v : Json) → v.Lawful allowed → v.Lawful other →
    v.Lawful fun n => allowed n ∧ other n
  | .null, _, _ => trivial
  | .bool _, _, _ => trivial
  | .number _, h, h' => ⟨h, h'⟩
  | .string _, _, _ => trivial
  | .array xs, h, h' => LawfulItems.and xs h h'
  | .object ms, h, h' => ⟨h.1, LawfulMembers.and ms h.2 h'.2⟩

theorem LawfulItems.and {other : JsonNumber → Prop} : (xs : List Json) →
    LawfulItems allowed xs → LawfulItems other xs →
    LawfulItems (fun n => allowed n ∧ other n) xs
  | [], _, _ => trivial
  | x :: xs, h, h' => ⟨Lawful.and x h.1 h'.1, LawfulItems.and xs h.2 h'.2⟩

theorem LawfulMembers.and {other : JsonNumber → Prop} : (ms : List (String × Json)) →
    LawfulMembers allowed ms → LawfulMembers other ms →
    LawfulMembers (fun n => allowed n ∧ other n) ms
  | [], _, _ => trivial
  | (_, x) :: ms, h, h' => ⟨Lawful.and x h.1 h'.1, LawfulMembers.and ms h.2 h'.2⟩

end

end TrafficLens.Json
