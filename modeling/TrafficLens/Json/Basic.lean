import TrafficLens.Dict
import TrafficLens.Binary64.Shortest

/-!
# JSON values

`Json` is the type of JSON values. The members of an object form a `Dict`: their keys increase
strictly, in the order of code points, and no key occurs twice. Numbers are of two kinds that never
mix: an integer that fits in 64 bits, with or without a sign, and a finite binary number. A number
written with a fraction or an exponent is of the second kind even when its value is an integer.

Equality is decidable: `Json.same` compares two values by structural recursion and `same_iff` says
that it decides equality.
-/

namespace TrafficLens

/-- A JSON number: a 64-bit integer or a finite binary number. -/
inductive JsonNumber where
  | int (value : Int)
  | float (value : Binary64)
deriving DecidableEq, Repr

/-- The text of a number. -/
def JsonNumber.toText : JsonNumber → String
  | .int n => toString n
  | .float x => x.toText

/-- A JSON value. -/
inductive Json where
  | null
  | bool (value : Bool)
  | number (value : JsonNumber)
  | string (value : String)
  | array (items : List Json)
  | object (members : List (String × Json))
deriving Inhabited

namespace Json

mutual

/-- Compare two values. -/
def same : Json → Json → Bool
  | .null, b => match b with | .null => true | _ => false
  | .bool x, b => match b with | .bool y => x == y | _ => false
  | .number x, b => match b with | .number y => decide (x = y) | _ => false
  | .string x, b => match b with | .string y => decide (x = y) | _ => false
  | .array xs, b => match b with | .array ys => sameItems xs ys | _ => false
  | .object ms, b => match b with | .object ns => sameMembers ms ns | _ => false
termination_by structural a => a

/-- Compare two lists of values. -/
def sameItems : List Json → List Json → Bool
  | [], ys => ys.isEmpty
  | x :: xs, ys => match ys with | [] => false | y :: ys => same x y && sameItems xs ys
termination_by structural xs => xs

/-- Compare two lists of members. -/
def sameMembers : List (String × Json) → List (String × Json) → Bool
  | [], ns => ns.isEmpty
  | (k, x) :: ms, ns =>
    match ns with
    | [] => false
    | (l, y) :: ns => decide (k = l) && same x y && sameMembers ms ns
termination_by structural ms => ms

end

mutual

theorem same_iff : (a b : Json) → (same a b = true ↔ a = b)
  | .null, b => by cases b <;> simp [same]
  | .bool x, b => by cases b <;> simp [same]
  | .number x, b => by cases b <;> simp [same]
  | .string x, b => by cases b <;> simp [same]
  | .array xs, b => by cases b <;> simp [same, sameItems_iff xs]
  | .object ms, b => by cases b <;> simp [same, sameMembers_iff ms]

theorem sameItems_iff : (xs ys : List Json) → (sameItems xs ys = true ↔ xs = ys)
  | [], ys => by cases ys <;> simp [sameItems]
  | x :: xs, ys => by cases ys <;> simp [sameItems, same_iff x, sameItems_iff xs]

theorem sameMembers_iff : (ms ns : List (String × Json)) → (sameMembers ms ns = true ↔ ms = ns)
  | [], ns => by cases ns <;> simp [sameMembers]
  | (k, x) :: ms, ns => by
    cases ns with
    | nil => simp [sameMembers]
    | cons n ns =>
      obtain ⟨l, y⟩ := n
      simp [sameMembers, same_iff x, sameMembers_iff ms]

end

instance : DecidableEq Json := fun a b => decidable_of_iff (same a b = true) (same_iff a b)

/-- A number that is an integer. -/
def int (n : Int) : Json := .number (.int n)

/-- A number that is a natural. -/
def nat (n : Nat) : Json := .number (.int n)

/-- A list of texts. -/
def strings (xs : List String) : Json := .array (xs.map .string)

/-- An object given by its entries in any order. -/
def ofEntries (entries : List (String × Json)) : Json := .object (Dict.ofList entries)

/-- The value, or `null`. -/
def orNull {α : Type} (encode : α → Json) : Option α → Json
  | none => .null
  | some a => encode a

/-- The member of an object under a key. -/
def member? (key : String) : Json → Option Json
  | .object members => Dict.find? key members
  | _ => none

/-- The text of a string value. -/
def string? : Json → Option String
  | .string s => some s
  | _ => none

/-- The items of an array. -/
def items? : Json → Option (List Json)
  | .array xs => some xs
  | _ => none

/-- The members of an object. -/
def members? : Json → Option (List (String × Json))
  | .object ms => some ms
  | _ => none

/-- Is the value `null`? -/
def isNull : Json → Bool
  | .null => true
  | _ => false

end Json

end TrafficLens
