/-!
# Risk

How much is at stake when data of some class is exposed, in four steps. Risks are ordered by rank.
-/

namespace TrafficLens

/-- A degree of risk. -/
inductive Risk where
  | none | low | medium | high
deriving DecidableEq, Repr, Inhabited

namespace Risk

/-- The rank of a risk, from zero to three. -/
def rank : Risk → Nat
  | .none => 0
  | .low => 1
  | .medium => 2
  | .high => 3

/-- The risk of a rank. Ranks outside the scale count as the nearer end of it. -/
def ofRank (n : Int) : Risk :=
  if n ≤ 0 then .none else if n = 1 then .low else if n = 2 then .medium else .high

/-- The greater of two risks. -/
def max (a b : Risk) : Risk := if a.rank ≤ b.rank then b else a

/-- The greatest of some risks. -/
def maximum (risks : List Risk) : Risk := risks.foldl max .none

/-- The name of a risk. -/
def name : Risk → String
  | .none => "none"
  | .low => "low"
  | .medium => "medium"
  | .high => "high"

/-- The risk with a name, in any case. -/
def ofName? (s : String) : Option Risk :=
  match s.toLower with
  | "none" => some .none
  | "low" => some .low
  | "medium" => some .medium
  | "high" => some .high
  | _ => Option.none

end Risk

end TrafficLens
