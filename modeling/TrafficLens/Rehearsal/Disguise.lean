import TrafficLens.Traffic.Trace

/-!
# Disguising generated values

Identifiers and times that a program makes up differ from run to run. A `Disguise` replaces them in
what a rehearsal shows: identifiers that were not given are numbered in the order of their first
appearance, and times near the present become one fixed text. The numbers go on from one value to
the next, so an identifier keeps its number throughout a rehearsal.
-/

namespace TrafficLens

/-- What tells generated values from given ones. -/
structure Disguise where
  /-- Was the identifier given? -/
  isGiven : String → Bool
  /-- Times within a day of the present count as generated. -/
  present : Instant

/-- The identifiers that have been numbered. -/
abbrev Numbered : Type := List String

namespace Numbered

/-- The text that stands for the identifier with an index. -/
def label (index : Nat) : String := "gen" ++ toString (index + 1)

/-- The text that stands for an identifier, which is numbered if it is new. -/
def labelOf (known : Numbered) (id : String) : String × Numbered :=
  match known.findIdx? (· == id) with
  | some i => (label i, known)
  | none => (label known.length, known ++ [id])

/-- The identifier that a text stands for, or that it is. -/
def identifier? (known : Numbered) (s : String) : Option Uuid :=
  match known.zipIdx.find? fun e => label e.2 == s with
  | some (id, _) => Uuid.parse? id
  | none => Uuid.parse? s

end Numbered

namespace Disguise

/-- The text that stands for a generated time. -/
def timeLabel : String := "<now>"

/-- Is this the usual text of an identifier? The one that is all zeros was never generated. -/
def isIdentifier (s : String) : Bool :=
  match Uuid.parse? s with
  | some u => u != Uuid.nil && u.toText == s
  | none => false

/-- Is this the text of a time near the present? -/
def isNear (d : Disguise) (s : String) : Bool :=
  match Instant.parse? s with
  | some t => decide ((t.seconds - d.present.seconds).natAbs ≤ 86400)
  | none => false

/-- Disguise a text. -/
def applyText (d : Disguise) (s : String) (known : Numbered) : String × Numbered :=
  if isIdentifier s && !d.isGiven s then known.labelOf s
  else if d.isNear s then (timeLabel, known)
  else (s, known)

mutual

/-- Disguise a value. -/
def apply (d : Disguise) : Json → Numbered → Json × Numbered
  | .string s, known => let (s, known) := d.applyText s known; (.string s, known)
  | .array xs, known => let (xs, known) := applyItems d xs known; (.array xs, known)
  | .object ms, known => let (ms, known) := applyMembers d ms known; (.object ms, known)
  | v, known => (v, known)
termination_by structural v => v

/-- Disguise one value after another. -/
def applyItems (d : Disguise) : List Json → Numbered → List Json × Numbered
  | [], known => ([], known)
  | v :: vs, known =>
    let (v, known) := apply d v known
    let (vs, known) := applyItems d vs known
    (v :: vs, known)
termination_by structural vs => vs

/-- Disguise the values of one member after another. -/
def applyMembers (d : Disguise) :
    List (String × Json) → Numbered → List (String × Json) × Numbered
  | [], known => ([], known)
  | (k, v) :: ms, known =>
    let (v, known) := apply d v known
    let (ms, known) := applyMembers d ms known
    ((k, v) :: ms, known)
termination_by structural ms => ms

end

end Disguise

end TrafficLens
