import TrafficLens.Analysis.Observation
import TrafficLens.Analysis.Scanner

/-!
# Folding a trace into the tracked fields

`reconcile` goes through the observations of a trace once and folds each into the field at its
place, a new one if there is none: the schema absorbs the value, and the classes that the scanner
finds are recorded with samples.

* Classes are only ever added. A class that is marked as a false positive at a field is noted as
  identified there and nothing else.
* A class is reported as new when it is recorded at a field for the first time.
* A field is reported as changed when it is new or differs from what was there before.

The identifiers of new fields are taken from the supply `newId`, the first new field gets
`newId 0`, and so on.
-/

namespace TrafficLens

/-- A class of sensitive data at a place. -/
structure FoundClass where
  sec : Section
  path : String
  className : String
deriving DecidableEq, Repr

instance : Ord FoundClass where
  compare a b :=
    ((compare a.sec b.sec).then (compare a.path b.path)).then (compare a.className b.className)

/-- What a trace changes about the fields of its endpoint. -/
structure Reconciliation where
  /-- The fields that are new or changed, in the order of their places. -/
  changed : List Field := []
  /-- The classes that were recorded at a place for the first time, in order. -/
  newClasses : List FoundClass := []
  /-- The classes in the response that are not false positives, in order. -/
  responseClasses : List String := []
  /-- The greatest risk of any class at any field. -/
  risk : Risk := .none
deriving DecidableEq

namespace Reconciliation

/-- The number of samples of one class that a field keeps. -/
def maxSamples : Nat := 5

/-- The fields by place; of fields with one place the last counts. -/
def byPlace (fields : List Field) : List (Place × Field) :=
  Dict.ofList (fields.map fun f => (f.place, f))

/-- Add what is not there yet. -/
def addNew (xs : List String) (x : String) : List String := if xs.contains x then xs else xs ++ [x]

/-- Add samples until there are enough. -/
def addSamples (samples new : List String) : List String :=
  new.foldl (fun acc s => if maxSamples ≤ acc.length then acc else addNew acc s) samples

/-- The state of a pass over the observations. -/
structure Pass where
  fields : List (Place × Field)
  /-- The places that were observed. -/
  touched : List Place := []
  /-- The number of new fields so far. -/
  created : Nat := 0
  newClasses : List FoundClass := []
  responseClasses : List String := []

/-- Record a class that was found in an observation. -/
def recordClass (o : Observation) (state : Field × List FoundClass × List String)
    (found : String × List String) : Field × List FoundClass × List String :=
  let (field, newClasses, responseClasses) := state
  let (className, samples) := found
  let field := { field with identified := addNew field.identified className }
  if field.falsePositives.contains className then (field, newClasses, responseClasses)
  else
    let isNew := !field.classes.contains className
    let field :=
      { field with
        classes := addNew field.classes className
        samples := Dict.alter className (fun old => addSamples (old.getD []) samples) field.samples }
    (field,
      if isNew then newClasses ++ [⟨o.sec, o.path, className⟩] else newClasses,
      if o.sec.isResponse then insertSorted className responseClasses else responseClasses)

/-- The field after absorbing the value of an observation. -/
def absorb (o : Observation) (field : Field) : Field :=
  let schema := if o.malformed then field.schema.mergeUnknown else field.schema.merge o.value
  { field with dataType := schema.primaryType.name, schema }

/-- Mark a field that carries sensitive data. -/
def tagSensitive (field : Field) : Field :=
  if field.isSensitive then { field with tag := some sensitiveTag } else field

/-- Fold one observation into the fields. -/
def observe (scanner : Scanner) (newId : Nat → Uuid) (endpointId : Uuid) (pass : Pass)
    (o : Observation) : Pass :=
  let known := Dict.find? o.place pass.fields
  let field := absorb o (known.getD (Field.new (newId pass.created) o.sec o.path endpointId))
  let (field, newClasses, responseClasses) :=
    match o.text? with
    | none => (field, pass.newClasses, pass.responseClasses)
    | some text =>
      let (field, rest) :=
        (scanner.scan text).foldl (recordClass o) (field, pass.newClasses, pass.responseClasses)
      (tagSensitive field, rest)
  { fields := Dict.insert o.place field pass.fields
    touched := insertSorted o.place pass.touched
    created := if known.isSome then pass.created else pass.created + 1
    newClasses, responseClasses }

/-- The risks of the classes of a field that are not false positives. -/
def fieldRisks (scanner : Scanner) (f : Field) : List Risk :=
  (f.classes.filter fun c => !f.falsePositives.contains c).map scanner.risk

end Reconciliation

open Reconciliation in
/-- Fold a trace into the fields of its endpoint. -/
def reconcile (scanner : Scanner) (newId : Nat → Uuid) (trace : Trace) (endpointId : Uuid)
    (existing : List Field) : Reconciliation :=
  let before := byPlace existing
  let pass := trace.observations.foldl (observe scanner newId endpointId) { fields := before }
  { changed := (pass.fields.filter fun e =>
        pass.touched.contains e.1 && decide (Dict.find? e.1 before ≠ some e.2)).map Prod.snd
    newClasses := sortDistinct pass.newClasses
    responseClasses := pass.responseClasses
    risk := Risk.maximum (pass.fields.flatMap fun e => fieldRisks scanner e.2) }

/-- Store fields: each takes the place of the first one with its place, or is added at the end. -/
def storeFields (fields changed : List Field) : List Field :=
  changed.foldl
    (fun acc f =>
      if acc.any fun g => g.place == f.place then
        let (before, rest) := acc.span fun g => !(g.place == f.place)
        before ++ f :: rest.drop 1
      else acc ++ [f]) fields

end TrafficLens
