import TrafficLens.Proofs.Document.Parameter
import TrafficLens.Proofs.Store.Row

/-!
# What a document has learnt

Nothing but the schemas that stand in a document says what it has learnt: a trace that is merged
reads them, widens them and writes them again, and what cannot be read counts as empty. So all that
was learnt depends on schemas being read as they were written.

A `Slot` is a place for a schema, `schemaAt` what stands there, and `sightingsAt` what traffic shows
there. One edit makes one sighting at its own slot and is not seen at any other (`schemaAt_edit`).
After any traffic a document has learnt at every slot what it knew before and what the traffic
showed, in this order (`stored_schemas_reread`), whatever else it holds. The same goes for schemas
in the rows of fields. These are statements about values; how deep a text may nest that is read as a
value is not asked here.
-/

namespace TrafficLens.Document

/-! ## Slots -/

/-- A place of an operation for a schema. -/
inductive Slot where
  | spot (spot : Spot)
  | parameter (name location : String)
deriving DecidableEq

/-- The keys that lead to the value that has the schema. -/
def Slot.keys : Slot → List String
  | spot s => s.keys
  | parameter _ _ => ["parameters"]

/-- The schema as it is written in that value: the value itself, or what a parameter in the list
has. -/
def Slot.nodeIn : Slot → Option Json → Option Json
  | spot _, v => v
  | parameter name location, v => Dict.seek? "schema" (parameterIn name location (itemsOf v))

/-- What an entry shows at a slot. -/
def Entry.shownAt (slot : Slot) : Entry → Option Sighting
  | parameter name location value =>
    if slot = .parameter name location then some (.value value) else none
  | sighting spot x => if slot = .spot spot then some x else none
  | status _ => none

theorem Slot.exists_entry (slot : Slot) : ∃ b : Entry, b.keys = slot.keys := by
  cases slot with
  | spot s => exact ⟨.sighting s .shapeless, rfl⟩
  | parameter name location => exact ⟨.parameter name location .null, rfl⟩

/-- An entry shows something at its own slot only. -/
theorem Entry.shownAt_eq_none {e : Entry} {slot : Slot} (h : e.keys ≠ slot.keys) :
    e.shownAt slot = none := by
  cases e with
  | parameter name location value =>
    refine if_neg ?_
    rintro rfl
    exact h rfl
  | sighting spot x =>
    refine if_neg ?_
    rintro rfl
    exact h rfl
  | status s => rfl

/-! ## Sightings one after the other -/

/-- A schema as it is written, after some sightings. Each reads the schema that the one before it
has written. -/
def learn (node : Option Json) (xs : List Sighting) : Option Json :=
  xs.foldl (fun node x => some (seeAt x node)) node

theorem learn_append (node : Option Json) (xs ys : List Sighting) :
    learn node (xs ++ ys) = learn (learn node xs) ys :=
  List.foldl_append

/-- Nothing is lost between two sightings. -/
theorem schemaOf_learn (node : Option Json) (xs : List Sighting) :
    schemaOf (learn node xs) = (schemaOf node).seeAll xs := by
  induction xs generalizing node with
  | nil => rfl
  | cons x xs ih =>
    have hstep : learn node (x :: xs) = learn (some (seeAt x node)) xs := rfl
    rw [hstep, ih, seeAt, schemaOf_toJson]
    rfl

/-- What is written in the end is the schema that all the sightings make. -/
theorem learn_eq (node : Option Json) (xs : List Sighting) :
    learn node xs = if xs = [] then node else some ((schemaOf node).seeAll xs).toJson := by
  rcases xs.eq_nil_or_concat' with rfl | ⟨front, x, rfl⟩
  · rfl
  · have hseen : (schemaOf node).seeAll (front ++ [x]) = ((schemaOf node).seeAll front).see x :=
      List.foldl_append
    have hlast : learn (learn node front) [x] = some (seeAt x (learn node front)) := rfl
    rw [if_neg (by simp), learn_append, hlast, seeAt, schemaOf_learn, hseen]

/-! ## One entry -/

section Parameter

variable {name location : String} {change : Members → Members} {ps : List Json}

theorem parameterIn_changeParameter (hchange : KeepsIdentity change) :
    parameterIn name location (changeParameter name location change ps) =
      change (parameterIn name location ps) := by
  rw [parameterIn, find?_changeParameter hchange]
  rfl

theorem parameterIn_changeParameter_of_ne (hchange : KeepsIdentity change) {other place : String}
    (hne : ¬ (name = other ∧ location = place)) :
    parameterIn other place (changeParameter name location change ps) =
      parameterIn other place ps := by
  rw [parameterIn, find?_changeParameter_of_ne hchange hne, parameterIn]

end Parameter

/-- An entry that is written where a slot is shows there what it shows, and leaves the schemas of
other slots alone. -/
theorem Slot.nodeIn_write {slot : Slot} {e : Entry} (h : e.keys = slot.keys) (old : Option Json) :
    slot.nodeIn (some (e.write old)) = learn (slot.nodeIn old) (e.shownAt slot).toList := by
  cases slot with
  | spot s =>
    obtain ⟨x, rfl⟩ := Entry.keys_eq_spot.1 h
    rw [Entry.shownAt, if_pos rfl]
    rfl
  | parameter name location =>
    obtain ⟨n, l, value, rfl⟩ := Entry.keys_eq_parameters.1 h
    have hitems : itemsOf (some (Entry.write (.parameter n l value) old)) =
        changeParameter n l (absorbValue value) (itemsOf old) := rfl
    rw [nodeIn, hitems, nodeIn, Entry.shownAt]
    by_cases hsame : n = name ∧ l = location
    · obtain ⟨rfl, rfl⟩ := hsame
      rw [parameterIn_changeParameter (keepsIdentity_absorbValue value), absorbValue_eq,
        Dict.seek?_alter_self, if_pos rfl]
      rfl
    · have hne : Slot.parameter name location ≠ .parameter n l := by
        rintro ⟨⟩
        exact hsame ⟨rfl, rfl⟩
      rw [parameterIn_changeParameter_of_ne (keepsIdentity_absorbValue value) hsame, if_neg hne]
      rfl

/-! ## Documents -/

/-- What stands in a document for a slot of the operation of an endpoint. -/
def schemaAt (endpoint : Endpoint) (slot : Slot) (doc : Option Json) : Option Json :=
  slot.nodeIn (valueAt (operationKeys endpoint ++ slot.keys) doc)

/-- What entries to the operation of one endpoint show at a slot of that of another one. -/
def shownTo (endpoint : Endpoint) (slot : Slot) (f : Endpoint) (entries : List Entry) :
    List Sighting :=
  if operationKeys f = operationKeys endpoint then entries.filterMap (Entry.shownAt slot) else []

/-- What traffic shows at a slot, in order. -/
def sightingsAt (traffic : List (Endpoint × Trace)) (endpoint : Endpoint) (slot : Slot) :
    List Sighting :=
  traffic.flatMap fun p => shownTo endpoint slot p.1 (entriesOf p.1 p.2)

variable {endpoint f : Endpoint} {slot : Slot}

theorem shownTo_cons (e : Entry) (entries : List Entry) :
    shownTo endpoint slot f (e :: entries) =
      shownTo endpoint slot f [e] ++ shownTo endpoint slot f entries := by
  have hentries : e :: entries = [e] ++ entries := rfl
  unfold shownTo
  split
  · rw [hentries, List.filterMap_append]
  · rfl

theorem shownTo_singleton (e : Entry) :
    shownTo endpoint slot f [e] =
      if operationKeys f = operationKeys endpoint then (e.shownAt slot).toList else [] := by
  rw [shownTo]
  cases h : e.shownAt slot <;> simp [h]

theorem shownTo_singleton_of_apart {e : Entry}
    (h : ¬ (operationKeys f = operationKeys endpoint ∧ e.keys = slot.keys)) :
    shownTo endpoint slot f [e] = [] := by
  rw [shownTo_singleton]
  split
  · next hoperation =>
    rw [Entry.shownAt_eq_none fun hkeys => h ⟨hoperation, hkeys⟩]
    rfl
  · rfl

/-- **One edit** makes its sighting at its own slot, and none at any other. -/
theorem schemaAt_edit (f : Endpoint) (e : Entry) (v : Option Json) :
    schemaAt endpoint slot (some (edit e.write (operationKeys f ++ e.keys) v)) =
      learn (schemaAt endpoint slot v) (shownTo endpoint slot f [e]) := by
  by_cases hhere : operationKeys f = operationKeys endpoint ∧ e.keys = slot.keys
  · obtain ⟨hoperation, hkeys⟩ := hhere
    rw [shownTo_singleton, if_pos hoperation, schemaAt, schemaAt, hoperation, hkeys,
      valueAt_edit_self, Slot.nodeIn_write hkeys]
  · -- Neither place is on the way to the other one, so the edit goes another way.
    obtain ⟨b, hb⟩ := slot.exists_entry
    have hfrom : ¬ operationKeys f ++ e.keys <+: operationKeys endpoint ++ slot.keys := by
      rw [← hb] at hhere ⊢
      exact fun h => hhere (places_eq_of_begins h)
    have hto : ¬ operationKeys endpoint ++ slot.keys <+: operationKeys f ++ e.keys := by
      rw [← hb] at hhere ⊢
      exact fun h => hhere ((places_eq_of_begins h).imp Eq.symm Eq.symm)
    rw [shownTo_singleton_of_apart hhere, schemaAt, valueAt_edit_of_apart hfrom hto]
    rfl

/-- Entries that are said one after the other to an operation. -/
theorem schemaAt_run (entries : List Entry) (v : Option Json) :
    schemaAt endpoint slot
        (run Entry.write (entries.map fun e => (operationKeys f ++ e.keys, e)) v) =
      learn (schemaAt endpoint slot v) (shownTo endpoint slot f entries) := by
  induction entries generalizing v with
  | nil =>
    have hnil : shownTo endpoint slot f [] = [] := ite_self _
    rw [hnil]
    rfl
  | cons e entries ih =>
    rw [List.map_cons, run_cons, ih, schemaAt_edit, shownTo_cons e entries, learn_append]

/-- **A run of traffic** makes all its sightings, each at its slot. -/
theorem schemaAt_mergeAll (members : Members) (traffic : List (Endpoint × Trace)) :
    schemaAt endpoint slot (some (mergeAll (.object members) traffic)) =
      learn (schemaAt endpoint slot (some (.object members)))
        (sightingsAt traffic endpoint slot) := by
  induction traffic generalizing members with
  | nil => rfl
  | cons p traffic ih =>
    obtain ⟨ms, hms⟩ := exists_mergeAll_eq_object members [p]
    have hfirst : schemaAt endpoint slot (some (.object ms)) =
        learn (schemaAt endpoint slot (some (.object members)))
          (shownTo endpoint slot p.1 (entriesOf p.1 p.2)) := by
      rw [← hms, ← schemaAt_run, ← editsOf, run_editsOf]
      rfl
    have hrest : mergeAll (.object members) (p :: traffic) = mergeAll (.object ms) traffic := by
      rw [← hms]
      rfl
    have hsightings : sightingsAt (p :: traffic) endpoint slot =
        shownTo endpoint slot p.1 (entriesOf p.1 p.2) ++ sightingsAt traffic endpoint slot := rfl
    rw [hrest, ih, hfirst, hsightings, learn_append]

/-- **Schemas are read as they were written**, however they nest and whatever parts they have. So
the fields that a query answers are those that were stored, and after any traffic a document knows
at every slot what it knew there before and what the traffic has shown. What stands there is the
schema of all this, and it was not touched if nothing was shown. -/
theorem stored_schemas_reread :
    (∀ s : Schema, Schema.ofJson? s.toJson = some s) ∧
    (∀ (t : Tenant) (endpointId : Uuid) (fields : List Field),
      Command.read { rows := fields.map (Field.row t) } (.loadFields endpointId) = .ok fields) ∧
    ∀ (members : Members) (traffic : List (Endpoint × Trace)) (endpoint : Endpoint) (slot : Slot),
      let before := schemaAt endpoint slot (some (.object members))
      let after := schemaAt endpoint slot (some (mergeAll (.object members) traffic))
      let shown := sightingsAt traffic endpoint slot
      schemaOf after = (schemaOf before).seeAll shown ∧
        after = if shown = [] then before else some ((schemaOf before).seeAll shown).toJson := by
  refine ⟨Schema.ofJson?_toJson, Command.read_loadFields, ?_⟩
  intro members traffic endpoint slot before after shown
  have hafter : after = learn before shown := schemaAt_mergeAll members traffic
  exact ⟨hafter ▸ schemaOf_learn before shown, hafter.trans (learn_eq before shown)⟩

end TrafficLens.Document
