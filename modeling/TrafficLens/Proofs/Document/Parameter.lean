import TrafficLens.Proofs.Document.Entry
import TrafficLens.Proofs.Schema.Assembly
import TrafficLens.Proofs.Schema.Codec

/-!
# The list of parameters

The parameters of an operation stand in a list, and one is found there by its name and its location.
Changing a parameter is seen by the search for it (`find?_changeParameter`) and by no other search
(`find?_changeParameter_of_ne`), as long as the change leaves name and location alone. This holds of
every list, also of one with items that are no parameters.

A list that grows from nothing has one parameter for each name and location, whose schema is made of
the values that came with them (`exists_collects`).
-/

namespace TrafficLens.Document

/-- A change of the members of a parameter that does not touch what it is found by. -/
def KeepsIdentity (change : Members → Members) : Prop :=
  ∀ name location ms,
    isParameter name location (.object (change ms)) = isParameter name location (.object ms)

theorem keepsIdentity_alterSchema (f : Option Json → Json) :
    KeepsIdentity (Dict.alter "schema" f) := by
  intro name location ms
  have hname : Dict.find? "name" (Dict.alter "schema" f ms) = Dict.find? "name" ms :=
    Dict.find?_alter_of_ne (by decide) f ms
  have hin : Dict.find? "in" (Dict.alter "schema" f ms) = Dict.find? "in" ms :=
    Dict.find?_alter_of_ne (by decide) f ms
  simp only [isParameter, Json.member?, hname, hin]

/-- A parameter is found as itself. -/
theorem isParameter_newParameter (name location : String) :
    isParameter name location (.object (newParameter name location)) = true := by
  simp [isParameter, newParameter, Json.member?, Dict.find?_cons, Json.string?]

/-- No value is the parameter for two names or two locations. -/
theorem isParameter_unique {name location other place : String} {p : Json}
    (h : isParameter name location p) (h' : isParameter other place p) :
    name = other ∧ location = place := by
  simp only [isParameter, Bool.and_eq_true, beq_iff_eq] at h h'
  exact ⟨Option.some.inj (h.1.symm.trans h'.1), Option.some.inj (h.2.symm.trans h'.2)⟩

/-- A parameter is an object. -/
theorem exists_eq_object_of_isParameter {name location : String} {p : Json}
    (h : isParameter name location p) : ∃ ms, p = .object ms := by
  cases p with
  | object ms => exact ⟨ms, rfl⟩
  | _ => simp [isParameter, Json.member?] at h

variable {name location : String} {change : Members → Members}

/-- The members of the parameter in a list, or of a new one. -/
def parameterIn (name location : String) (ps : List Json) : Members :=
  ((ps.find? (isParameter name location)).bind Json.members?).getD (newParameter name location)

theorem changeParameter_cons_pos {ms : Members} (h : isParameter name location (.object ms))
    (rest : List Json) :
    changeParameter name location change (.object ms :: rest) = .object (change ms) :: rest := by
  rw [changeParameter, if_pos h]

theorem changeParameter_cons_neg {p : Json} (h : ¬ isParameter name location p)
    (rest : List Json) :
    changeParameter name location change (p :: rest) =
      p :: changeParameter name location change rest :=
  if_neg h

/-- **A changed parameter is found.** -/
theorem find?_changeParameter (hchange : KeepsIdentity change) (ps : List Json) :
    (changeParameter name location change ps).find? (isParameter name location) =
      some (.object (change (parameterIn name location ps))) := by
  induction ps with
  | nil =>
    have hnew :
        isParameter name location (.object (change (newParameter name location))) = true := by
      rw [hchange, isParameter_newParameter]
    rw [changeParameter, List.find?_cons_of_pos hnew]
    rfl
  | cons p rest ih =>
    by_cases hp : isParameter name location p
    · obtain ⟨ms, rfl⟩ := exists_eq_object_of_isParameter hp
      have hchanged : isParameter name location (.object (change ms)) = true := by
        rw [hchange, hp]
      rw [changeParameter_cons_pos hp, List.find?_cons_of_pos hchanged, parameterIn,
        List.find?_cons_of_pos hp]
      rfl
    · rw [changeParameter_cons_neg hp, List.find?_cons_of_neg hp, ih, parameterIn, parameterIn,
        List.find?_cons_of_neg hp]

/-- A change is not seen by the search for another parameter. -/
theorem find?_changeParameter_of_ne (hchange : KeepsIdentity change) {other place : String}
    (hne : ¬ (name = other ∧ location = place)) (ps : List Json) :
    (changeParameter name location change ps).find? (isParameter other place) =
      ps.find? (isParameter other place) := by
  have hnot : ∀ p, isParameter name location p → ¬ isParameter other place p :=
    fun p hp ho => hne (isParameter_unique hp ho)
  induction ps with
  | nil =>
    have hnew : ¬ isParameter other place (.object (change (newParameter name location))) := by
      apply hnot
      rw [hchange, isParameter_newParameter]
    rw [changeParameter, List.find?_cons_of_neg hnew]
  | cons p rest ih =>
    by_cases hp : isParameter name location p
    · obtain ⟨ms, rfl⟩ := exists_eq_object_of_isParameter hp
      have hchanged : ¬ isParameter other place (.object (change ms)) := by
        apply hnot
        rw [hchange, hp]
      rw [changeParameter_cons_pos hp, List.find?_cons_of_neg hchanged,
        List.find?_cons_of_neg (hnot _ hp)]
    · rw [changeParameter_cons_neg hp]
      by_cases ho : isParameter other place p
      · rw [List.find?_cons_of_pos ho, List.find?_cons_of_pos ho]
      · rw [List.find?_cons_of_neg ho, List.find?_cons_of_neg ho, ih]

/-- A parameter that the change leaves alone leaves the list alone. -/
theorem changeParameter_eq_self {ms : Members} {ps : List Json}
    (h : ps.find? (isParameter name location) = some (.object ms)) (hms : change ms = ms) :
    changeParameter name location change ps = ps := by
  induction ps with
  | nil => simp at h
  | cons p rest ih =>
    by_cases hp : isParameter name location p
    · rw [List.find?_cons_of_pos hp] at h
      obtain rfl := Option.some.inj h
      rw [changeParameter_cons_pos hp, hms]
    · rw [List.find?_cons_of_neg hp] at h
      rw [changeParameter_cons_neg hp, ih h]

/-! ## Schemas of parameters -/

@[simp] theorem schemaOf_toJson (s : Schema) : schemaOf (some s.toJson) = s := by
  simp [schemaOf, Schema.ofJson?_toJson]

theorem absorbValue_eq (value : Json) :
    absorbValue value = Dict.alter "schema" (seeAt (.value value)) :=
  rfl

theorem keepsIdentity_absorbValue (value : Json) : KeepsIdentity (absorbValue value) :=
  keepsIdentity_alterSchema _

theorem seek?_schema_newParameter (name location : String) :
    Dict.seek? "schema" (newParameter name location) = none := by
  have hin : compare "schema" "in" = .gt := by decide
  have hname : compare "schema" "name" = .gt := by decide
  have hrequired : compare "schema" "required" = .gt := by decide
  unfold newParameter
  split <;> simp [Dict.seek?, hin, hname, hrequired]

/-- A parameter as it is written: with its name, its location and its schema. -/
def parameterJson (p : (String × String) × Schema) : Json :=
  .object (Dict.insert "schema" p.2.toJson (newParameter p.1.1 p.1.2))

theorem isParameter_parameterJson (p : (String × String) × Schema) :
    isParameter name location (parameterJson p) ↔ p.1 = (name, location) := by
  have hself : isParameter p.1.1 p.1.2 (parameterJson p) := by
    rw [parameterJson, Dict.insert, keepsIdentity_alterSchema, isParameter_newParameter]
  constructor
  · intro h
    obtain ⟨hname, hlocation⟩ := isParameter_unique hself h
    exact Prod.ext hname hlocation
  · intro h
    rw [h] at hself
    exact hself

/-- The first value makes the schema of a new parameter. -/
theorem absorbValue_newParameter (name location : String) (value : Json) :
    Json.object (absorbValue value (newParameter name location)) =
      parameterJson ((name, location), Schema.empty.merge value) := by
  rw [absorbValue_eq, Dict.alter_eq_insert, seek?_schema_newParameter]
  rfl

/-- A value widens the schema of a parameter. -/
theorem absorbValue_parameterJson (p : (String × String) × Schema) (value : Json) :
    Json.object (absorbValue value (Dict.insert "schema" p.2.toJson (newParameter p.1.1 p.1.2))) =
      parameterJson (p.1, p.2.merge value) := by
  rw [absorbValue_eq, Dict.insert, Dict.alter_alter, parameterJson, Dict.insert, seeAt,
    schemaOf_toJson]
  rfl

/-! ## A list that grows from nothing -/

/-- One more value of a parameter. -/
def noteParameter (key : String × String) (value : Json) :
    List ((String × String) × Schema) → List ((String × String) × Schema)
  | [] => [(key, Schema.empty.merge value)]
  | (k, s) :: rest =>
    if k = key then (k, s.merge value) :: rest else (k, s) :: noteParameter key value rest

theorem changeParameter_map (name location : String) (value : Json)
    (ps : List ((String × String) × Schema)) :
    changeParameter name location (absorbValue value) (ps.map parameterJson) =
      (noteParameter (name, location) value ps).map parameterJson := by
  induction ps with
  | nil => exact congrArg (fun p => [p]) (absorbValue_newParameter name location value)
  | cons p rest ih =>
    obtain ⟨k, s⟩ := p
    rw [List.map_cons, noteParameter]
    split
    · next hk =>
      have hp : isParameter name location (parameterJson (k, s)) :=
        (isParameter_parameterJson _).2 hk
      rw [parameterJson] at hp ⊢
      rw [changeParameter_cons_pos hp, absorbValue_parameterJson (k, s), List.map_cons]
    · next hk =>
      have hp : ¬ isParameter name location (parameterJson (k, s)) :=
        (isParameter_parameterJson _).not.2 hk
      rw [changeParameter_cons_neg hp, ih, List.map_cons]

theorem mem_keys_noteParameter {key k : String × String} {value : Json}
    {ps : List ((String × String) × Schema)} :
    k ∈ Dict.keys (noteParameter key value ps) ↔ k = key ∨ k ∈ Dict.keys ps := by
  induction ps with
  | nil => simp [noteParameter, Dict.keys]
  | cons p rest ih =>
    obtain ⟨l, s⟩ := p
    unfold Dict.keys at ih ⊢
    rw [noteParameter]
    split
    · next hl =>
      subst hl
      simp
    · simp only [List.map_cons, List.mem_cons, ih]
      exact or_left_comm

theorem nodup_keys_noteParameter {key : String × String} {value : Json}
    {ps : List ((String × String) × Schema)} (h : (Dict.keys ps).Nodup) :
    (Dict.keys (noteParameter key value ps)).Nodup := by
  induction ps with
  | nil => simp [noteParameter, Dict.keys]
  | cons p rest ih =>
    obtain ⟨l, s⟩ := p
    obtain ⟨hl, hrest⟩ := List.nodup_cons.1 h
    rw [noteParameter]
    split
    · exact List.nodup_cons.2 ⟨hl, hrest⟩
    · next hne =>
      refine List.nodup_cons.2 ⟨fun hmem => ?_, ih hrest⟩
      rcases mem_keys_noteParameter.1 hmem with heq | hmem
      · exact hne heq
      · exact hl hmem

/-- A parameter was there before, or has just got the value. -/
theorem mem_noteParameter {key : String × String} {value : Json}
    {ps : List ((String × String) × Schema)} (hnodup : (Dict.keys ps).Nodup)
    {p : (String × String) × Schema} (h : p ∈ noteParameter key value ps) :
    (p.1 ≠ key ∧ p ∈ ps) ∨ (p.1 = key ∧
      ((∃ s, (key, s) ∈ ps ∧ p.2 = s.merge value) ∨
        (key ∉ Dict.keys ps ∧ p.2 = Schema.empty.merge value))) := by
  induction ps with
  | nil =>
    obtain rfl := List.mem_singleton.1 h
    exact .inr ⟨rfl, .inr ⟨List.not_mem_nil, rfl⟩⟩
  | cons q rest ih =>
    obtain ⟨l, s⟩ := q
    obtain ⟨hl, hrest⟩ := List.nodup_cons.1 hnodup
    rw [noteParameter] at h
    split at h
    · next heq =>
      subst heq
      rcases List.mem_cons.1 h with rfl | h
      · exact .inr ⟨rfl, .inl ⟨s, List.mem_cons_self, rfl⟩⟩
      · have hmem : p.1 ∈ Dict.keys rest := List.mem_map_of_mem h
        have hne : p.1 ≠ l := fun hp => hl (hp ▸ hmem)
        exact .inl ⟨hne, List.mem_cons_of_mem _ h⟩
    · next hne =>
      rcases List.mem_cons.1 h with rfl | h
      · exact .inl ⟨hne, List.mem_cons_self⟩
      · rcases ih hrest h with ⟨hp, hmem⟩ | ⟨hp, ⟨t, ht, heq⟩ | ⟨hnot, heq⟩⟩
        · exact .inl ⟨hp, List.mem_cons_of_mem _ hmem⟩
        · exact .inr ⟨hp, .inl ⟨t, List.mem_cons_of_mem _ ht, heq⟩⟩
        · refine .inr ⟨hp, .inr ⟨fun hmem => ?_, heq⟩⟩
          rcases List.mem_cons.1 hmem with hmem | hmem
          · exact hne hmem.symm
          · exact hnot hmem

/-- The parameters are those that the entries name, each once, and the schema of each is made of the
values that the entries give to it. -/
structure Collects (entries : List Entry) (ps : List ((String × String) × Schema)) : Prop where
  nodup : (Dict.keys ps).Nodup
  complete : ∀ name location value, Entry.parameter name location value ∈ entries →
    (name, location) ∈ Dict.keys ps
  schema : ∀ p ∈ ps, ∃ vs : List Json, vs ≠ [] ∧ p.2 = Schema.ofValues vs ∧
    ∀ v, v ∈ vs ↔ Entry.parameter p.1.1 p.1.2 v ∈ entries

theorem Collects.note {entries : List Entry} {ps : List ((String × String) × Schema)}
    (h : Collects entries ps) (name location : String) (value : Json) :
    Collects (entries ++ [.parameter name location value])
      (noteParameter (name, location) value ps) where
  nodup := nodup_keys_noteParameter h.nodup
  complete n l v hmem := by
    rw [mem_keys_noteParameter]
    rcases List.mem_append.1 hmem with hmem | hmem
    · exact .inr (h.complete n l v hmem)
    · obtain ⟨rfl, rfl, rfl⟩ : n = name ∧ l = location ∧ v = value := by simpa using hmem
      exact .inl rfl
  schema p hp := by
    rcases mem_noteParameter h.nodup hp with ⟨hne, hold⟩ | ⟨heq, ⟨s, hs, hmerge⟩ | ⟨hnot, hmerge⟩⟩
    · obtain ⟨vs, hvs, hps, hmem⟩ := h.schema p hold
      refine ⟨vs, hvs, hps, fun v => ?_⟩
      have hother : Entry.parameter p.1.1 p.1.2 v ≠ .parameter name location value := by
        intro hsame
        injection hsame with hname hlocation
        exact hne (Prod.ext hname hlocation)
      rw [hmem, List.mem_append, List.mem_singleton]
      exact (or_iff_left hother).symm
    · obtain ⟨vs, hvs, hps, hmem⟩ := h.schema _ hs
      obtain rfl : s = Schema.ofValues vs := hps
      refine ⟨vs ++ [value], by simp, ?_, fun v => ?_⟩
      · rw [hmerge, Schema.ofValues_append]
        rfl
      · rw [List.mem_append, hmem, List.mem_append, heq]
        simp
    · refine ⟨[value], by simp, hmerge, fun v => ?_⟩
      have hfirst : Entry.parameter name location v ∉ entries := fun hmem =>
        hnot (h.complete name location v hmem)
      rw [heq]
      simp [hfirst]

/-- **A list of parameters that grows from nothing** collects what the entries say. -/
theorem exists_collects {edits : List (List String × Entry)} (hne : edits ≠ [])
    (h : ∀ d ∈ edits, ∃ name location value, d = ([], .parameter name location value)) :
    ∃ ps, run Entry.write edits none = some (.array (ps.map parameterJson)) ∧
      Collects (edits.map Prod.snd) ps := by
  induction edits using List.reverseRecOn with
  | nil => exact absurd rfl hne
  | append_singleton front d ih =>
    obtain ⟨hfront, hd⟩ := List.forall_mem_append.1 h
    obtain ⟨name, location, value, rfl⟩ := hd d (by simp)
    rw [run_append, List.map_append]
    have hold : ∃ ps, itemsOf (run Entry.write front none) = ps.map parameterJson ∧
        Collects (front.map Prod.snd) ps := by
      by_cases hnil : front = []
      · subst hnil
        exact ⟨[], rfl, List.nodup_nil, by simp, by simp⟩
      · obtain ⟨ps, hrun, hps⟩ := ih hnil hfront
        refine ⟨ps, ?_, hps⟩
        rw [hrun]
        rfl
    obtain ⟨ps, hitems, hps⟩ := hold
    refine ⟨noteParameter (name, location) value ps, ?_, hps.note name location value⟩
    rw [← changeParameter_map, ← hitems]
    rfl

end TrafficLens.Document
