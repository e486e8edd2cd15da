import TrafficLens.Proofs.Text.Replacement
import TrafficLens.Rehearsal.World

/-!
# The wording of statements

A statement to the tables of a tenant is worded alike for all tenants: its text consists of fixed
parts, in which there is no quotation mark, and of names of tables (`Command.worded`). So the
statement of another tenant is the same one with the qualifiers in front of the tables replaced
(`Command.rename_statement`), and the tables that it names are the tenant's own
(`Command.mem_tables_statement`). Statements that open and close levels name no tables at all.

The tables that a statement names are found in its text, as the words behind those that a table
must follow (`Statement.tables`).
-/

namespace TrafficLens

/-! ## Qualifiers and tables in a text -/

namespace Statement

/-- What stands before the name of a table of a schema. -/
def qualifier (schema : String) : List Char := '"' :: (schema.toList ++ ['"', '.'])

/-- A text with every qualifier of one schema replaced by that of another. -/
def renameChars (old new : String) (cs : List Char) : List Char :=
  Text.replaceAll (qualifier old) (qualifier new) cs

/-- A statement with every qualifier of one schema replaced by that of another. -/
def rename (old new : String) (s : Statement) : Statement :=
  { s with text := .ofList (renameChars old new s.text.toList) }

/-- Is the next word the name of a table, or something else that rows come from? -/
def opensTable (word : List Char) : Bool :=
  ["FROM".toList, "JOIN".toList, "INTO".toList, "UPDATE".toList].contains word

/-- Is the word a name? It is none if it calls a function or opens a query, and behind `UPDATE` no
table needs to follow. -/
def isName (word : List Char) : Bool := !word.contains '(' && word != "SET".toList

/-- The names of tables among the words of a text. -/
def tablesAmong : List (List Char) → List (List Char)
  | word :: next :: rest =>
    if opensTable word && isName next then next :: tablesAmong (next :: rest)
    else tablesAmong (next :: rest)
  | _ => []

/-- The tables that a statement names. -/
def tables (s : Statement) : List String :=
  (tablesAmong (Text.pieces ' ' s.text.toList)).map String.ofList

end Statement

namespace Tenant

/-- The tables of a tenant. -/
def tableNames : List String :=
  ["endpoint", "trace", "data_field", "alert", "open_api_spec", "aggregate_trace_data_minutely",
    "aggregate_trace_data_hourly"]

theorem isSchemaChar_of_mem (t : Tenant) {c : Char} (h : c ∈ t.schema.toList) :
    isSchemaChar c = true := by
  have hvalid := t.valid
  unfold isSchemaName at hvalid
  split at hvalid
  · cases hvalid
  · next d ds hcs =>
    simp only [Bool.and_eq_true, List.all_eq_true] at hvalid
    obtain ⟨⟨hstart, hrest⟩, -⟩ := hvalid
    rw [hcs] at h
    rcases List.mem_cons.1 h with rfl | h
    · simp only [isSchemaStart, Bool.or_eq_true] at hstart
      simp only [isSchemaChar, Bool.or_eq_true]
      exact hstart.imp_left .inl
    · exact hrest c h

/-- What is neither a part of schema names nor written around them is not in a qualifier. -/
theorem notMem_qualifier (t : Tenant) {c : Char} (hc : isSchemaChar c = false) (hquote : c ≠ '"')
    (hdot : c ≠ '.') : c ∉ Statement.qualifier t.schema := by
  have hschema : c ∉ t.schema.toList := fun h =>
    Bool.false_ne_true (hc.symm.trans (t.isSchemaChar_of_mem h))
  simp [Statement.qualifier, hquote, hdot, hschema]

theorem toList_table (t : Tenant) (name : String) :
    (t.table name).toList = Statement.qualifier t.schema ++ name.toList := by
  simp [table, Statement.qualifier]

end Tenant

/-! ## Renaming words -/

namespace Statement

variable (old new : String)

theorem qualifier_ne_nil (schema : String) : qualifier schema ≠ [] := List.cons_ne_nil _ _

theorem renameChars_of_notMem {cs : List Char} (h : '"' ∉ cs) : renameChars old new cs = cs :=
  Text.replaceAll_of_notMem h

theorem renameChars_append_of_notMem {cs : List Char} (h : '"' ∉ cs) (rest : List Char) :
    renameChars old new (cs ++ rest) = cs ++ renameChars old new rest :=
  Text.replaceAll_append_of_notMem h rest

theorem renameChars_qualifier_append (cs : List Char) :
    renameChars old new (qualifier old ++ cs) = qualifier new ++ renameChars old new cs :=
  Text.replaceAll_part_append (qualifier_ne_nil old) cs

/-- A word without a quotation mark comes out only where it was before. -/
theorem renameChars_eq_iff {word : List Char} (hword : '"' ∉ word) (w : List Char) :
    renameChars old new w = word ↔ w = word := by
  by_cases hw : '"' ∈ w
  · have hout : '"' ∈ renameChars old new w :=
      (Text.mem_replaceAll (qualifier_ne_nil old)
        (iff_of_true List.mem_cons_self List.mem_cons_self) w).2 hw
    exact iff_of_false (fun h => hword (h ▸ hout)) fun h => hword (h ▸ hw)
  · rw [renameChars_of_notMem old new hw]

theorem opensTable_renameChars (w : List Char) :
    opensTable (renameChars old new w) = opensTable w := by
  have hwords : ∀ word ∈ ["FROM".toList, "JOIN".toList, "INTO".toList, "UPDATE".toList],
      '"' ∉ word := by decide
  rw [Bool.eq_iff_iff, opensTable, opensTable, List.contains_iff_mem, List.contains_iff_mem]
  constructor
  · exact fun h => (renameChars_eq_iff old new (hwords _ h) w).1 rfl ▸ h
  · exact fun h => ((renameChars_eq_iff old new (hwords _ h) w).2 rfl).symm ▸ h

theorem isName_renameChars (t u : Tenant) (w : List Char) :
    isName (renameChars t.schema u.schema w) = isName w := by
  have hparen : ∀ t : Tenant, '(' ∉ qualifier t.schema := fun t =>
    t.notMem_qualifier (by decide) (by decide) (by decide)
  have hcontains : (renameChars t.schema u.schema w).contains '(' = w.contains '(' := by
    rw [Bool.eq_iff_iff, List.contains_iff_mem, List.contains_iff_mem]
    exact Text.mem_replaceAll (qualifier_ne_nil _) (iff_of_false (hparen t) (hparen u)) w
  have hset : (renameChars t.schema u.schema w != "SET".toList) = (w != "SET".toList) := by
    rw [Bool.eq_iff_iff, bne_iff_ne, bne_iff_ne]
    exact not_congr (renameChars_eq_iff _ _ (by decide) w)
  rw [isName, isName, hcontains, hset]

theorem tablesAmong_renameChars (t u : Tenant) (ws : List (List Char)) :
    tablesAmong (ws.map (renameChars t.schema u.schema)) =
      (tablesAmong ws).map (renameChars t.schema u.schema) := by
  induction ws with
  | nil => rfl
  | cons word ws ih =>
    cases ws with
    | nil => rfl
    | cons next rest =>
      rw [List.map_cons] at ih
      rw [List.map_cons, List.map_cons, tablesAmong, tablesAmong, opensTable_renameChars,
        isName_renameChars, ih]
      split <;> rfl

theorem pieces_renameChars (t u : Tenant) (cs : List Char) :
    Text.pieces ' ' (renameChars t.schema u.schema cs) =
      (Text.pieces ' ' cs).map (renameChars t.schema u.schema) := by
  have hspace : ∀ t : Tenant, ' ' ∉ qualifier t.schema := fun t =>
    t.notMem_qualifier (by decide) (by decide) (by decide)
  exact Text.pieces_replaceAll (qualifier_ne_nil _) (hspace t) (hspace u) cs

end Statement

/-! ## Texts with open tables -/

/-- A part of a text in which tables are named. -/
inductive TextPart where
  | fixed (cs : List Char)
  | table (name : List Char)

namespace TextPart

/-- The part as it is written for a tenant. -/
def spell (t : Tenant) : TextPart → List Char
  | fixed cs => cs
  | table name => Statement.qualifier t.schema ++ name

/-- The characters that do not depend on the tenant. -/
def chars : TextPart → List Char
  | fixed cs | table cs => cs

/-- The text as it is written for a tenant. -/
def spellAll (t : Tenant) (parts : List TextPart) : List Char := parts.flatMap (spell t)

/-- The text of each tenant has these parts. -/
def Spells (parts : List TextPart) (text : Tenant → String) : Prop :=
  ∀ t, (text t).toList = spellAll t parts

theorem spells_fixed {cs : List Char} : Spells [fixed cs] fun _ => .ofList cs := fun t => by
  simp [spellAll, spell]

theorem spells_table {name : List Char} : Spells [table name] fun t => t.table (.ofList name) :=
  fun t => by simp [Tenant.toList_table, spellAll, spell]

theorem Spells.append {parts₁ parts₂ : List TextPart} {text₁ text₂ : Tenant → String}
    (h₁ : Spells parts₁ text₁) (h₂ : Spells parts₂ text₂) :
    Spells (parts₁ ++ parts₂) fun t => text₁ t ++ text₂ t := fun t => by
  rw [String.toList_append, h₁ t, h₂ t, spellAll, spellAll, spellAll, List.flatMap_append]

/-- There is no quotation mark outside of qualifiers, and the tables that are named are those of
tenants. -/
def areProper (parts : List TextPart) : Bool :=
  parts.all (fun p => !p.chars.contains '"') &&
    (Statement.tablesAmong (Text.pieces ' ' (spellAll .standard parts))).all fun word =>
      Tenant.tableNames.any fun name => word == spell .standard (.table name.toList)

/-- The qualifiers are all that tells the texts of two tenants apart. -/
theorem renameChars_spellAll {parts : List TextPart} (h : ∀ p ∈ parts, '"' ∉ p.chars)
    (t u : Tenant) :
    Statement.renameChars t.schema u.schema (spellAll t parts) = spellAll u parts := by
  induction parts with
  | nil => rfl
  | cons p parts ih =>
    obtain ⟨hp, hparts⟩ := List.forall_mem_cons.1 h
    rw [spellAll, spellAll, List.flatMap_cons, List.flatMap_cons]
    cases p with
    | fixed cs =>
      exact (Statement.renameChars_append_of_notMem _ _ hp _).trans
        (congrArg (cs ++ ·) (ih hparts))
    | table name =>
      rw [spell, spell, List.append_assoc, List.append_assoc,
        Statement.renameChars_qualifier_append]
      exact congrArg _ ((Statement.renameChars_append_of_notMem _ _ hp _).trans
        (congrArg (name ++ ·) (ih hparts)))

end TextPart

/-- The text is worded alike for all tenants. -/
def Worded (text : Tenant → String) : Prop :=
  ∃ parts, TextPart.Spells parts text ∧ TextPart.areProper parts = true

namespace Worded

open TextPart

variable {text : Tenant → String}

theorem intro {parts : List TextPart} (h : Spells parts text) (hproper : areProper parts = true) :
    Worded text := ⟨parts, h, hproper⟩

theorem renameChars_toList (h : Worded text) (t u : Tenant) :
    Statement.renameChars t.schema u.schema (text t).toList = (text u).toList := by
  obtain ⟨parts, hspells, hproper⟩ := h
  have hparts : ∀ p ∈ parts, '"' ∉ p.chars := by
    simpa using (Bool.and_eq_true_iff.1 hproper).1
  rw [hspells t, hspells u, renameChars_spellAll hparts]

/-- The tables that are named are the tenant's own: it is so for one tenant, and for others the
words are the same but for their qualifiers. -/
theorem mem_tables (h : Worded text) (t : Tenant) {values : List Json} {name : String}
    (hname : name ∈ Statement.tables ⟨text t, values⟩) :
    ∃ table ∈ Tenant.tableNames, name = t.table table := by
  obtain ⟨word, hword, rfl⟩ := List.mem_map.1 hname
  rw [← h.renameChars_toList .standard t, Statement.pieces_renameChars,
    Statement.tablesAmong_renameChars] at hword
  obtain ⟨named, hnamed, rfl⟩ := List.mem_map.1 hword
  obtain ⟨parts, hspells, hproper⟩ := h
  rw [hspells] at hnamed
  obtain ⟨table, htable, heq⟩ := List.any_eq_true.1
    (List.all_eq_true.1 (Bool.and_eq_true_iff.1 hproper).2 named hnamed)
  have hchars : '"' ∉ table.toList :=
    (by decide : ∀ table ∈ Tenant.tableNames, '"' ∉ table.toList) table htable
  refine ⟨table, htable, ?_⟩
  rw [eq_of_beq heq, spell, Statement.renameChars_qualifier_append,
    Statement.renameChars_of_notMem _ _ hchars, ← t.toList_table, String.ofList_toList]

end Worded

/-! ## The statements of commands -/

namespace Command

/-- **All statements of commands are worded alike** for all tenants. -/
theorem worded (c : Command) : Worded fun t => (c.statement t).text := by
  cases c
  all_goals
    dsimp only [statement, selectEndpoints, endpointColumns, selectTraces, traceColumns, paging,
      rollInto, rollable, upsertFieldText, updateEndpointText]
    apply Worded.intro
    · repeat' with_reducible
        first
        | exact TextPart.spells_table
        | exact TextPart.spells_fixed
        | apply TextPart.Spells.append
    · decide +kernel

theorem values_statement (c : Command) (t u : Tenant) :
    (c.statement t).values = (c.statement u).values := by
  cases c <;> rfl

/-- The statement of another tenant is the same one with the qualifiers replaced. -/
theorem rename_statement (c : Command) (t u : Tenant) :
    (c.statement t).rename t.schema u.schema = c.statement u := by
  rw [Statement.rename, c.worded.renameChars_toList t u, String.ofList_toList,
    c.values_statement t u]

/-- The tables that a statement names are the tenant's own. -/
theorem mem_tables_statement (c : Command) (t : Tenant) {name : String}
    (h : name ∈ (c.statement t).tables) : ∃ table ∈ Tenant.tableNames, name = t.table table :=
  c.worded.mem_tables t h

end Command

/-! ## The statements of levels -/

namespace Statement

/-- The statement is the same for all tenants and names no tables. -/
structure Neutral (s : Statement) : Prop where
  quote_notMem : '"' ∉ s.text.toList
  tables_eq : s.tables = []

theorem tablesAmong_concat {ws : List (List Char)} (h : ∀ w ∈ ws, opensTable w = false)
    (last : List Char) : tablesAmong (ws ++ [last]) = [] := by
  induction ws with
  | nil => rfl
  | cons w ws ih =>
    obtain ⟨hw, hws⟩ := List.forall_mem_cons.1 h
    cases ws with
    | nil => simp [tablesAmong, hw]
    | cons v ws =>
      rw [List.cons_append, List.cons_append, tablesAmong, hw]
      exact ih hws

/-- A statement is neutral if no table must follow any of its words. -/
theorem neutral_of_words {text : String} {ws : List (List Char)} {last : List Char}
    (htext : text.toList = ws.flatMap (· ++ [' ']) ++ last)
    (hws : ∀ w ∈ ws, ' ' ∉ w ∧ '"' ∉ w ∧ opensTable w = false) (hspace : ' ' ∉ last)
    (hquote : '"' ∉ last) : Neutral { text } where
  quote_notMem := by
    rw [htext]
    simp only [List.mem_append, List.mem_flatMap, List.mem_singleton, not_or, not_exists, not_and]
    exact ⟨fun w hw => ⟨(hws w hw).2.1, by decide⟩, hquote⟩
  tables_eq := by
    have hpieces : Text.pieces ' ' text.toList = ws ++ [last] := by
      rw [htext]
      clear htext
      induction ws with
      | nil => exact Path.pieces_of_notMem hspace
      | cons w ws ih =>
        obtain ⟨hw, hws⟩ := List.forall_mem_cons.1 hws
        rw [List.flatMap_cons, List.append_assoc, List.append_assoc, List.singleton_append,
          Path.pieces_append hw.1, ih hws, List.cons_append]
    rw [tables, hpieces, tablesAmong_concat fun w hw => (hws w hw).2.2]
    rfl

theorem Neutral.rename {s : Statement} (h : s.Neutral) (old new : String) :
    s.rename old new = s := by
  rw [Statement.rename, renameChars_of_notMem old new h.quote_notMem, String.ofList_toList]

end Statement

namespace Connection

open Statement

theorem notMem_savepoint {c : Char} (hletters : c ∉ "_sqlx_savepoint_".toList)
    (hdigit : c.isDigit = false) (depth : Nat) : c ∉ (savepoint depth).toList := by
  rw [savepoint, String.toList_append, List.mem_append, not_or]
  refine ⟨hletters, fun h => ?_⟩
  rw [Nat.toString_eq_repr, Nat.toList_repr] at h
  have hc := Nat.isDigit_of_mem_toDigits (by decide) (by decide) h
  rw [hdigit] at hc
  cases hc

/-- A statement that ends in the name of a savepoint is neutral. -/
theorem neutral_savepoint {start : String} (ws : List (List Char))
    (hstart : start.toList = ws.flatMap (· ++ [' ']))
    (hws : ∀ w ∈ ws, ' ' ∉ w ∧ '"' ∉ w ∧ opensTable w = false) (depth : Nat) :
    Neutral { text := start ++ savepoint depth } :=
  neutral_of_words (by rw [String.toList_append, hstart]) hws
    (notMem_savepoint (by decide) (by decide) depth)
    (notMem_savepoint (by decide) (by decide) depth)

theorem neutral_openText (depth : Nat) : Neutral { text := openText depth } := by
  unfold openText
  split
  · exact ⟨by decide, by decide⟩
  · exact neutral_savepoint ["SAVEPOINT".toList] (by decide) (by decide) depth

theorem neutral_commitText (depth : Nat) : Neutral { text := commitText depth } := by
  unfold commitText
  split
  · exact ⟨by decide, by decide⟩
  · exact neutral_savepoint ["RELEASE".toList, "SAVEPOINT".toList] (by decide) (by decide) _

theorem neutral_rollbackText (depth : Nat) : Neutral { text := rollbackText depth } := by
  unfold rollbackText
  split
  · exact ⟨by decide, by decide⟩
  · exact neutral_savepoint ["ROLLBACK".toList, "TO".toList, "SAVEPOINT".toList] (by decide)
      (by decide) _

end Connection

end TrafficLens
