import TrafficLens.Json.Basic

/-!
# Tables of a TOML document

A document is a table that is filled by statements: headers open a table or begin a new one in a
list of tables, and keys with dots reach into tables on the way. What a statement may do to a table
depends on how the table came about (`Origin`): a table with a header of its own is opened only
once and is closed to keys with dots from outside, a table that was only passed through by a header
can still be opened, and a table that was made by a key with dots can only be extended by such keys.
A value never changes.

`Draft.at?` is the one way into nested tables. `Draft.toJson` forgets how the tables came about.
-/

namespace TrafficLens.Toml

/-- How a table came about. -/
inductive Origin where
  /-- By a header of its own. -/
  | header
  /-- By the header of a table inside it. -/
  | passed
  /-- By a key with dots. -/
  | dotted
deriving DecidableEq, Repr

/-- What stands under a key of a document that is being read. -/
inductive Draft where
  | value (value : Json)
  | table (origin : Origin) (members : List (String × Draft))
  /-- A list of tables, of which the last one is open. -/
  | tables (closed : List Json) (last : List (String × Draft))

/-- The keys of a table that is being read. -/
abbrev Drafts : Type := List (String × Draft)

namespace Draft

mutual

/-- The value that was read. -/
def toJson : Draft → Json
  | value v => v
  | table _ members => .object (membersToJson members)
  | tables closed last => .array (closed ++ [.object (membersToJson last)])
termination_by structural d => d

/-- The members that were read. -/
def membersToJson : List (String × Draft) → List (String × Json)
  | [] => []
  | (key, d) :: rest => (key, toJson d) :: membersToJson rest
termination_by structural ds => ds

end

/-- Change the table at a path, and make the tables on the way that are missing. `byKey` says
whether the path is that of a key with dots; `change` is told whether the table was made by one. -/
def at? (byKey : Bool) (change : (isDotted : Bool) → Drafts → Option Drafts) :
    (isDotted : Bool) → List String → Drafts → Option Drafts
  | isDotted, [], members => change isDotted members
  | _, key :: path, members =>
    let put := fun (d : Draft) => Dict.insert key d members
    match Dict.find? key members with
    | none => do
      let inner ← at? byKey change byKey path []
      pure (put (.table (if byKey then .dotted else .passed) inner))
    | some (.value _) => none
    | some (.tables closed last) => do
      let inner ← at? byKey change false path last
      pure (put (.tables closed inner))
    | some (.table origin inner) =>
      if byKey && origin == .header then none
      else do
        let inner ← at? byKey change (origin == .dotted) path inner
        pure (put (.table origin inner))

/-- Add a value under a key with dots. The last table on the way must have been made by such a key,
unless there is none, and nothing may stand under the key. -/
def addValue? (path : List String) (key : String) (v : Json) (members : Drafts) : Option Drafts :=
  at? true
    (fun isDotted table =>
      if isDotted == path.isEmpty || Dict.contains key table then none
      else some (Dict.insert key (.value v) table))
    false path members

/-- The members that a table has before its header is read, if the table may have one. -/
def openTable? (key : String) (members : Drafts) : Option Drafts :=
  match Dict.find? key members with
  | none => some []
  | some (.table .passed inner) => some inner
  | some _ => none

/-- Put a table in its place at the end of its header's reach. -/
def closeTable? (path : List String) (key : String) (table members : Drafts) : Option Drafts :=
  at? false (fun _ parent => some (Dict.insert key (.table .header table) parent)) false path
    members

/-- The closed tables of a list, if one more may be begun. -/
def openTables? (key : String) (members : Drafts) : Option (List Json) :=
  match Dict.find? key members with
  | none => some []
  | some (.tables closed last) => some (closed ++ [.object (membersToJson last)])
  | some _ => none

/-- Put a table at the end of its list. -/
def closeTables? (path : List String) (key : String) (table members : Drafts) : Option Drafts :=
  at? false
    (fun _ parent => (openTables? key parent).map fun closed =>
      Dict.insert key (.tables closed table) parent)
    false path members

/-- Read something off the table at the path of a header. -/
def look? {α : Type} (look : Drafts → Option α) (path : List String) (members : Drafts) :
    Option α :=
  match path with
  | [] => look members
  | key :: path =>
    match Dict.find? key members with
    | none => look? look path []
    | some (.value _) => none
    | some (.tables _ last) => look? look path last
    | some (.table _ inner) => look? look path inner
termination_by structural path

end Draft

end TrafficLens.Toml
