import TrafficLens.Store.Row
import TrafficLens.Text.Split

/-!
# Scripts

A `Script` says what a database answers that executes nothing: a list of rules, of which the first
one that applies and is not used up decides. A rule applies to every statement whose text has a
given part. A statement that no rule applies to gets the `standardReply`: queries have no rows,
except that a count is zero, and all other statements change one row.
-/

namespace TrafficLens

/-- What the server does with a statement. -/
inductive ServerAction where
  | reply (reply : DatabaseReply)
  /-- Refuse the statement with an error code. -/
  | refuse (code : String)
  /-- Close the connection without an answer. -/
  | hangUp

namespace ServerAction

/-- The name that stands for closing the connection in place of an error code. -/
def hangUpName : String := "hang_up"

/-- What is done in place of an answer, by its name. -/
def ofErrorName (name : String) : ServerAction :=
  if name == hangUpName then hangUp else refuse name

end ServerAction

/-- A rule of a script. -/
structure Rule where
  /-- The rule applies to the statements with this part. -/
  part : String
  action : ServerAction
  /-- How often the rule can still be used; `none` is for ever. -/
  uses : Option Nat := none

namespace Rule

/-- Does the rule apply to a statement, and is it not used up? -/
def applies (r : Rule) (text : String) : Bool :=
  r.uses != some 0 && Text.occursIn r.part.toList text.toList

/-- The rule after one more use. -/
def used (r : Rule) : Rule := { r with uses := r.uses.map (· - 1) }

/-- Read the action of a rule. -/
def actionOfJson? (r : Json.Record) : Option ServerAction :=
  match r.get? "error" with
  | some (.string name) => some (.ofErrorName name)
  | some _ => none
  | none => do
    let rows ← r.withDefault "rows" (Json.asList? Json.members?) []
    let changed ← r.withDefault "affected" (Json.asUnsigned? 64) 1
    pure (.reply { rows, changed })

/-- Read a rule. -/
def ofJson? (v : Json) : Option Rule := do
  let r ← Json.Record.ofJson? [] v
  let part ← r.required "on" Json.asString?
  let uses ← r.optional "times" (Json.asUnsigned? 64)
  pure { part, action := ← actionOfJson? r, uses }

end Rule

/-- What a database answers that executes nothing. -/
abbrev Script : Type := List Rule

namespace Script

/-- The answer of the first rule that applies, and the script after its use. -/
def respond? (text : String) : Script → Option (ServerAction × Script)
  | [] => none
  | r :: rest =>
    if r.applies text then some (r.action, r.used :: rest)
    else (respond? text rest).map fun (action, rest) => (action, r :: rest)

/-- Has the text this start? -/
def startsWith (start text : String) : Bool :=
  (Text.dropStart? start.toList text.toList).isSome

/-- The answer to a statement that no rule applies to. -/
def standardReply (text : String) : DatabaseReply :=
  if startsWith "SELECT COUNT(*)" text then { rows := [[("count", .nat 0)]] }
  else if startsWith "SELECT" text then {}
  else { changed := 1 }

end Script

end TrafficLens
