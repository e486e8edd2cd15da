import TrafficLens.Failure
import TrafficLens.Traffic.Trace

/-!
# Tenants

The data of each tenant lives in a database schema of its own, and every statement names its
tables with the schema. A `Tenant` is a schema name that is safe to put into a statement: one to
sixty-three lower-case letters, digits and underscores, not beginning with a digit. The proof is
part of the value, so no other name can reach a statement.
-/

namespace TrafficLens

/-- May the character begin a schema name? -/
def isSchemaStart (c : Char) : Bool := c.isLower || c == '_'

/-- May the character stand in a schema name? -/
def isSchemaChar (c : Char) : Bool := c.isLower || c.isDigit || c == '_'

/-- Is the text a schema name? -/
def isSchemaName (s : String) : Bool :=
  match s.toList with
  | [] => false
  | c :: cs => isSchemaStart c && cs.all isSchemaChar && decide (cs.length < 63)

/-- A tenant, by the name of its schema. -/
structure Tenant where
  schema : String
  valid : isSchemaName schema = true

namespace Tenant

instance : DecidableEq Tenant := fun a b =>
  decidable_of_iff (a.schema = b.schema) (by cases a; cases b; simp)

/-- The tenant of a schema. -/
def ofSchema (schema : String) : Except Failure Tenant :=
  if h : isSchemaName schema = true then .ok ⟨schema, h⟩
  else .error (.invalidContext ("'" ++ schema ++ "' is not a valid schema name"))

/-- The tenant that has the schema `public`. -/
def standard : Tenant := ⟨"public", by decide +kernel⟩

/-- The tenant that a queued trace belongs to. -/
def ofRouting (routing : Routing) (defaultSchema : String) : Except Failure Tenant :=
  ofSchema (routing.schema.getD defaultSchema)

/-- The name of a table of the tenant. -/
def table (t : Tenant) (name : String) : String := "\"" ++ t.schema ++ "\"." ++ name

end Tenant

end TrafficLens
