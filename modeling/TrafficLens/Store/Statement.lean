import TrafficLens.Instant.Basic
import TrafficLens.Traffic.Trace

/-!
# Statements

A `Statement` is what is sent to the database: a text with numbered holes and the values for them.
The values are given by their JSON forms. The forms say what a reader of a log wants to know:
identifiers and times are texts, columns of JSON hold the JSON itself, and lists are arrays.
-/

namespace TrafficLens

/-- A text with numbered holes, and the values for them. -/
structure Statement where
  text : String
  values : List Json := []
deriving DecidableEq

namespace Statement

/-- A time as a value: to the microsecond, as columns hold it. -/
def time (t : Instant) : Json := t.toColumn.toJson

/-- A text as a value. -/
def string (s : String) : Json := .string s

/-- A list of texts as a value. -/
def strings (ss : List String) : Json := Json.strings ss

/-- An identifier as a value. -/
def uuid (u : Uuid) : Json := u.toJson

/-- A value that may be absent. -/
def opt {α : Type} (encode : α → Json) (a : Option α) : Json := Json.orNull encode a

end Statement

end TrafficLens
