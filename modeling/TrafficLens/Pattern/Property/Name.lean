import TrafficLens.Pattern.Property.Age
import TrafficLens.Pattern.Property.Boundary
import TrafficLens.Text.Split

/-!
# Names of classes

A pattern names a class of characters by a property that the characters have or not, by a general
category or by a script, or by a property and one of its values. `CharSet.ofQuery?` finds the class.
Capitals, blanks, hyphens and underscores make no difference in names, and `is` may stand before
them.

Surrogates are no characters, so that their category is not found, and neither is a script without
characters. Properties whose values are not classes of characters are not known.
-/

namespace TrafficLens.Pattern

/-- A name as it stands in the tables. The name `isc` is not that of the category `c`. -/
def normalName (name : List Char) : String :=
  let (shortened, rest) :=
    match name with
    | i :: s :: rest => if i.toLower == 'i' && s.toLower == 's' then (true, rest) else (false, name)
    | _ => (false, name)
  let kept := rest.filter fun c => c.toNat < 128 && !([' ', '-', '_'].contains c)
  let kept := kept.map Char.toLower
  if shortened && kept == ['c'] then "isc" else String.ofList kept

namespace CharSet

/-- The class of a name that stands alone. -/
def ofName? (name : List Char) : Option CharSet :=
  let name := normalName name
  (lookUp? name binaryProperties).or ((lookUp? name categories).or (lookUp? name scripts))

/-- The properties of which a character has one of several values, and their values. -/
def valuedProperties : List (List String × List (List String × CharSet)) :=
  [(["age"], ages),
   (["gc", "generalcategory"], categories),
   (["gcb", "graphemeclusterbreak"], graphemeBreaks),
   (["sb", "sentencebreak"], sentenceBreaks),
   (["sc", "script"], scripts),
   (["scx", "scriptextensions"], scriptExtensions),
   (["wb", "wordbreak"], wordBreaks)]

/-- The class of the characters with a value of a property. -/
def ofValue? (property value : List Char) : Option CharSet := do
  let values ← lookUp? (normalName property) valuedProperties
  lookUp? (normalName value) values

/-- The class that a text names, and whether the characters outside it are meant. A value stands
behind `=` or `:`, or behind `!=` for the characters without it. -/
def ofQuery? (query : List Char) : Option (CharSet × Bool) :=
  match Text.cutText? ['!', '='] query with
  | .some (property, value) => (ofValue? property value).map fun s => (s, true)
  | .none =>
    match (Text.cut? ':' query).or (Text.cut? '=' query) with
    | .some (property, value) => (ofValue? property value).map fun s => (s, false)
    | .none => (ofName? query).map fun s => (s, false)

end CharSet

end TrafficLens.Pattern
