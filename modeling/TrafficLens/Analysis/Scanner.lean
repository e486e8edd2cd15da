import TrafficLens.Dict
import TrafficLens.Failure
import TrafficLens.Pattern.Basic
import TrafficLens.Traffic.Risk

/-!
# Scanning for sensitive data

A `Scanner` finds classes of sensitive data in a text, each with samples of what was found, and
knows the risk of each class. The rest of the library takes any scanner.

A `PatternScanner` has one pattern for each class. The names of classes are written in capitals;
when two configured names become one, the later one's findings replace those of the earlier. Of
each class it keeps the first three different matches. Classes without a configured risk are of
medium risk.

Settings are taken if their patterns can be read and their risks are known. `ofSettingsBy` leaves
open what reads the patterns, and `ofSettings` reads them with `Pattern.parse?`.
-/

namespace TrafficLens

/-- Something that finds sensitive data in texts. -/
structure Scanner where
  /-- The classes found in a text, with samples. -/
  scan : String → List (String × List String)
  /-- The risk of a class. -/
  risk : String → Risk

/-- The settings of a scanner: a pattern and a risk for each class, by name. -/
structure ScannerSettings where
  patterns : List (String × String) := []
  risks : List (String × String) := []
deriving DecidableEq

/-- A scanner with one pattern for each class. -/
structure PatternScanner where
  patterns : List (String × Pattern.Node) := []
  risks : List (String × Risk) := []

namespace PatternScanner

/-- The number of samples of one class that are kept from one text. -/
def maxSamples : Nat := 3

/-- The pattern of a class, as `read` reads it. -/
def compile (read : String → Option Pattern.Node) (entry : String × String) :
    Except Failure (String × Pattern.Node) :=
  match read entry.2 with
  | some node => .ok (entry.1.toUpper, node)
  | none => .error (.invalidPattern entry.1)

/-- The risk of a class. -/
def readRisk (entry : String × String) : Except Failure (String × Risk) :=
  match Risk.ofName? entry.2 with
  | some risk => .ok (entry.1.toUpper, risk)
  | none => .error (.invalidRisk entry.1 entry.2)

/-- The scanner with the given settings, whose patterns are read by `read`. Patterns are looked at
first, then risks. -/
def ofSettingsBy (read : String → Option Pattern.Node) (settings : ScannerSettings) :
    Except Failure PatternScanner := do
  let patterns ← settings.patterns.mapM (compile read)
  let risks ← settings.risks.mapM readRisk
  pure ⟨patterns, Dict.ofList risks⟩

/-- The scanner with the given settings. -/
def ofSettings (settings : ScannerSettings) : Except Failure PatternScanner :=
  ofSettingsBy Pattern.parse? settings

/-- The names of the classes, in the order of the settings. -/
def classNames (s : PatternScanner) : List String := s.patterns.map Prod.fst

/-- Go through matches and add those that are not there yet, until there are enough. -/
def collect (samples : List String) : List String → List String
  | [] => samples
  | found :: rest =>
    let samples := if samples.contains found then samples else samples ++ [found]
    if maxSamples ≤ samples.length then samples else collect samples rest

/-- The first different matches of a pattern. -/
def samplesOf (node : Pattern.Node) (text : String) : List String :=
  collect [] (node.matchesOf text)

/-- The classes found in a text, with samples. -/
def scan (s : PatternScanner) (text : String) : List (String × List String) :=
  if text.isEmpty then []
  else
    s.patterns.foldl
      (fun found p =>
        match samplesOf p.2 text with
        | [] => found
        | samples => Dict.insert p.1 samples found) []

/-- The risk of a class. -/
def risk (s : PatternScanner) (className : String) : Risk :=
  (Dict.find? className.toUpper s.risks).getD .medium

/-- The scanner of the rest of the library. -/
def toScanner (s : PatternScanner) : Scanner := ⟨s.scan, s.risk⟩

end PatternScanner

end TrafficLens
