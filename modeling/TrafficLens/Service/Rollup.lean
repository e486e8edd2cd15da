import TrafficLens.Service.Basic

/-!
# Rolling traces up

Analyzed traces from before the current hour are counted by endpoint and by minute and hour, and
then deleted, all in one transaction that sees one state of the database throughout. The counts are
added to those that are there. If the numbers of counted and deleted traces differ the transaction
is rolled back, and so nothing is deleted that was not counted.
-/

namespace TrafficLens

/-- What a rollup did. -/
structure RollupReport where
  /-- Traces from before this time were rolled up. -/
  boundary : Instant
  counted : Int := 0
  minuteRows : Nat := 0
  hourRows : Nat := 0
  deleted : Nat := 0
deriving DecidableEq

/-- The JSON form of a report. -/
def RollupReport.toJson (r : RollupReport) : Json :=
  .object
    [("boundary", r.boundary.toJson), ("hourly_rows", .nat r.hourRows),
     ("minutely_rows", .nat r.minuteRows), ("traces_counted", .int r.counted),
     ("traces_deleted", .nat r.deleted)]

/-- Were as many traces deleted as counted? A count is a signed number of 64 bits, and the number of
deleted rows is read as one. -/
def RollupReport.isBalanced (r : RollupReport) : Bool :=
  Int.bmod r.deleted (Nat.pow 2 64) == r.counted

namespace Service

/-- Count and delete, inside a transaction. -/
def rollCounts (c : ConnectionId) (t : Tenant) (boundary : Instant) : Attempt RollupReport := do
  let counted : Int ← send (.held c) t (.countRollable boundary)
  if counted = 0 then pure { boundary }
  else
    let minuteRows : Nat ← send (.held c) t (.rollMinutes boundary)
    let hourRows : Nat ← send (.held c) t (.rollHours boundary)
    let deleted : Nat ← send (.held c) t (.deleteRolled boundary)
    pure { boundary, counted, minuteRows, hourRows, deleted }

/-- Roll up and delete the analyzed traces from before a time. -/
def rollupBefore (c : ConnectionId) (t : Tenant) (boundary : Instant) : Attempt RollupReport := do
  openLevel c
  match ← (send (.held c) t .freezeView).outcome with
  | .error f => do
    Attempt.ask (.abandonLevel c)
    throw f
  | .ok _ =>
    match ← (rollCounts c t boundary).outcome with
    | .ok report =>
      if report.isBalanced then
        commitLevel c
        pure report
      else
        rollbackLevel c
        throw (.rollupMismatch report.counted report.deleted)
    | .error f => do
      let _ ← (rollbackLevel c).outcome
      throw f

/-- Roll up and delete the analyzed traces from before the current hour. -/
def rollup (t : Tenant) : Attempt RollupReport := do
  let boundary := (← currentTime).floorHour
  withConnection fun c => rollupBefore c t boundary

end Service

end TrafficLens
