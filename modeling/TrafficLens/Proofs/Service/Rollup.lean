import Mathlib.Data.List.Induction
import TrafficLens.Proofs.Program.Clerk
import TrafficLens.Service.Rollup

/-!
# What a rollup deletes

A rollup counts the traces from before its boundary, adds the counts to the minutely and the hourly
table, and deletes the traces, as four statements of one transaction. `RollupYields` lists all ways
in which that can go. Whatever the database answers, a commit is acknowledged only for as many
deleted traces as were counted, and only after both tables have got the counts
(`rollup_deletes_counted`); in all other cases what was deleted is rolled back.
-/

namespace TrafficLens

open Attempt

/-! ## The ways of a rollup -/

/-- A statement on a held connection, and its reply. -/
def Event.ofCommand (c : ConnectionId) (t : Tenant) (command : Command)
    (reply : Except DatabaseError command.Answer) : Event :=
  ⟨.command (.held c) t command, reply⟩

/-- A request to delete traces. -/
def Request.Deletes : Request → Prop
  | command _ _ (.deleteRolled _) => True
  | _ => False

/-- A commit that was acknowledged. -/
def Event.Commits : Event → Prop
  | ⟨.commitLevel _, .ok _⟩ => True
  | _ => False

/-- The number of traces that were counted. -/
def Event.counted? : Event → Option Int
  | ⟨.command _ _ (.countRollable _), .ok (n : Int)⟩ => some n
  | _ => none

/-- The number of traces that were deleted. -/
def Event.deleted? : Event → Option Nat
  | ⟨.command _ _ (.deleteRolled _), .ok (n : Nat)⟩ => some n
  | _ => none

/-- The numbers of traces that were counted in a transcript. -/
def counts (es : List Event) : List Int := es.filterMap Event.counted?

/-- The numbers of traces that were deleted in a transcript. -/
def deletions (es : List Event) : List Nat := es.filterMap Event.deleted?

section Ways

variable (c : ConnectionId) (t : Tenant) (boundary : Instant)

/-- The ways in which traces are counted and deleted inside the transaction. -/
inductive CountingYields : List Event → Except Failure RollupReport → Prop
  | uncounted (e : DatabaseError) :
    CountingYields [.ofCommand c t (.countRollable boundary) (.error e)] (.error (.database e))
  | nothing :
    CountingYields [.ofCommand c t (.countRollable boundary) (.ok (0 : Int))] (.ok { boundary })
  | minutesFailed (counted : Int) (e : DatabaseError) :
    CountingYields
      [.ofCommand c t (.countRollable boundary) (.ok counted),
        .ofCommand c t (.rollMinutes boundary) (.error e)] (.error (.database e))
  | hoursFailed (counted : Int) (minuteRows : Nat) (e : DatabaseError) :
    CountingYields
      [.ofCommand c t (.countRollable boundary) (.ok counted),
        .ofCommand c t (.rollMinutes boundary) (.ok minuteRows),
        .ofCommand c t (.rollHours boundary) (.error e)] (.error (.database e))
  | undeleted (counted : Int) (minuteRows hourRows : Nat) (e : DatabaseError) :
    CountingYields
      [.ofCommand c t (.countRollable boundary) (.ok counted),
        .ofCommand c t (.rollMinutes boundary) (.ok minuteRows),
        .ofCommand c t (.rollHours boundary) (.ok hourRows),
        .ofCommand c t (.deleteRolled boundary) (.error e)] (.error (.database e))
  | deleted (counted : Int) (minuteRows hourRows deleted : Nat) (hcounted : counted ≠ 0) :
    CountingYields
      [.ofCommand c t (.countRollable boundary) (.ok counted),
        .ofCommand c t (.rollMinutes boundary) (.ok minuteRows),
        .ofCommand c t (.rollHours boundary) (.ok hourRows),
        .ofCommand c t (.deleteRolled boundary) (.ok deleted)]
      (.ok { boundary, counted, minuteRows, hourRows, deleted })

/-- The beginning of a rollup: its transaction is opened and sees one state of the database. -/
def rollupStart : List Event :=
  [⟨.openLevel c, Except.ok ()⟩, .ofCommand c t .freezeView (.ok ())]

/-- The ways of a rollup. -/
inductive RollupYields : List Event → Except Failure RollupReport → Prop
  | unopened (e : DatabaseError) :
    RollupYields [⟨.openLevel c, Except.error e⟩] (.error (.database e))
  | unfrozen (e : DatabaseError) :
    RollupYields
      [⟨.openLevel c, Except.ok ()⟩, .ofCommand c t .freezeView (.error e), ⟨.abandonLevel c, ()⟩]
      (.error (.database e))
  | failed {es : List Event} {f : Failure} (reply : Except DatabaseError Unit)
    (h : CountingYields c t boundary es (.error f)) :
    RollupYields (rollupStart c t ++ es ++ [⟨.rollbackLevel c, reply⟩]) (.error f)
  | mismatched {es : List Event} {report : RollupReport} (reply : Except DatabaseError Unit)
    {f : Failure} (h : CountingYields c t boundary es (.ok report))
    (hbalanced : report.isBalanced = false)
    (hf : reply = .ok () → f = .rollupMismatch report.counted report.deleted) :
    RollupYields (rollupStart c t ++ es ++ [⟨.rollbackLevel c, reply⟩]) (.error f)
  | uncommitted {es : List Event} {report : RollupReport} (e : DatabaseError)
    (h : CountingYields c t boundary es (.ok report)) (hbalanced : report.isBalanced = true) :
    RollupYields (rollupStart c t ++ es ++ [⟨.commitLevel c, Except.error e⟩])
      (.error (.database e))
  | committed {es : List Event} {report : RollupReport}
    (h : CountingYields c t boundary es (.ok report)) (hbalanced : report.isBalanced = true) :
    RollupYields (rollupStart c t ++ es ++ [⟨.commitLevel c, Except.ok ()⟩]) (.ok report)

end Ways

variable {c : ConnectionId} {t : Tenant} {boundary : Instant} {es : List Event}
  {x : Except Failure RollupReport}

theorem countingYields (hy : (Service.rollCounts c t boundary).Yields es x) :
    CountingYields c t boundary es x := by
  obtain ⟨e, rfl, rfl⟩ | ⟨(counted : Int), rest, rfl, hcount⟩ := yields_send_bind.1 hy
  · exact .uncounted e
  by_cases hcounted : counted = 0
  · rw [if_pos hcounted] at hcount
    obtain ⟨rfl, rfl⟩ := yields_pure.1 hcount
    subst hcounted
    exact .nothing
  rw [if_neg hcounted] at hcount
  obtain ⟨e, rfl, rfl⟩ | ⟨(minuteRows : Nat), rest, rfl, hminutes⟩ := yields_send_bind.1 hcount
  · exact .minutesFailed counted e
  obtain ⟨e, rfl, rfl⟩ | ⟨(hourRows : Nat), rest, rfl, hhours⟩ := yields_send_bind.1 hminutes
  · exact .hoursFailed counted minuteRows e
  obtain ⟨e, rfl, rfl⟩ | ⟨(deleted : Nat), rest, rfl, hdelete⟩ := yields_send_bind.1 hhours
  · exact .undeleted counted minuteRows hourRows e
  obtain ⟨rfl, rfl⟩ := yields_pure.1 hdelete
  exact .deleted counted minuteRows hourRows deleted hcounted

theorem rollupYields (hy : (Service.rollupBefore c t boundary).Yields es x) :
    RollupYields c t boundary es x := by
  obtain ⟨_, e, rfl, rfl, rfl⟩ | ⟨_, ⟨⟩, _, rfl, rfl, hopened⟩ := yields_openLevel_bind.1 hy
  · exact .unopened e
  obtain ⟨_, _, frozen, rfl, hfreeze, hfrozen⟩ := yields_outcome_bind.1 hopened
  obtain ⟨reply, rfl, rfl⟩ := yields_send.1 hfreeze
  cases reply with
  | error e =>
    obtain ⟨f, -, habandon⟩ | ⟨_, _, _, rfl, habandon, hthrow⟩ := yields_bind.1 hfrozen
    · obtain ⟨_, -, hreply⟩ := yields_ask.1 habandon
      cases hreply
    obtain ⟨⟨⟩, rfl, -⟩ := yields_ask.1 habandon
    obtain ⟨rfl, rfl⟩ := yields_throw.1 hthrow
    exact .unfrozen e
  | ok v =>
    obtain ⟨counting, _, outcome, rfl, hcounts, hclose⟩ := yields_outcome_bind.1 hfrozen
    have hways := countingYields hcounts
    cases outcome with
    | error f =>
      obtain ⟨_, _, _, rfl, hrollback, hthrow⟩ := yields_outcome_bind.1 hclose
      obtain ⟨reply, rfl, -⟩ := yields_rollbackLevel.1 hrollback
      obtain ⟨rfl, rfl⟩ := yields_throw.1 hthrow
      exact .failed reply hways
    | ok report =>
      dsimp only at hclose
      split at hclose
      · next hbalanced =>
        obtain ⟨_, e, rfl, rfl, rfl⟩ | ⟨_, ⟨⟩, _, rfl, rfl, hdone⟩ :=
          yields_commitLevel_bind.1 hclose
        · exact .uncommitted e hways hbalanced
        · obtain ⟨rfl, rfl⟩ := yields_pure.1 hdone
          exact .committed hways hbalanced
      · next hbalanced =>
        have hbalanced : report.isBalanced = false := Bool.not_eq_true _ ▸ hbalanced
        obtain ⟨_, e, rfl, rfl, rfl⟩ | ⟨_, ⟨⟩, _, rfl, rfl, hdone⟩ :=
          yields_rollbackLevel_bind.1 hclose
        · exact .mismatched (.error e) hways hbalanced nofun
        · obtain ⟨rfl, rfl⟩ := yields_throw.1 hdone
          exact .mismatched (.ok ()) hways hbalanced fun _ => rfl

/-! ## What follows for the numbers -/

/-- If a count is not negative then only an equal number of 64 bits balances it. -/
theorem RollupReport.deleted_eq_of_isBalanced {report : RollupReport}
    (hbalanced : report.isBalanced = true) (hcounted : 0 ≤ report.counted)
    (hdeleted : report.deleted < Nat.pow 2 64) : (report.deleted : Int) = report.counted := by
  have hsigned : Int.bmod report.deleted (Nat.pow 2 64) = report.counted := eq_of_beq hbalanced
  generalize Nat.pow 2 64 = m at hsigned hdeleted
  rw [Int.bmod_def, Int.emod_eq_of_lt (by omega) (by omega)] at hsigned
  split at hsigned <;> omega

namespace CountingYields

theorem not_commits (h : CountingYields c t boundary es x) : ∀ e ∈ es, ¬ e.Commits := by
  cases h <;> simp [Event.ofCommand, Event.Commits]

/-- A report says what was counted and deleted, if anything. -/
theorem of_report {report : RollupReport} (h : CountingYields c t boundary es (.ok report)) :
    counts es = [report.counted] ∧
      (report.counted = 0 ∧ report.deleted = 0 ∧ (∀ e ∈ es, ¬ e.request.Deletes) ∨
        report.counted ≠ 0 ∧ deletions es = [report.deleted] ∧ ∃ minuteRows hourRows,
          es = [.ofCommand c t (.countRollable boundary) (.ok report.counted),
            .ofCommand c t (.rollMinutes boundary) (.ok minuteRows),
            .ofCommand c t (.rollHours boundary) (.ok hourRows),
            .ofCommand c t (.deleteRolled boundary) (.ok report.deleted)]) := by
  cases h with
  | nothing =>
    exact ⟨rfl, .inl ⟨rfl, rfl, by simp [Event.ofCommand, Request.Deletes]⟩⟩
  | deleted counted minuteRows hourRows deleted hcounted =>
    exact ⟨rfl, .inr ⟨hcounted, rfl, minuteRows, hourRows, rfl⟩⟩

/-- Nothing is deleted if it ends with a failure. -/
theorem deletions_of_error {f : Failure} (h : CountingYields c t boundary es (.error f)) :
    deletions es = [] := by
  cases h <;> rfl

end CountingYields

namespace RollupYields

variable {es before after : List Event} {e : Event}

/-- The close of a rollup is its last event. What comes before it is no commit. -/
theorem eq_of_commits {close : Event} (h : ∀ e ∈ es, ¬ e.Commits)
    (hes : es ++ [close] = before ++ e :: after) (he : e.Commits) : before = es ∧ e = close := by
  cases after using List.reverseRecOn with
  | nil =>
    obtain ⟨rfl, hlast⟩ := List.append_inj' hes rfl
    exact ⟨rfl, (List.singleton_inj.1 hlast).symm⟩
  | append_singleton after last =>
    rw [← List.cons_append, ← List.append_assoc] at hes
    obtain ⟨rfl, -⟩ := List.append_inj' hes rfl
    exact absurd he (h e (by simp))

theorem not_commits_start (h : CountingYields c t boundary es x) :
    ∀ e ∈ rollupStart c t ++ es, ¬ e.Commits := by
  rw [List.forall_mem_append]
  exact ⟨by simp [rollupStart, Event.ofCommand, Event.Commits], h.not_commits⟩

/-- A commit that is acknowledged is the end of a rollup that reports what it did. -/
theorem of_commits (h : RollupYields c t boundary es x) (hes : es = before ++ e :: after)
    (he : e.Commits) : ∃ counting report, before = rollupStart c t ++ counting ∧
      CountingYields c t boundary counting (.ok report) ∧ x = .ok report := by
  cases h with
  | unopened err =>
    obtain ⟨-, rfl⟩ := eq_of_commits (List.forall_mem_nil _) hes he
    cases he
  | unfrozen err =>
    have hstart : ∀ e ∈ ([⟨.openLevel c, Except.ok ()⟩, .ofCommand c t .freezeView (.error err)] :
        List Event), ¬ e.Commits := by
      simp [Event.ofCommand, Event.Commits]
    obtain ⟨-, rfl⟩ := eq_of_commits hstart hes he
    cases he
  | failed reply h =>
    obtain ⟨-, rfl⟩ := eq_of_commits (not_commits_start h) hes he
    cases he
  | mismatched reply h hbalanced hf =>
    obtain ⟨-, rfl⟩ := eq_of_commits (not_commits_start h) hes he
    cases he
  | uncommitted err h hbalanced =>
    obtain ⟨-, rfl⟩ := eq_of_commits (not_commits_start h) hes he
    cases he
  | committed h hbalanced =>
    obtain ⟨rfl, -⟩ := eq_of_commits (not_commits_start h) hes he
    exact ⟨_, _, rfl, h, rfl⟩

/-- A rollup that reports what it did has committed it. -/
theorem of_report {report : RollupReport} (h : RollupYields c t boundary es (.ok report)) :
    ∃ counting, es = rollupStart c t ++ counting ++ [⟨.commitLevel c, Except.ok ()⟩] ∧
      CountingYields c t boundary counting (.ok report) ∧ report.isBalanced = true := by
  cases h with
  | committed h hbalanced => exact ⟨_, rfl, h, hbalanced⟩

theorem numbers_eq {close : Event} (hcounted : close.counted? = none)
    (hdeleted : close.deleted? = none) :
    counts (rollupStart c t ++ es ++ [close]) = counts es ∧
      deletions (rollupStart c t ++ es ++ [close]) = deletions es := by
  simp only [counts, deletions, List.filterMap_append, List.filterMap_cons, hcounted, hdeleted,
    List.filterMap_nil, List.append_nil]
  exact ⟨rfl, rfl⟩

/-- If traces were deleted then their number balances the count, or the rollup ends with a failure
after it was to be rolled back. -/
theorem of_deletion (h : RollupYields c t boundary es x) {deleted : Nat}
    (hdeleted : deleted ∈ deletions es) : ∃ report : RollupReport,
      counts es = [report.counted] ∧ deletions es = [report.deleted] ∧
        (report.isBalanced = true ∨ ∃ f reply, x = .error f ∧
          es.getLast? = some ⟨.rollbackLevel c, reply⟩ ∧
          (reply = .ok () → f = .rollupMismatch report.counted report.deleted)) := by
  have hnumbers : ∀ {counting : List Event} {report : RollupReport} {close : Event},
      CountingYields c t boundary counting (.ok report) → close.counted? = none →
        close.deleted? = none → deleted ∈ deletions (rollupStart c t ++ counting ++ [close]) →
          counts (rollupStart c t ++ counting ++ [close]) = [report.counted] ∧
            deletions (rollupStart c t ++ counting ++ [close]) = [report.deleted] := by
    intro counting report close h hcounted? hdeleted? hmem
    rw [(numbers_eq hcounted? hdeleted?).2] at hmem
    rw [(numbers_eq hcounted? hdeleted?).1, (numbers_eq hcounted? hdeleted?).2]
    cases h with
    | nothing => cases hmem
    | deleted => exact ⟨rfl, rfl⟩
  cases h with
  | unopened e => cases hdeleted
  | unfrozen e => cases hdeleted
  | failed reply h =>
    rw [(numbers_eq rfl rfl).2, h.deletions_of_error] at hdeleted
    cases hdeleted
  | mismatched reply h hbalanced hf =>
    obtain ⟨hcounts, hdeletions⟩ := hnumbers h rfl rfl hdeleted
    exact ⟨_, hcounts, hdeletions, .inr ⟨_, reply, rfl, List.getLast?_concat, hf⟩⟩
  | uncommitted e h hbalanced | committed h hbalanced =>
    obtain ⟨hcounts, hdeletions⟩ := hnumbers h rfl rfl hdeleted
    exact ⟨_, hcounts, hdeletions, .inl hbalanced⟩

end RollupYields

/-- **What a rollup deletes.** Suppose that the database counts no negative number of traces, and
deletes no more than 64 bits can tell. Then a commit is acknowledged only if the rollup reports what
it did. A rollup that does so has deleted as many traces as it has counted and, if there were any,
has first added the counts to both tables, all for the same boundary. In all other cases no deletion
comes before a commit that is acknowledged. If other numbers are deleted than counted then the
rollup fails after it was rolled back. -/
theorem rollup_deletes_counted (hy : (Service.rollupBefore c t boundary).Yields es x)
    (hcounts : ∀ n ∈ counts es, 0 ≤ n) (hdeletions : ∀ n ∈ deletions es, n < Nat.pow 2 64) :
    (∀ e ∈ es, e.Commits → ∃ report, x = .ok report) ∧
    (∀ report, x = .ok report → counts es = [report.counted] ∧
      (report.deleted : Int) = report.counted ∧
      (report.counted ≠ 0 → ∃ minuteRows hourRows,
        es = rollupStart c t ++
          [.ofCommand c t (.countRollable boundary) (.ok report.counted),
            .ofCommand c t (.rollMinutes boundary) (.ok minuteRows),
            .ofCommand c t (.rollHours boundary) (.ok hourRows),
            .ofCommand c t (.deleteRolled boundary) (.ok report.deleted)] ++
          [⟨.commitLevel c, Except.ok ()⟩])) ∧
    ((∀ report, x = .ok report → report.counted = 0) →
      ∀ before e after, es = before ++ e :: after → e.Commits →
        ∀ e' ∈ before, ¬ e'.request.Deletes) ∧
    (∀ counted ∈ counts es, ∀ deleted ∈ deletions es, (deleted : Int) ≠ counted →
      ∃ f reply, x = .error f ∧ es.getLast? = some ⟨.rollbackLevel c, reply⟩ ∧
        (reply = .ok () → f = .rollupMismatch counted deleted)) := by
  have hways := rollupYields hy
  refine ⟨fun e he hcommits => ?_, fun report hx => ?_, fun hnone before e after hes hcommits => ?_,
    fun counted hcounted deleted hdeleted hne => ?_⟩
  · obtain ⟨before, after, hes⟩ := List.append_of_mem he
    obtain ⟨_, report, -, -, hx⟩ := hways.of_commits hes hcommits
    exact ⟨report, hx⟩
  · subst hx
    obtain ⟨counting, rfl, hcounting, hbalanced⟩ := hways.of_report
    rw [(RollupYields.numbers_eq rfl rfl).1] at hcounts ⊢
    rw [(RollupYields.numbers_eq rfl rfl).2] at hdeletions
    obtain ⟨hcount, ⟨hzero, hdeleted, -⟩ | ⟨hne, hdeleted, minuteRows, hourRows, rfl⟩⟩ :=
      hcounting.of_report
    · exact ⟨hcount, by rw [hzero, hdeleted]; rfl, absurd hzero⟩
    · rw [hcount] at hcounts
      rw [hdeleted] at hdeletions
      refine ⟨hcount, report.deleted_eq_of_isBalanced hbalanced (by simpa using hcounts)
        (by simpa using hdeletions), fun _ => ⟨minuteRows, hourRows, rfl⟩⟩
  · obtain ⟨counting, report, rfl, hcounting, rfl⟩ := hways.of_commits hes hcommits
    obtain ⟨-, ⟨-, -, hkeeps⟩ | ⟨hne, -⟩⟩ := hcounting.of_report
    · rw [List.forall_mem_append]
      exact ⟨by simp [rollupStart, Event.ofCommand, Request.Deletes], hkeeps⟩
    · exact absurd (hnone report rfl) hne
  · obtain ⟨report, hcount, hdelete, hend⟩ := hways.of_deletion hdeleted
    rw [hcount] at hcounts hcounted
    rw [hdelete] at hdeletions hdeleted
    obtain rfl := List.mem_singleton.1 hcounted
    obtain rfl := List.mem_singleton.1 hdeleted
    rcases hend with hbalanced | hfailed
    · exact absurd (report.deleted_eq_of_isBalanced hbalanced (by simpa using hcounts)
        (by simpa using hdeletions)) hne
    · exact hfailed

/-- Three traces are counted, but only two deleted. -/
theorem rollup_deletes_counted_fewer :
    let rollup := Service.rollupBefore 0 .standard ⟨3600, 0⟩
    let es : List Event := rollupStart 0 .standard ++
      [.ofCommand 0 .standard (.countRollable ⟨3600, 0⟩) (.ok (3 : Int)),
        .ofCommand 0 .standard (.rollMinutes ⟨3600, 0⟩) (.ok (2 : Nat)),
        .ofCommand 0 .standard (.rollHours ⟨3600, 0⟩) (.ok (1 : Nat)),
        .ofCommand 0 .standard (.deleteRolled ⟨3600, 0⟩) (.ok (2 : Nat)),
        ⟨.rollbackLevel 0, Except.ok ()⟩]
    rollup.Yields es (.error (.rollupMismatch 3 2)) ∧ (∀ n ∈ counts es, 0 ≤ n) ∧
      (∀ n ∈ deletions es, n < Nat.pow 2 64) ∧ ∀ e ∈ es, ¬ e.Commits := by
  intro rollup es
  have hy : rollup.Yields es (.error (.rollupMismatch 3 2)) :=
    ⟨_, _, rfl, _, _, rfl, _, _, rfl, _, _, rfl, _, _, rfl, _, _, rfl, _, _, rfl, rfl, rfl⟩
  have hcounts : ∀ n ∈ counts es, 0 ≤ n := by decide
  have hdeletions : ∀ n ∈ deletions es, n < Nat.pow 2 64 := by decide
  refine ⟨hy, hcounts, hdeletions, fun e he hcommits => ?_⟩
  obtain ⟨report, hreport⟩ := (rollup_deletes_counted hy hcounts hdeletions).1 e he hcommits
  cases hreport

end TrafficLens
