import TrafficLens.Proofs.Service.Archive
import TrafficLens.Proofs.Service.Deeds

/-!
# Transcripts on tables

A `Journal` follows a transcript on the tables that it works on: statements change them once their
transaction is committed. It also keeps which traces were folded into which documents. A trace that
was fetched is folded into the next document that is saved, and lost if another document is loaded
before that.

A transcript is truthful if every reply says what is in the tables at its time
(`Journal.Truthful`). An `Archivist` replies in this way (`Archivist.truthful_transcript`).
-/

namespace TrafficLens

open Ledger

/-- The document that a statement has saved. -/
def Sent.savedName? : Sent → Option String
  | ⟨_, .saveDocument d, .ok _⟩ => some d.name
  | _ => none

/-- The request neither loads a document nor fetches the traces for one. -/
def Request.Silent : Request → Prop
  | .command _ _ (.loadDocument _) | .command _ _ (.fetchSince ..) => False
  | _ => True

/-- The traces that are fetched for the document that was loaded last, after an event. -/
def Event.fetched (traces : List Trace) : Event → List Trace
  | ⟨.command _ _ (.loadDocument _), _⟩ => []
  | ⟨.command _ _ (.fetchSince ..), .ok (rows : List Trace)⟩ => traces ++ rows
  | _ => traces

theorem Event.fetched_of_silent {e : Event} (h : e.request.Silent) (traces : List Trace) :
    e.fetched traces = traces := by
  obtain ⟨r, reply⟩ := e
  cases r with
  | command route t command =>
    cases command with
    | loadDocument name => cases h
    | fetchSince endpointId since cutoff => cases h
    | _ => rfl
  | _ => rfl

/-- What a connection has done to some tables. -/
structure Journal where
  archive : Archive
  ledger : Ledger := {}
  /-- The traces that were fetched for the document that was loaded last. -/
  fetched : List Trace := []
  /-- The names of the documents that were saved. -/
  saved : List String := []
  /-- The traces that were folded into documents, each with the name of its document. -/
  folded : List (String × Trace) := []

namespace Journal

variable {c : ConnectionId} {j : Journal}

/-- Some statements were committed. -/
def commit (j : Journal) (work : List Sent) : Journal :=
  { j with
    archive := j.archive.settle work
    saved := j.saved ++ work.filterMap Sent.savedName?
    folded := j.folded ++ (work.filterMap Sent.savedName?).flatMap fun name =>
      j.fetched.map fun trace => (name, trace) }

/-- The journal of a connection after an event. -/
def note (c : ConnectionId) (j : Journal) (e : Event) : Journal :=
  let ledger := Ledger.note c j.ledger e
  let outcomes := ledger.closed.drop j.ledger.closed.length
  { j.commit (outcomes.filterMap id).flatten with ledger, fetched := e.fetched j.fetched }

/-- The journal of a connection after a transcript. -/
def after (c : ConnectionId) (j : Journal) (es : List Event) : Journal := es.foldl (note c) j

/-- Every reply says what is in the tables at its time. -/
def Truthful (c : ConnectionId) : Journal → List Event → Prop
  | _, [] => True
  | j, e :: es => j.archive.Answers e ∧ Truthful c (j.note c e) es

/-- The traces that were folded into a document. -/
def foldedInto (j : Journal) (name : String) : List Trace :=
  (j.folded.filter fun p => p.1 == name).map Prod.snd

@[simp] theorem after_nil : after c j [] = j := rfl

@[simp] theorem after_cons (e : Event) (es : List Event) :
    after c j (e :: es) = after c (note c j e) es := rfl

@[simp] theorem after_append (es₁ es₂ : List Event) :
    after c j (es₁ ++ es₂) = after c (after c j es₁) es₂ :=
  List.foldl_append

theorem truthful_append {es₁ es₂ : List Event} :
    Truthful c j (es₁ ++ es₂) ↔ Truthful c j es₁ ∧ Truthful c (after c j es₁) es₂ := by
  induction es₁ generalizing j with
  | nil => exact (true_and _).symm.to_iff
  | cons e es₁ ih => rw [List.cons_append, Truthful, Truthful, ih, after_cons, and_assoc]

@[simp] theorem commit_nil : j.commit [] = j := by
  simp [commit, Archive.settle]

theorem commit_append (work work' : List Sent) :
    j.commit (work ++ work') = (j.commit work).commit work' := by
  simp [commit, Archive.settle]

/-! ### What happens to the tables -/

theorem traces_note (e : Event) : (j.note c e).archive.traces = j.archive.traces :=
  Archive.traces_settle ..

theorem traces_after (es : List Event) : (j.after c es).archive.traces = j.archive.traces := by
  induction es generalizing j with
  | nil => rfl
  | cons e es ih => rw [after_cons, ih, traces_note]

theorem persists_note (e : Event) : j.archive.Persists (j.note c e).archive :=
  Archive.persists_settle ..

/-- Whatever is done to the tables, what was there persists. -/
theorem persists_after (es : List Event) : j.archive.Persists (j.after c es).archive := by
  induction es generalizing j with
  | nil => exact .refl _
  | cons e es ih => exact (persists_note e).trans ih

/-! ### Statements and transactions -/

@[simp] theorem note_giveBack : j.note c ⟨.giveBack c, ()⟩ = j := by
  rw [note, show Ledger.note c j.ledger ⟨.giveBack c, ()⟩ = j.ledger from rfl, List.drop_length]
  exact congrArg (fun j' : Journal => { j' with ledger := j.ledger, fetched := j.fetched })
    commit_nil

/-- Outside of all levels, a statement is only noted for what it fetches. -/
theorem note_command (hj : j.ledger.levels = []) {t : Tenant} {command : Command}
    (reply : Except DatabaseError command.Answer) :
    j.note c ⟨.command (.held c) t command, reply⟩ =
      { j with fetched := Event.fetched j.fetched ⟨.command (.held c) t command, reply⟩ } := by
  have hledger : Ledger.note c j.ledger ⟨.command (.held c) t command, reply⟩ = j.ledger := by
    rw [Ledger.note_command, record, hj]
  rw [note, hledger, List.drop_length]
  exact congrArg (fun j' : Journal => { j' with
    ledger := j.ledger
    fetched := Event.fetched j.fetched ⟨.command (.held c) t command, reply⟩ }) commit_nil

/-- What a silent transcript does is told by the transactions that it ends. -/
theorem after_of_silent {es : List Event} (h : ∀ e ∈ es, e.request.Silent)
    {outcomes : List (Option (List Sent))}
    (hclosed : (Ledger.after c j.ledger es).closed = j.ledger.closed ++ outcomes) :
    j.after c es =
      { j.commit (outcomes.filterMap id).flatten with ledger := Ledger.after c j.ledger es } := by
  induction es generalizing j outcomes with
  | nil =>
    obtain rfl : outcomes = [] := by simpa using hclosed
    exact congrArg (fun j' : Journal => { j' with ledger := j.ledger }) commit_nil.symm
  | cons e es ih =>
    obtain ⟨hsilent, hes⟩ := List.forall_mem_cons.1 h
    obtain ⟨first, hfirst⟩ := exists_closed_note c j.ledger e
    obtain ⟨rest, hrest⟩ := exists_closed_after c (Ledger.note c j.ledger e) es
    have houtcomes : outcomes = first ++ rest := by
      rw [Ledger.after_cons, hrest, hfirst, List.append_assoc] at hclosed
      exact (List.append_cancel_left hclosed).symm
    have hnote : j.note c e =
        { j.commit (first.filterMap id).flatten with ledger := Ledger.note c j.ledger e } := by
      rw [note, hfirst, List.drop_left, Event.fetched_of_silent hsilent]
      rfl
    rw [after_cons, ih (j := j.note c e) hes hrest, hnote, houtcomes, List.filterMap_append,
      List.flatten_append, commit_append]
    rfl

end Journal

/-! ## Somebody who knows the tables -/

/-- Somebody who replies to the requests on connection `0` by what is in the tables. -/
structure Archivist where
  now : Instant
  journal : Journal

namespace Archivist

/-- What is in the tables. Commands that are not about them get a plain answer. -/
def answer (a : Archive) : (command : Command) → command.Answer
  | .listUndocumented => a.undocumented
  | .loadDocument name => a.document? name
  | .fetchSince id since cutoff => a.window id since cutoff
  | command => command.plainAnswer

/-- What is said in reply to a request. -/
def say (k : Archivist) : (r : Request) → r.Reply
  | .now => k.now
  | .freshIds => Uuid.ofNat
  | .checkout => (.ok 0 : Except DatabaseError ConnectionId)
  | .wait _ | .giveBack _ | .discard _ | .abandonLevel _ => ()
  | .openLevel _ | .commitLevel _ | .rollbackLevel _ => (.ok () : Except DatabaseError Unit)
  | .command _ _ command => (.ok (answer k.journal.archive command) : Except DatabaseError _)
  | .shared command => (.ok command.plainAnswer : Except DatabaseError _)
  | .store call => (.ok (MemoryStore.perform [] call).1 : Except Failure _)
  | .pushItem _ => (.ok () : Except Failure Unit)
  | .popItem => (.ok none : Except Failure (Option QueuedTrace))
  | .countItems => (0 : Int)
  | .probe _ => ProbeAnswer.unanswered

/-- Reply to a request, and keep the journal. -/
def reply (r : Request) (k : Archivist) : r.Reply × Archivist :=
  (k.say r, { k with journal := k.journal.note 0 ⟨r, k.say r⟩ })

theorem answers_say (k : Archivist) (r : Request) : k.journal.archive.Answers ⟨r, k.say r⟩ := by
  cases r with
  | command route t command =>
    cases command with
    | listUndocumented => exact .refl _
    | loadDocument name => exact rfl
    | fetchSince id since cutoff => exact .refl _
    | _ => trivial
  | _ => trivial

/-- **What an archivist replies is truthful.** -/
theorem truthful_transcript {α : Type} (p : Program α) (k : Archivist) :
    k.journal.Truthful 0 (Program.transcript reply p k) := by
  induction p generalizing k with
  | done a => trivial
  | request r next ih => exact ⟨k.answers_say r, ih (k.say r) (reply r k).2⟩

end Archivist

end TrafficLens
