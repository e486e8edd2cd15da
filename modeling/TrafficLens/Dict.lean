/-!
# Finite maps in key order

A `Dict κ α` is a finite map written as the list of its entries in strictly increasing order of
keys. Everything that is shown to a reader in key order (the members of an object, the tracked
fields of an endpoint, the groups of a batch) is kept in this form, so that the order of a listing
is a property of the value and not of the printer.

The operations below keep the order: `insert` puts an entry where its key belongs and replaces an
entry that is already there, and `ofList` folds `insert`, so of two entries with one key the later
wins. The definitions are plain recursions on lists. They are stated for lists of pairs, since the
types of the library that nest maps inside themselves (`Json`, `Schema`) store them so.
-/

namespace TrafficLens

/-- A finite map as its entries in increasing order of keys. -/
abbrev Dict (κ α : Type) : Type := List (κ × α)

namespace Dict

variable {κ α : Type}

/-- The value stored under a key. -/
def find? [DecidableEq κ] (key : κ) : List (κ × α) → Option α
  | [] => none
  | (k, v) :: rest => if k = key then some v else find? key rest

/-- Is there an entry under this key? -/
def contains [DecidableEq κ] (key : κ) (entries : List (κ × α)) : Bool :=
  (find? key entries).isSome

/-- Store what `f` makes of the value under `key` (`none` when there is none yet). -/
def alter [Ord κ] (key : κ) (f : Option α → α) : List (κ × α) → List (κ × α)
  | [] => [(key, f none)]
  | (k, v) :: rest =>
    match compare key k with
    | .lt => (key, f none) :: (k, v) :: rest
    | .eq => (key, f (some v)) :: rest
    | .gt => (k, v) :: alter key f rest

/-- Store a value under a key, in place of any value that is already there. -/
def insert [Ord κ] (key : κ) (value : α) (entries : List (κ × α)) : List (κ × α) :=
  alter key (fun _ => value) entries

/-- The map of a list of entries; of entries with one key the last wins. -/
def ofList [Ord κ] (entries : List (κ × α)) : List (κ × α) :=
  entries.foldl (fun acc e => insert e.1 e.2 acc) []

/-- The keys, in increasing order. -/
def keys (entries : List (κ × α)) : List κ := entries.map Prod.fst

/-- The values, in order of their keys. -/
def values (entries : List (κ × α)) : List α := entries.map Prod.snd

@[simp] theorem find?_nil [DecidableEq κ] (key : κ) : find? key ([] : List (κ × α)) = none := rfl

theorem find?_cons [DecidableEq κ] (key k : κ) (v : α) (rest : List (κ × α)) :
    find? key ((k, v) :: rest) = if k = key then some v else find? key rest := rfl

/-- An entry that is found is an entry of the list. -/
theorem mem_of_find? [DecidableEq κ] {key : κ} {v : α} {entries : List (κ × α)}
    (h : find? key entries = some v) : (key, v) ∈ entries := by
  induction entries with
  | nil => simp at h
  | cons e rest ih =>
    obtain ⟨k, w⟩ := e
    rw [find?_cons] at h
    split at h
    · next hk => simp_all
    · exact List.mem_cons_of_mem _ (ih h)

end Dict

/-- Insert into a list that is kept sorted and free of repetitions. -/
def insertSorted {κ : Type} [Ord κ] (key : κ) : List κ → List κ
  | [] => [key]
  | k :: rest =>
    match compare key k with
    | .lt => key :: k :: rest
    | .eq => k :: rest
    | .gt => k :: insertSorted key rest

/-- The sorted list of the different members of a list. -/
def sortDistinct {κ : Type} [Ord κ] (keys : List κ) : List κ :=
  keys.foldl (fun acc k => insertSorted k acc) []

end TrafficLens
