import TrafficLens.Proofs.Instant.Text
import TrafficLens.Proofs.Program.Transcript
import TrafficLens.Proofs.Uuid

/-!
# Items of the queue

An item waits on the queue as JSON. Absent fields are left out in some of its records and are `null`
in others, and what is missing is replaced when the item is read; still it is read back as it was,
for any identifier and any time that might have been put in (`QueuedTrace.ofJson?_toJson`). One
lemma about each kind of record says that it is read back, and `Trace.ofJson?_toJson` goes through
the fields of a trace. What is popped is what is read (`TraceQueue.eq_of_yields_pop`), so items
survive the queue.
-/

namespace TrafficLens

/-- Reading goes on with what was read. -/
theorem read_bind {α β : Type} {x : Option α} {a : α} {f : α → Option β} {b : β}
    (hx : x = some a) (hf : f a = some b) : x >>= f = some b :=
  Option.bind_eq_some_iff.2 ⟨a, hx, hf⟩

/-! ## Values -/

namespace Json

theorem asString?_string (s : String) : asString? (.string s) = some s := rfl

theorem asBool?_bool (b : Bool) : asBool? (.bool b) = some b := rfl

theorem asSigned?_int {bits : Nat} {n : Int} (hleast : -(Nat.pow 2 (bits - 1) : Int) ≤ n)
    (hgreatest : n < Nat.pow 2 (bits - 1)) : asSigned? bits (.int n) = some n :=
  if_pos ⟨hleast, Int.le_sub_one_of_lt hgreatest⟩

/-- A list is read back if its members are. -/
theorem asList?_map {α : Type} {read : Json → Option α} {write : α → Json}
    (h : ∀ a, read (write a) = some a) (xs : List α) :
    asList? read (.array (xs.map write)) = some xs := by
  rw [asList?, List.mapM_map]
  induction xs with
  | nil => rfl
  | cons x xs ih => simp [List.mapM_cons, h, ih]

/-- What is written as `null` is absent, if nothing else is written so. -/
theorem orAbsent_orNull {α : Type} {read : Json → Option α} {write : α → Json}
    (h : ∀ a, read (write a) = some a) (hnull : ∀ a, write a ≠ .null) (o : Option α) :
    Record.orAbsent read (orNull write o) = some o := by
  cases o with
  | none => rfl
  | some a => simp [orNull, Record.orAbsent, h, hnull]

namespace Record

variable {α : Type} {r : Record} {name : String} {v : Json} {read : Json → Option α} {a : α}

theorem required_of_get? (hget : r.get? name = some v) (hread : read v = some a) :
    r.required name read = some a := by
  rw [required, hget, Option.bind_some, hread]

theorem withDefault_of_get? (hget : r.get? name = some v) (hread : read v = some a) (default : α) :
    r.withDefault name read default = some a := by
  simp only [withDefault, hget, hread]

end Record

end Json

namespace Uuid

theorem ofJson?_toJson (u : Uuid) : ofJson? u.toJson = some u := by
  rw [toJson, ofJson?, Json.string?, Option.bind_some, parse?_toText]

end Uuid

namespace Instant

theorem ofJson?_toJson {t : Instant} (h : t.IsProper) : ofJson? t.toJson = some t := by
  rw [toJson, ofJson?, Json.string?, Option.bind_some, parse?_toText h]

end Instant

namespace Pair

theorem ofJson?_toJson (p : Pair) : ofJson? p.toJson = some p := rfl

theorem listOfJson?_listToJson (ps : List Pair) : listOfJson? (listToJson ps) = some ps :=
  Json.asList?_map ofJson?_toJson ps

end Pair

namespace Session

theorem ofJson?_toJson (s : Session) : ofJson? s.toJson = some s := by
  obtain ⟨_ | _, _ | _⟩ := s <;> rfl

end Session

namespace Routing

theorem ofJson?_toJson (r : Routing) : ofJson? r.toJson = some r := by
  obtain ⟨_ | _⟩ := r <;> rfl

end Routing

namespace Trace

/-- There is such a trace: its status has 32 bits, and it was captured at an instant there is. -/
structure IsProper (t : Trace) : Prop where
  status_ge : -(Nat.pow 2 31 : Int) ≤ t.responseStatus
  status_lt : t.responseStatus < Nat.pow 2 31
  createdAt : t.createdAt.IsProper

/-- **A trace is read back**, with nothing put in. -/
theorem ofJson?_toJson {t : Trace} (h : t.IsProper) (fresh : Uuid) (now : Instant) :
    ofJson? fresh now t.toJson = some t := by
  obtain ⟨r, hr⟩ : ∃ r, Json.Record.ofJson? fieldNames t.toJson = some r := ⟨_, rfl⟩
  have hget : ∀ {name v}, t.toJson.member? name = some v → r.get? name = some v := by
    cases hr
    exact fun hname => hname
  have htext : ∀ name {s}, t.toJson.member? name = some (.string s) →
      r.required name Json.asString? = some s := fun _ _ hname =>
    Json.Record.required_of_get? (hget hname) (Json.asString?_string _)
  have hbody : ∀ name {s}, t.toJson.member? name = some (.string s) →
      r.withDefault name Json.asString? "" = some s := fun _ _ hname =>
    Json.Record.withDefault_of_get? (hget hname) (Json.asString?_string _) _
  have hpairs : ∀ name {ps}, t.toJson.member? name = some (Pair.listToJson ps) →
      r.withDefault name Pair.listOfJson? [] = some ps := fun _ _ hname =>
    Json.Record.withDefault_of_get? (hget hname) (Pair.listOfJson?_listToJson _) _
  have hid : r.withDefault "id" Uuid.ofJson? fresh = some t.id :=
    Json.Record.withDefault_of_get? (hget rfl) t.id.ofJson?_toJson _
  have hstatus : r.required "responseStatus" (Json.asSigned? 32) = some t.responseStatus :=
    Json.Record.required_of_get? (hget rfl) (Json.asSigned?_int h.status_ge h.status_lt)
  have hextra : r.withDefault "meta" some .null = some t.extra :=
    Json.Record.withDefault_of_get? (hget rfl) rfl _
  have hsession : r.withDefault "sessionMeta" Session.ofJson? {} = some t.session :=
    Json.Record.withDefault_of_get? (hget rfl) t.session.ofJson?_toJson _
  have hcreated : r.withDefault "createdAt" Instant.ofJson? now = some t.createdAt :=
    Json.Record.withDefault_of_get? (hget rfl) (Instant.ofJson?_toJson h.createdAt) _
  have hendpoint : r.optionalDefault "endpointId" Uuid.ofJson? = some t.endpointId :=
    Json.Record.withDefault_of_get? (hget rfl)
      (Json.orAbsent_orNull Uuid.ofJson?_toJson (fun _ => nofun) t.endpointId) _
  have hanalyzed : r.withDefault "analyzed" Json.asBool? false = some t.analyzed :=
    Json.Record.withDefault_of_get? (hget rfl) (Json.asBool?_bool _) _
  rw [ofJson?, hr]
  exact read_bind rfl <| read_bind hid <| read_bind (htext "host" rfl) <|
    read_bind (htext "path" rfl) <| read_bind (htext "method" rfl) <|
    read_bind (hpairs "requestParameters" rfl) <| read_bind (hpairs "requestHeaders" rfl) <|
    read_bind (hbody "requestBody" rfl) <| read_bind hstatus <|
    read_bind (hpairs "responseHeaders" rfl) <| read_bind (hbody "responseBody" rfl) <|
    read_bind hextra <| read_bind hsession <| read_bind hcreated <| read_bind hendpoint <|
    read_bind hanalyzed rfl

end Trace

namespace QueuedTrace

/-- **A queued trace is read back.** -/
theorem ofJson?_toJson {q : QueuedTrace} (h : q.trace.IsProper) (fresh : Uuid) (now : Instant) :
    ofJson? fresh now q.toJson = some q :=
  read_bind rfl <|
    read_bind (Json.Record.required_of_get? rfl (Trace.ofJson?_toJson h fresh now)) <|
    read_bind (Json.Record.withDefault_of_get? rfl (Routing.ofJson?_toJson q.routing) _) rfl

end QueuedTrace

/-! ## The queue -/

/-- What is popped is what is read out of the payload that the database returns. -/
theorem TraceQueue.eq_of_yields_pop {q : QueuedTrace} {payload : Json}
    (hread : ∀ fresh now, QueuedTrace.ofJson? fresh now payload = some q) {es : List Event}
    {x : Except Failure (Option QueuedTrace)} (hy : (pop .database).Yields
      (⟨.shared .popTrace, Except.ok (some payload)⟩ :: es) x) : x = .ok (some q) := by
  rw [pop] at hy
  obtain ⟨_, e, rfl, hes, rfl⟩ | ⟨_, _, _, rfl, hes, hrest⟩ :=
    (yields_ask_ofReply_bind (r := .shared .popTrace) id).1 hy
  · cases hes
  · cases hes
    obtain ⟨_, -, hfail⟩ | ⟨_, _, ids, rfl, -, hnow⟩ := Attempt.yields_bind.1 hrest
    · obtain ⟨_, -, hids⟩ := yields_freshIds.1 hfail
      cases hids
    · obtain ⟨now, _, rfl, hitem⟩ := yields_currentTime_bind hnow
      rw [hread] at hitem
      exact (Attempt.yields_pure.1 hitem).2

/-- **Items survive the queue.** What is pushed is the JSON form of an item; it is read back as the
item, whatever a missing identifier or time would be replaced by, and so this is what is popped. -/
theorem TraceQueue.returns_item {q : QueuedTrace} (h : q.trace.IsProper) :
    (SharedCommand.pushTrace q).statement.values = [q.toJson] ∧
    (∀ fresh now, QueuedTrace.ofJson? fresh now q.toJson = some q) ∧
    ∀ es x, (TraceQueue.pop .database).Yields
      (⟨.shared .popTrace, Except.ok (some q.toJson)⟩ :: es) x → x = .ok (some q) :=
  ⟨rfl, QueuedTrace.ofJson?_toJson h, fun _ _ =>
    TraceQueue.eq_of_yields_pop (QueuedTrace.ofJson?_toJson h)⟩

/-- An item with fields that are absent at each level, captured inside a leap second. -/
def leapItem : QueuedTrace where
  trace :=
    { id := .ofNat 0x5f0e, host := "shop.example.com", path := "/product/42", method := "GET"
      requestParameters := [⟨"q", "sh\u0000oes"⟩, ⟨"q", ""⟩]
      responseStatus := -1
      responseHeaders := [⟨"Content-Type", "application/json"⟩]
      responseBody := "\x7b\"ok\":true\x7d"
      extra := .object [("trace", .array [.null, .object [("id", .string "")]])]
      session := { provided := some false }
      createdAt := ⟨1483228799, 1500000000⟩
      analyzed := true }
  routing := { schema := some "acme" }

/-- The item is not changed by the queue. -/
theorem TraceQueue.returns_leapItem :
    leapItem.trace.IsProper ∧
    (SharedCommand.pushTrace leapItem).statement.values = [leapItem.toJson] ∧
    (∀ fresh now, QueuedTrace.ofJson? fresh now leapItem.toJson = some leapItem) ∧
    ∀ es x, (TraceQueue.pop .database).Yields
      (⟨.shared .popTrace, Except.ok (some leapItem.toJson)⟩ :: es) x → x = .ok (some leapItem) := by
  have hproper : leapItem.trace.IsProper :=
    ⟨by decide, by decide, ⟨by decide, by decide, by decide, by decide⟩⟩
  exact ⟨hproper, TraceQueue.returns_item hproper⟩

end TrafficLens
