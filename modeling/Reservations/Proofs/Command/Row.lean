import Reservations.Command

namespace Reservations.Command

open Sql

/-! ## Rows of insertions

A row is a list of columns with their values. What each of them says is read on its
own, and the last one of a column counts. So the order of the others does not matter,
and none is lost as long as no column is named twice. -/

theorem bind_eq_ok_iff
    {α β : Type} {first : Except CommandFault α} {next : α → Except CommandFault β} {result : β} :
    first >>= next = .ok result ↔ ∃ value, first = .ok value ∧ next value = .ok result := by
  constructor
  · intro done
    cases first with
    | error fault => cases done
    | ok value => exact ⟨value, rfl, done⟩
  · rintro ⟨value, rfl, done⟩
    exact done

/-- What the value of one column says. -/
inductive Entry where
  | resource (id : Ulid)
  | name (text : String)
  | email (text : String)
  | start (instant? : Option Instant)
  | stop (instant? : Option Instant)

/-- The column that says it. -/
def Entry.column : Entry → String
  | resource _ => "resource_id"
  | name _ => "customer_name"
  | email _ => "customer_email"
  | start _ => "start"
  | stop _ => "end"

/-- What is taken to be said where a column is not named. -/
def Entry.defaults : List Entry :=
  [.name "", .email "", .start none, .stop none]

/-- Whether a value can be read as what an entry says. -/
def Entry.IsReadFrom (value : Expr) : Entry → Prop
  | resource id => idOf value = .ok id
  | name text | email text => textOf value = .ok text
  | start instant? | stop instant? => instantOf value = .ok instant?

/-- What a column says with its value. -/
structure Denotes (pair : String × Expr) (entry : Entry) : Prop where
  column : entry.column = pair.1
  read : entry.IsReadFrom pair.2

theorem Denotes.unique
    {pair : String × Expr} {first second : Entry}
    (one : Denotes pair first) (other : Denotes pair second) : first = second := by
  have sameColumn := one.column.trans other.column.symm
  have firstRead := one.read
  have secondRead := other.read
  cases first <;> cases second <;> simp_all [Entry.column, Entry.IsReadFrom]

/-! ### Drafts -/

/-- An entry of a draft. -/
def Draft.Has (draft : Draft) : Entry → Prop
  | .resource id => draft.resource = some id
  | .name text => draft.name = text
  | .email text => draft.email = text
  | .start instant? => draft.start = instant?
  | .stop instant? => draft.stop = instant?

/-- A draft with another entry. -/
def Draft.put (draft : Draft) : Entry → Draft
  | .resource id => { draft with resource := some id }
  | .name text => { draft with name := text }
  | .email text => { draft with email := text }
  | .start instant? => { draft with start := instant? }
  | .stop instant? => { draft with stop := instant? }

/-- An entry of a request. -/
def Entry.Holds (request : Request) : Entry → Prop
  | resource id => request.resource = id
  | name text => request.customer.name = text
  | email text => request.customer.email = text
  | start instant? => request.start = instant?
  | stop instant? => request.stop = instant?

namespace Draft

variable {draft last : Draft}

@[simp]
theorem has_put (entry : Entry) : (draft.put entry).Has entry := by
  cases entry <;> rfl

theorem has_put_of_ne {entry other : Entry} (apart : entry.column ≠ other.column) :
    (draft.put entry).Has other ↔ draft.Has other := by
  cases entry <;> cases other <;> simp_all [Entry.column, put, Has]

theorem Has.unique {first second : Entry} (one : draft.Has first) (other : draft.Has second)
    (sameColumn : first.column = second.column) : first = second := by
  cases first <;> cases second <;> simp_all [Has, Entry.column]

theorem ext_has (same : ∀ entry, last.Has entry ↔ draft.Has entry) : last = draft := by
  obtain ⟨resource, name, email, start, stop⟩ := draft
  have sameResource : last.resource = resource := by
    apply Option.ext
    intro id
    exact same (.resource id)
  have sameName : last.name = name := (same (.name name)).mpr rfl
  have sameEmail : last.email = email := (same (.email email)).mpr rfl
  have sameStart : last.start = start := (same (.start start)).mpr rfl
  have sameStop : last.stop = stop := (same (.stop stop)).mpr rfl
  subst sameResource sameName sameEmail sameStart sameStop
  rfl

theorem set_eq_ok_iff {column : String} {value : Expr} :
    draft.set column value = .ok last ↔
      ∃ entry, Denotes (column, value) entry ∧ last = draft.put entry := by
  constructor
  · intro done
    unfold set at done
    split at done
    · rename_i column
      obtain ⟨id, read, ⟨⟩⟩ := bind_eq_ok_iff.mp done
      exact ⟨.resource id, ⟨column.symm, read⟩, rfl⟩
    split at done
    · rename_i column
      obtain ⟨text, read, ⟨⟩⟩ := bind_eq_ok_iff.mp done
      exact ⟨.name text, ⟨column.symm, read⟩, rfl⟩
    split at done
    · rename_i column
      obtain ⟨text, read, ⟨⟩⟩ := bind_eq_ok_iff.mp done
      exact ⟨.email text, ⟨column.symm, read⟩, rfl⟩
    split at done
    · rename_i column
      obtain ⟨instant?, read, ⟨⟩⟩ := bind_eq_ok_iff.mp done
      exact ⟨.start instant?, ⟨column.symm, read⟩, rfl⟩
    split at done
    · rename_i column
      obtain ⟨instant?, read, ⟨⟩⟩ := bind_eq_ok_iff.mp done
      exact ⟨.stop instant?, ⟨column.symm, read⟩, rfl⟩
    · cases done
  · rintro ⟨entry, ⟨rfl, read⟩, rfl⟩
    cases entry with
    | resource id => exact bind_eq_ok_iff.mpr ⟨id, read, rfl⟩
    | name text => exact bind_eq_ok_iff.mpr ⟨text, read, rfl⟩
    | email text => exact bind_eq_ok_iff.mpr ⟨text, read, rfl⟩
    | start instant? => exact bind_eq_ok_iff.mpr ⟨instant?, read, rfl⟩
    | stop instant? => exact bind_eq_ok_iff.mpr ⟨instant?, read, rfl⟩

/-- A draft is a request as soon as it has a resource. -/
theorem request_eq_ok_iff {request : Request} :
    draft.request = .ok request ↔ ∀ entry, draft.Has entry ↔ entry.Holds request := by
  obtain ⟨resource, name, email, start, stop⟩ := draft
  obtain ⟨wanted, ⟨wantedName, wantedEmail⟩, wantedStart, wantedStop⟩ := request
  constructor
  · intro done
    cases resource with
    | none => cases done
    | some found =>
        cases done
        intro entry
        cases entry <;> simp [Has, Entry.Holds]
  · intro same
    obtain rfl : resource = some wanted := (same (.resource wanted)).mpr rfl
    obtain rfl : name = wantedName := (same (.name wantedName)).mpr rfl
    obtain rfl : email = wantedEmail := (same (.email wantedEmail)).mpr rfl
    obtain rfl : start = wantedStart := (same (.start wantedStart)).mpr rfl
    obtain rfl : stop = wantedStop := (same (.stop wantedStop)).mpr rfl
    rfl

end Draft

/-! ### What counts -/

/-- The last pair of each column. -/
def lastPairs : List (String × Expr) → List (String × Expr)
  | [] => []
  | pair :: pairs =>
      if pair.1 ∈ pairs.map Prod.fst then lastPairs pairs else pair :: lastPairs pairs

theorem mem_lastPairs_names {column : String} {pairs : List (String × Expr)} :
    column ∈ (lastPairs pairs).map Prod.fst ↔ column ∈ pairs.map Prod.fst := by
  induction pairs with
  | nil => rfl
  | cons pair pairs inductionHypothesis =>
      rw [lastPairs, List.map_cons, List.mem_cons]
      split
      · rename_i later
        rw [inductionHypothesis]
        constructor
        · exact Or.inr
        · rintro (rfl | named)
          · exact later
          · exact named
      · rw [List.map_cons, List.mem_cons, inductionHypothesis]

theorem lastPairs_eq_self
    {pairs : List (String × Expr)} (once : (pairs.map Prod.fst).Nodup) :
    lastPairs pairs = pairs := by
  induction pairs with
  | nil => rfl
  | cons pair pairs inductionHypothesis =>
      obtain ⟨fresh, rest⟩ := List.nodup_cons.mp once
      rw [lastPairs, if_neg fresh, inductionHypothesis rest]

namespace Draft

/-- A draft ends up with what some pairs say, and with what it has held before where they
say nothing. -/
structure Takes (draft : Draft) (pairs : List (String × Expr)) (last : Draft) : Prop where
  said : ∀ pair ∈ pairs, ∃ entry, Denotes pair entry ∧ last.Has entry
  unsaid : ∀ entry : Entry, entry.column ∉ pairs.map Prod.fst → (last.Has entry ↔ draft.Has entry)

variable {draft last : Draft} {pair : String × Expr} {pairs : List (String × Expr)} {entry : Entry}

theorem has_put_iff_of_ne
    (denotes : Denotes pair entry) {other : Entry} (apart : other.column ≠ pair.1) :
    (draft.put entry).Has other ↔ draft.Has other := by
  rw [← denotes.column] at apart
  exact has_put_of_ne apart.symm

/-- What is said again later makes no difference now. -/
theorem takes_put_iff_of_later
    (denotes : Denotes pair entry) (later : pair.1 ∈ pairs.map Prod.fst) :
    (draft.put entry).Takes (lastPairs pairs) last ↔ draft.Takes (lastPairs pairs) last := by
  -- What is not said behind the pair is not in its column either.
  have untouched : ∀ other : Entry, other.column ∉ (lastPairs pairs).map Prod.fst →
      ((draft.put entry).Has other ↔ draft.Has other) := by
    intro other silent
    apply has_put_iff_of_ne denotes
    intro same
    rw [same, mem_lastPairs_names] at silent
    exact silent later
  constructor
  · rintro ⟨said, unsaid⟩
    exact ⟨said, fun other silent => (unsaid other silent).trans (untouched other silent)⟩
  · rintro ⟨said, unsaid⟩
    exact ⟨said, fun other silent => (unsaid other silent).trans (untouched other silent).symm⟩

/-- What is said for the last time is held from now on. -/
theorem takes_put_iff_of_last
    (denotes : Denotes pair entry) (silent : pair.1 ∉ pairs.map Prod.fst) :
    (draft.put entry).Takes pairs last ↔ draft.Takes (pair :: pairs) last := by
  constructor
  · rintro ⟨said, unsaid⟩
    have kept : last.Has entry := by
      rw [← denotes.column] at silent
      exact (unsaid entry silent).mpr (has_put entry)
    refine ⟨List.forall_mem_cons.mpr ⟨⟨entry, denotes, kept⟩, said⟩, ?_⟩
    intro other unnamed
    rw [List.map_cons, List.mem_cons, not_or] at unnamed
    exact (unsaid other unnamed.2).trans (has_put_iff_of_ne denotes unnamed.1)
  · rintro ⟨said, unsaid⟩
    obtain ⟨⟨found, denotesFound, kept⟩, others⟩ := List.forall_mem_cons.mp said
    obtain rfl := denotes.unique denotesFound
    refine ⟨others, fun other unnamed => ?_⟩
    by_cases same : other.column = pair.1
    · rw [← denotes.column] at same
      constructor
      · intro held
        rw [held.unique kept same]
        exact has_put entry
      · intro held
        rwa [held.unique (has_put entry) same]
    · rw [has_put_iff_of_ne denotes same]
      refine unsaid other ?_
      rw [List.map_cons, List.mem_cons, not_or]
      exact ⟨same, unnamed⟩

/-- What is said now is what is held until the column is named again. -/
theorem takes_put_iff (denotes : Denotes pair entry) :
    (draft.put entry).Takes (lastPairs pairs) last ↔
      draft.Takes (lastPairs (pair :: pairs)) last := by
  rw [lastPairs]
  by_cases later : pair.1 ∈ pairs.map Prod.fst
  · rw [if_pos later]
    exact takes_put_iff_of_later denotes later
  · rw [if_neg later]
    rw [← mem_lastPairs_names] at later
    exact takes_put_iff_of_last denotes later

/-- By induction on the pairs: each of them says something, and the last one of a column
counts. -/
theorem foldlM_set_eq_ok_iff :
    pairs.foldlM (fun draft pair => draft.set pair.1 pair.2) draft = .ok last ↔
      (∀ pair ∈ pairs, ∃ entry, Denotes pair entry) ∧ draft.Takes (lastPairs pairs) last := by
  induction pairs generalizing draft with
  | nil =>
      constructor
      · intro done
        cases done
        exact ⟨by simp, by simp [lastPairs], fun _ _ => Iff.rfl⟩
      · rintro ⟨_, _, unsaid⟩
        rw [ext_has fun entry => unsaid entry List.not_mem_nil]
        rfl
  | cons pair pairs inductionHypothesis =>
      rw [List.foldlM_cons, bind_eq_ok_iff]
      simp only [set_eq_ok_iff, inductionHypothesis]
      constructor
      · rintro ⟨_, ⟨entry, denotes, rfl⟩, readable, takes⟩
        refine ⟨?_, (takes_put_iff denotes).mp takes⟩
        exact List.forall_mem_cons.mpr ⟨⟨entry, denotes⟩, readable⟩
      · rintro ⟨readable, takes⟩
        obtain ⟨⟨entry, denotes⟩, others⟩ := List.forall_mem_cons.mp readable
        exact ⟨_, ⟨entry, denotes, rfl⟩, others, (takes_put_iff denotes).mpr takes⟩

end Draft

/-! ### Requests -/

/-- A request holds what some pairs say, and what is taken to be said in other columns. -/
structure Fills (pairs : List (String × Expr)) (request : Request) : Prop where
  said : ∀ pair ∈ pairs, ∃ entry, Denotes pair entry ∧ Entry.Holds request entry
  unsaid : ∀ entry : Entry, entry.column ∉ pairs.map Prod.fst →
    (entry.Holds request ↔ entry ∈ Entry.defaults)

/-- A request holds every value of a row. -/
structure HoldsRow (columns : List String) (values : List Expr) (request : Request) : Prop where
  full : columns.length = values.length
  fills : Fills (columns.zip values) request

/-- A request is what a row says when the last value of each column counts. -/
structure YieldedBy (columns : List String) (values : List Expr) (request : Request) :
    Prop where
  full : columns.length = values.length
  readable : ∀ pair ∈ columns.zip values, ∃ entry, Denotes pair entry
  fills : Fills (lastPairs (columns.zip values)) request

theorem fills_iff_takes {pairs : List (String × Expr)} {request : Request} :
    Fills pairs request ↔
      ∃ draft, Draft.Takes {} pairs draft ∧ ∀ entry, draft.Has entry ↔ entry.Holds request := by
  have blank : ∀ entry : Entry, Draft.Has {} entry ↔ entry ∈ Entry.defaults := by
    intro entry
    cases entry <;> simp [Draft.Has, Entry.defaults, eq_comm]
  constructor
  · rintro ⟨said, unsaid⟩
    let draft : Draft :=
      ⟨some request.resource, request.customer.name, request.customer.email, request.start,
        request.stop⟩
    have same : ∀ entry, draft.Has entry ↔ entry.Holds request := by
      intro entry
      cases entry <;> simp [draft, Draft.Has, Entry.Holds]
    refine ⟨draft, ⟨?_, ?_⟩, same⟩
    · simpa only [same] using said
    · simpa only [same, blank] using unsaid
  · rintro ⟨draft, ⟨said, unsaid⟩, same⟩
    simp only [same, blank] at said unsaid
    exact ⟨said, unsaid⟩

/-- What is booked is what the row says, column by column. -/
theorem requestOf_eq_ok_iff {columns : List String} {values : List Expr} {request : Request} :
    requestOf columns values = .ok request ↔ YieldedBy columns values request := by
  by_cases full : columns.length = values.length
  · have steps : requestOf columns values =
        (columns.zip values).foldlM (fun draft pair => draft.set pair.1 pair.2) ({} : Draft)
          >>= Draft.request := by
      simp [requestOf, full]
    rw [steps, bind_eq_ok_iff]
    simp only [Draft.foldlM_set_eq_ok_iff, Draft.request_eq_ok_iff]
    constructor
    · rintro ⟨draft, ⟨readable, takes⟩, same⟩
      exact ⟨full, readable, fills_iff_takes.mpr ⟨draft, takes, same⟩⟩
    · rintro ⟨_, readable, fills⟩
      obtain ⟨draft, takes, same⟩ := fills_iff_takes.mp fills
      exact ⟨draft, ⟨readable, takes⟩, same⟩
  · have refused : requestOf columns values =
        .error (.wrongCount columns.length values.length) := by
      simp [requestOf, full]
      rfl
    rw [refused]
    constructor
    · intro done
      cases done
    · intro yielded
      exact absurd yielded.full full

example :
    (requestOf ["resource_id", "start", "start"]
        [.literal (.text "00000000000000000000000001"), .literal (.number "1" false),
          .literal (.number "2" false)]).toOption.map Request.start =
      some (some 2) := by
  decide +kernel

section Once

variable {columns : List String} {values : List Expr} {request : Request}

theorem yieldedBy_iff_of_once (once : columns.Nodup) :
    YieldedBy columns values request ↔ HoldsRow columns values request := by
  have last : columns.length = values.length →
      lastPairs (columns.zip values) = columns.zip values := by
    intro full
    apply lastPairs_eq_self
    rwa [List.map_fst_zip (Nat.le_of_eq full)]
  constructor
  · rintro ⟨full, _, fills⟩
    rw [last full] at fills
    exact ⟨full, fills⟩
  · rintro ⟨full, fills⟩
    refine ⟨full, fun pair member => ?_, ?_⟩
    · obtain ⟨entry, denotes, _⟩ := fills.said pair member
      exact ⟨entry, denotes⟩
    · rwa [last full]

theorem HoldsRow.of_perm
    {others : List String} {otherValues : List Expr} (holds : HoldsRow columns values request)
    (full : others.length = otherValues.length)
    (reordered : (columns.zip values).Perm (others.zip otherValues)) :
    HoldsRow others otherValues request := by
  obtain ⟨_, said, unsaid⟩ := holds
  refine ⟨full, fun pair member => said pair (reordered.mem_iff.mpr member), ?_⟩
  intro entry silent
  refine unsaid entry fun named => silent ?_
  exact (reordered.map Prod.fst).mem_iff.mp named

end Once

end Reservations.Command
