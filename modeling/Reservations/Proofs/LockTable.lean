import Mathlib.Data.List.Basic
import Reservations.LockTable

namespace Reservations.LockTable

/-! ## Interleavings

Callers take their steps in any order, each of them as often as it likes. Of a mutex
nothing is assumed but that it goes to nobody while somebody holds it: who of those in
line gets it is left open. -/

/-- An atomic step of some caller. -/
inductive Step : LockTable → LockTable → Prop
  | lease (table : LockTable) (holder : String) (resource : Ulid) :
      Step table (table.lease holder resource)
  /-- Some caller in line gets the mutex, which nobody holds. -/
  | grant (table : LockTable) {front back : List Lease} {lease : Lease} :
      table.leases = front ++ lease :: back → lease.stage = .waiting →
      (∀ other ∈ table.leases, other.mutex = lease.mutex → other.stage ≠ .holding) →
      Step table { table with leases := front ++ { lease with stage := .holding } :: back }
  /-- A caller no longer waits. -/
  | abandon (table : LockTable) {front back : List Lease} {lease : Lease} :
      table.leases = front ++ lease :: back → lease.stage = .waiting →
      Step table { table with leases := front ++ { lease with stage := .leaving } :: back }
  /-- A caller gives the mutex back, and still has its lease. -/
  | unlock (table : LockTable) {front back : List Lease} {lease : Lease} :
      table.leases = front ++ lease :: back → lease.stage = .holding →
      Step table { table with leases := front ++ { lease with stage := .leaving } :: back }
  /-- A caller that has left gives its lease back. -/
  | giveBack (table : LockTable) {front back : List Lease} {lease : Lease} :
      table.leases = front ++ lease :: back → lease.stage = .leaving →
      Step table
        { table with entries := release table.entries lease.resource, leases := front ++ back }

/-- What steps lead to where nobody had a lease at first. -/
inductive Reachable : LockTable → Prop
  | start : Reachable {}
  | step {table next : LockTable} : Reachable table → Step table next → Reachable next

/-- The entries say what the leases say, and nobody is in anybody's way. -/
structure Orderly (table : LockTable) : Prop where
  /-- There is an entry just where a lease is out. -/
  entered : ∀ resource, resource ∈ table.entries ↔
    ∃ lease ∈ table.leases, lease.resource = resource
  counted : ∀ (resource : Ulid) (entry : LockEntry), table.entries[resource]? = some entry →
    entry.users = table.leases.countP (·.resource = resource)
  /-- Whoever gives a lease back finds itself counted. -/
  leased : ∀ lease ∈ table.leases, ∃ entry : LockEntry, table.entries[lease.resource]? = some entry ∧
    0 < entry.users ∧ lease.mutex = entry.mutex
  /-- One mutex for each resource, and one resource for each mutex. -/
  shared : ∀ left ∈ table.leases, ∀ right ∈ table.leases,
    left.mutex = right.mutex ↔ left.resource = right.resource
  /-- At most one caller holds the lock of a resource. -/
  alone : table.leases.Pairwise fun left right => left.resource = right.resource →
    left.stage = .holding → right.stage ≠ .holding
  emptied : table.leases = [] → table.entries.isEmpty = true ∧ table.size = 0

/-! ### What every step keeps -/

/-- The mutexes of the leases on a resource. -/
def shares (leases : List Lease) (resource : Ulid) : List Nat :=
  (leases.filter (·.resource = resource)).map Lease.mutex

/-- Each entry has one mutex for all leases on its resource, and no other entry has it.
A mutex that is made next is none of these. -/
structure Accounted (table : LockTable) : Prop where
  vacant : ∀ resource : Ulid, table.entries[resource]? = none → shares table.leases resource = []
  occupied : ∀ (resource : Ulid) (entry : LockEntry), table.entries[resource]? = some entry → 0 < entry.users ∧
    shares table.leases resource = List.replicate entry.users entry.mutex
  made : ∀ (resource : Ulid) (entry : LockEntry), table.entries[resource]? = some entry →
    entry.mutex < table.fresh
  apart : ∀ (left right : Ulid) (leftEntry rightEntry : LockEntry),
    table.entries[left]? = some leftEntry → table.entries[right]? = some rightEntry →
      leftEntry.mutex = rightEntry.mutex → left = right

/-- No mutex is held twice. -/
def Exclusive (leases : List Lease) : Prop :=
  leases.Pairwise fun left right => left.mutex = right.mutex →
    left.stage = .holding → right.stage ≠ .holding

section Shares

variable {front back : List Lease} {lease : Lease}

theorem shares_append (front back : List Lease) (resource : Ulid) :
    shares (front ++ back) resource = shares front resource ++ shares back resource := by
  simp [shares]

theorem shares_cons (lease : Lease) (leases : List Lease) (resource : Ulid) :
    shares (lease :: leases) resource =
      if lease.resource = resource then lease.mutex :: shares leases resource
      else shares leases resource := by
  by_cases same : lease.resource = resource
  · simp [shares, same]
  · simp [shares, same]

/-- How far a caller has come is no matter of its claim. -/
theorem shares_restage (stage : Stage) (resource : Ulid) :
    shares (front ++ { lease with stage } :: back) resource =
      shares (front ++ lease :: back) resource := by
  rw [shares_append, shares_append, shares_cons, shares_cons]

theorem mem_shares {leases : List Lease} (member : lease ∈ leases) :
    lease.mutex ∈ shares leases lease.resource :=
  List.mem_map_of_mem (List.mem_filter.mpr ⟨member, by simp⟩)

end Shares

namespace Accounted

variable {table : LockTable}

theorem restage
    (accounted : table.Accounted) {front back : List Lease} {lease : Lease}
    (split : table.leases = front ++ lease :: back) (stage : Stage) :
    Accounted { table with leases := front ++ { lease with stage } :: back } := by
  have same : ∀ resource, shares (front ++ { lease with stage } :: back) resource =
      shares table.leases resource := by
    intro resource
    rw [shares_restage, split]
  constructor
  case vacant =>
    intro resource nothing
    exact (same resource).trans (accounted.vacant resource nothing)
  case occupied =>
    intro resource entry found
    rw [same]
    exact accounted.occupied resource entry found
  case made => exact accounted.made
  case apart => exact accounted.apart

/-- A first lease makes the entry, and a mutex that no entry has. -/
theorem lease_of_vacant
    (accounted : table.Accounted) (holder : String) {resource : Ulid}
    (vacant : table.entries[resource]? = none) :
    (table.lease holder resource).Accounted := by
  have entries : ∀ other : Ulid, (table.entries.insert resource ⟨table.fresh, 1⟩)[other]? =
      if resource = other then some ⟨table.fresh, 1⟩ else table.entries[other]? := by
    intro other
    simp only [Std.TreeMap.getElem?_insert, Std.LawfulEqOrd.compare_eq_iff_eq]
  have old : ∀ (other : Ulid) (entry : LockEntry), table.entries[other]? = some entry →
        entry.mutex ≠ table.fresh :=
    fun other entry found => Nat.ne_of_lt (accounted.made other entry found)
  rw [lease, vacant]
  constructor
  case vacant =>
    intro other nothing
    rw [entries] at nothing
    split at nothing
    · cases nothing
    · rename_i different
      rw [shares_append, accounted.vacant other nothing, shares_cons, if_neg different]
      rfl
  case occupied =>
    intro other entry found
    rw [entries] at found
    rw [shares_append, shares_cons]
    split at found
    · rename_i same
      subst same
      obtain rfl := Option.some.inj found
      rw [accounted.vacant resource vacant, if_pos rfl]
      exact ⟨Nat.one_pos, rfl⟩
    · rename_i different
      rw [if_neg different]
      simpa [shares] using accounted.occupied other entry found
  case made =>
    intro other entry found
    rw [entries] at found
    split at found
    · obtain rfl := Option.some.inj found
      exact Nat.lt_succ_self table.fresh
    · exact Nat.lt_succ_of_lt (accounted.made other entry found)
  case apart =>
    intro left right leftEntry rightEntry leftFound rightFound equal
    rw [entries] at leftFound rightFound
    split at leftFound <;> split at rightFound
    · rename_i leftSame rightSame
      exact leftSame.symm.trans rightSame
    · obtain rfl := Option.some.inj leftFound
      exact absurd equal.symm (old right rightEntry rightFound)
    · obtain rfl := Option.some.inj rightFound
      exact absurd equal (old left leftEntry leftFound)
    · exact accounted.apart left right leftEntry rightEntry leftFound rightFound equal

/-- A further lease shares the mutex that is there. -/
theorem lease_of_occupied
    (accounted : table.Accounted) (holder : String) {resource : Ulid} {entry : LockEntry}
    (occupied : table.entries[resource]? = some entry) :
    (table.lease holder resource).Accounted := by
  have entries : ∀ other : Ulid,
      (table.entries.insert resource { entry with users := entry.users + 1 })[other]? =
        if resource = other then some { entry with users := entry.users + 1 }
        else table.entries[other]? := by
    intro other
    simp only [Std.TreeMap.getElem?_insert, Std.LawfulEqOrd.compare_eq_iff_eq]
  -- Seen from its mutex alone, no entry has changed.
  have mutexes : ∀ (other : Ulid) (found : LockEntry),
      (table.entries.insert resource { entry with users := entry.users + 1 })[other]? =
          some found →
        ∃ before : LockEntry, table.entries[other]? = some before ∧ before.mutex = found.mutex := by
    intro other found inserted
    rw [entries] at inserted
    split at inserted
    · rename_i same
      subst same
      obtain rfl := Option.some.inj inserted
      exact ⟨entry, occupied, rfl⟩
    · exact ⟨found, inserted, rfl⟩
  rw [lease, occupied]
  constructor
  case vacant =>
    intro other nothing
    rw [entries] at nothing
    split at nothing
    · cases nothing
    · rename_i different
      rw [shares_append, accounted.vacant other nothing, shares_cons, if_neg different]
      rfl
  case occupied =>
    intro other found inserted
    rw [entries] at inserted
    rw [shares_append, shares_cons]
    split at inserted
    · rename_i same
      subst same
      obtain rfl := Option.some.inj inserted
      rw [(accounted.occupied resource entry occupied).2, if_pos rfl, List.replicate_succ']
      exact ⟨Nat.succ_pos _, rfl⟩
    · rename_i different
      rw [if_neg different]
      simpa [shares] using accounted.occupied other found inserted
  case made =>
    intro other found inserted
    obtain ⟨before, there, equal⟩ := mutexes other found inserted
    rw [← equal]
    exact accounted.made other before there
  case apart =>
    intro left right leftFound rightFound leftInserted rightInserted equal
    obtain ⟨leftBefore, leftThere, leftEqual⟩ := mutexes left leftFound leftInserted
    obtain ⟨rightBefore, rightThere, rightEqual⟩ := mutexes right rightFound rightInserted
    exact accounted.apart left right leftBefore rightBefore leftThere rightThere
      (leftEqual.trans (equal.trans rightEqual.symm))

theorem lease (accounted : table.Accounted) (holder : String) (resource : Ulid) :
    (table.lease holder resource).Accounted := by
  cases found : table.entries[resource]? with
  | none => exact accounted.lease_of_vacant holder found
  | some entry => exact accounted.lease_of_occupied holder found

/-- The entry goes with its last lease. -/
theorem giveBack
    (accounted : table.Accounted) {front back : List Lease} {lease : Lease}
    (split : table.leases = front ++ lease :: back) :
    Accounted
      { table with entries := release table.entries lease.resource, leases := front ++ back } := by
  have elsewhere : ∀ resource : Ulid, lease.resource ≠ resource →
      (release table.entries lease.resource)[resource]? = table.entries[resource]? ∧
        shares (front ++ back) resource = shares table.leases resource := by
    intro resource different
    constructor
    · simp only [release, Std.TreeMap.getElem?_alter, Std.LawfulEqOrd.compare_eq_iff_eq,
        if_neg different]
    · rw [split, shares_append, shares_append, shares_cons, if_neg different]
  -- The lease is counted, so that there is an entry with at least one user.
  have claimed : shares table.leases lease.resource =
      shares front lease.resource ++ lease.mutex :: shares back lease.resource := by
    rw [split, shares_append, shares_cons, if_pos rfl]
  obtain ⟨entry, found⟩ : ∃ entry, table.entries[lease.resource]? = some entry := by
    cases found : table.entries[lease.resource]? with
    | some entry => exact ⟨entry, rfl⟩
    | none =>
        rw [accounted.vacant _ found] at claimed
        simp at claimed
  obtain ⟨users, replicated⟩ := accounted.occupied _ entry found
  have rest : shares (front ++ back) lease.resource =
      List.replicate (entry.users - 1) entry.mutex := by
    rw [replicated, eq_comm, List.append_eq_replicate_iff] at claimed
    obtain ⟨long, early, late⟩ := claimed
    rw [List.length_cons] at long late
    rw [List.replicate_succ, List.cons.injEq] at late
    rw [shares_append, List.append_eq_replicate_iff]
    exact ⟨by omega, early, late.2⟩
  have here : (release table.entries lease.resource)[lease.resource]? =
      if entry.users ≤ 1 then none else some { entry with users := entry.users - 1 } := by
    simp only [release, Std.TreeMap.getElem?_alter, Std.LawfulEqOrd.compare_eq_iff_eq, if_true,
      found]
  have kept : ∀ (resource : Ulid) (other : LockEntry),
      (release table.entries lease.resource)[resource]? = some other →
      ∃ before : LockEntry, table.entries[resource]? = some before ∧ before.mutex = other.mutex := by
    intro resource other there
    by_cases same : lease.resource = resource
    · subst same
      rw [here] at there
      split at there
      · cases there
      · obtain rfl := Option.some.inj there
        exact ⟨entry, found, rfl⟩
    · rw [(elsewhere resource same).1] at there
      exact ⟨other, there, rfl⟩
  constructor
  case vacant =>
    intro resource nothing
    by_cases same : lease.resource = resource
    · subst same
      rw [here] at nothing
      split at nothing
      · rename_i last
        rw [rest, Nat.sub_eq_zero_of_le last]
        rfl
      · cases nothing
    · rw [(elsewhere resource same).1] at nothing
      exact (elsewhere resource same).2.trans (accounted.vacant resource nothing)
  case occupied =>
    intro resource other there
    by_cases same : lease.resource = resource
    · subst same
      rw [here] at there
      split at there
      · cases there
      · obtain rfl := Option.some.inj there
        exact ⟨by dsimp only; omega, rest⟩
    · rw [(elsewhere resource same).1] at there
      rw [(elsewhere resource same).2]
      exact accounted.occupied resource other there
  case made =>
    intro resource other there
    obtain ⟨before, found, equal⟩ := kept resource other there
    rw [← equal]
    exact accounted.made resource before found
  case apart =>
    intro left right leftEntry rightEntry leftThere rightThere equal
    obtain ⟨leftBefore, leftFound, leftEqual⟩ := kept left leftEntry leftThere
    obtain ⟨rightBefore, rightFound, rightEqual⟩ := kept right rightEntry rightThere
    exact accounted.apart left right leftBefore rightBefore leftFound rightFound
      (leftEqual.trans (equal.trans rightEqual.symm))

theorem start : Accounted {} where
  vacant _ _ := rfl
  occupied resource entry found := by simp at found
  made resource entry found := by simp at found
  apart left right leftEntry rightEntry leftFound := by simp at leftFound

theorem step {next : LockTable} (accounted : table.Accounted) (step : Step table next) :
    next.Accounted := by
  cases step with
  | lease holder resource => exact accounted.lease holder resource
  | grant split _ _ => exact accounted.restage split .holding
  | abandon split _ => exact accounted.restage split .leaving
  | unlock split _ => exact accounted.restage split .leaving
  | giveBack split _ => exact accounted.giveBack split

end Accounted

namespace Exclusive

variable {front back : List Lease} {lease : Lease}

/-- A caller that does not hold the mutex is in nobody's way. -/
theorem restage
    (exclusive : Exclusive (front ++ lease :: back)) {stage : Stage} (idle : stage ≠ .holding) :
    Exclusive (front ++ { lease with stage } :: back) := by
  rw [Exclusive, List.pairwise_append, List.pairwise_cons] at exclusive ⊢
  obtain ⟨early, ⟨_, late⟩, across⟩ := exclusive
  refine ⟨early, ⟨fun other _ _ holding => absurd holding idle, late⟩, ?_⟩
  intro before beforeMember after afterMember
  rcases List.mem_cons.mp afterMember with rfl | behind
  · exact fun _ _ => idle
  · exact across before beforeMember after (List.mem_cons_of_mem lease behind)

theorem grant
    (exclusive : Exclusive (front ++ lease :: back))
    (free : ∀ other ∈ front ++ lease :: back,
      other.mutex = lease.mutex → other.stage ≠ .holding) :
    Exclusive (front ++ { lease with stage := .holding } :: back) := by
  rw [Exclusive, List.pairwise_append, List.pairwise_cons] at exclusive ⊢
  obtain ⟨early, ⟨_, late⟩, across⟩ := exclusive
  refine ⟨early, ⟨?_, late⟩, ?_⟩
  · intro other behind same _
    exact free other (List.mem_append_right _ (List.mem_cons_of_mem lease behind)) same.symm
  · intro before beforeMember after afterMember
    rcases List.mem_cons.mp afterMember with rfl | behind
    · intro same holding
      exact absurd holding (free before (List.mem_append_left _ beforeMember) same)
    · exact across before beforeMember after (List.mem_cons_of_mem lease behind)

theorem join
    {table : LockTable} (exclusive : Exclusive table.leases) (holder : String) (resource : Ulid) :
    Exclusive (table.lease holder resource).leases := by
  have added : ∀ mutex, Exclusive (table.leases ++ [⟨holder, resource, mutex, .waiting⟩]) := by
    intro mutex
    rw [Exclusive, List.pairwise_append]
    refine ⟨exclusive, List.pairwise_singleton _ _, ?_⟩
    intro before _ after afterMember _ _
    rw [List.mem_singleton.mp afterMember]
    exact Stage.noConfusion
  rw [LockTable.lease]
  split
  · exact added _
  · exact added _

theorem step {table next : LockTable} (exclusive : Exclusive table.leases)
    (step : Step table next) :
    Exclusive next.leases := by
  cases step with
  | lease holder resource => exact exclusive.join holder resource
  | grant split _ free =>
      rw [split] at exclusive free
      exact exclusive.grant free
  | abandon split _ =>
      rw [split] at exclusive
      exact exclusive.restage Stage.noConfusion
  | unlock split _ =>
      rw [split] at exclusive
      exact exclusive.restage Stage.noConfusion
  | giveBack split _ =>
      rw [split] at exclusive
      exact exclusive.sublist ((List.sublist_cons_self _ _).append_left _)

end Exclusive

/-- By induction on the steps: what each of them keeps holds of whatever they lead to. -/
theorem Reachable.accounted_exclusive {table : LockTable} (reachable : Reachable table) :
    table.Accounted ∧ Exclusive table.leases := by
  induction reachable with
  | start => exact ⟨Accounted.start, List.Pairwise.nil⟩
  | step _ step inductionHypothesis =>
      exact ⟨inductionHypothesis.1.step step, inductionHypothesis.2.step step⟩

/-! ### Calls

What the table does when it is called is made of such steps, with one more promise:
its mutexes go to callers in the order in which these asked. -/

/-- What the table is called for. -/
inductive Call where
  | lease (holder : String) (resource : Ulid)
  | take (holder : String)
  | leave (holder : String)
  | giveBack (holder : String)

/-- The table after a call. -/
def call (table : LockTable) : Call → LockTable
  | .lease holder resource => table.lease holder resource
  | .take holder => table.take holder
  | .leave holder => table.leave holder
  | .giveBack holder => table.giveBack holder

/-- Nobody holds a mutex while somebody before it in line is still there. -/
def InLine (leases : List Lease) : Prop :=
  leases.Pairwise fun earlier later => earlier.mutex = later.mutex →
    later.stage = .holding → earlier.stage = .leaving

/-- Taking changes nothing, or the first of a line gets its mutex. -/
theorem takeFrom_cases (holder : String) (before : List Nat) (leases : List Lease) :
    takeFrom holder before leases = leases ∨
      ∃ front lease back, leases = front ++ lease :: back ∧ lease.stage = .waiting ∧
        lease.mutex ∉ before ∧
        (∀ other ∈ front, other.mutex = lease.mutex → other.stage = .leaving) ∧
        takeFrom holder before leases = front ++ { lease with stage := .holding } :: back := by
  induction leases generalizing before with
  | nil => exact Or.inl rfl
  | cons first rest inductionHypothesis =>
      rw [takeFrom]
      split
      · rename_i turn
        obtain ⟨_, waiting, free⟩ := turn
        exact Or.inr ⟨[], first, rest, rfl, waiting, free,
          fun other member => absurd member List.not_mem_nil, rfl⟩
      · rcases inductionHypothesis
            (if first.stage = .leaving then before else first.mutex :: before) with
          same | ⟨front, lease, back, rfl, waiting, free, passed, taken⟩
        · left
          rw [same]
        · right
          refine ⟨first :: front, lease, back, rfl, waiting, ?_, ?_, by rw [taken]; rfl⟩
          · intro member
            apply free
            split
            · exact member
            · exact List.mem_cons_of_mem _ member
          · intro other member same
            rcases List.mem_cons.mp member with rfl | behind
            · by_cases left : other.stage = .leaving
              · exact left
              · rw [if_neg left, same] at free
                exact absurd List.mem_cons_self free
            · exact passed other behind same

namespace InLine

variable {table : LockTable}

theorem lease (inLine : InLine table.leases) (holder : String) (resource : Ulid) :
    InLine (table.lease holder resource).leases := by
  have added : ∀ mutex, InLine (table.leases ++ [⟨holder, resource, mutex, .waiting⟩]) := by
    intro mutex
    rw [InLine, List.pairwise_append]
    refine ⟨inLine, List.pairwise_singleton _ _, ?_⟩
    intro before _ after afterMember _ holding
    rw [List.mem_singleton.mp afterMember] at holding
    cases holding
  rw [LockTable.lease]
  split
  · exact added _
  · exact added _

end InLine

/-- A table that its calls lead to: steps lead there as well, and the lines are kept. -/
structure Served (table : LockTable) : Prop where
  reachable : Reachable table
  inLine : InLine table.leases

namespace Served

variable {table : LockTable}

theorem take (served : table.Served) (holder : String) : (table.take holder).Served := by
  rw [LockTable.take]
  rcases takeFrom_cases holder [] table.leases with
    same | ⟨front, lease, back, split, waiting, _, passed, taken⟩
  · rw [same]
    exact served
  · have inLine := served.inLine
    rw [split, InLine, List.pairwise_append, List.pairwise_cons] at inLine
    obtain ⟨early, ⟨behind, late⟩, across⟩ := inLine
    rw [taken]
    constructor
    · refine served.reachable.step (.grant table split waiting ?_)
      intro other member same
      rw [split] at member
      rcases List.mem_append.mp member with before | after
      · rw [passed other before same]
        exact Stage.noConfusion
      · rcases List.mem_cons.mp after with rfl | later
        · rw [waiting]
          exact Stage.noConfusion
        · intro holding
          rw [behind other later same.symm holding] at waiting
          cases waiting
    · rw [InLine, List.pairwise_append, List.pairwise_cons]
      refine ⟨early, ⟨?_, late⟩, ?_⟩
      · intro other later same holding
        have left := behind other later same holding
        rw [waiting] at left
        cases left
      · intro before beforeMember after afterMember
        rcases List.mem_cons.mp afterMember with rfl | later
        · exact fun same _ => passed before beforeMember same
        · exact across before beforeMember after (List.mem_cons_of_mem lease later)

/-- Whoever leaves does so step by step, one lease after the other. -/
theorem leave (served : table.Served) (holder : String) : (table.leave holder).Served := by
  have stepwise : ∀ front back : List Lease,
      Reachable { table with leases := front ++ back } →
        Reachable { table with leases := front ++ back.map fun lease =>
          if lease.holder = holder then { lease with stage := .leaving } else lease } := by
    intro front back
    induction back generalizing front with
    | nil => exact id
    | cons lease back inductionHypothesis =>
        intro reachable
        have further := inductionHypothesis (front ++
          [if lease.holder = holder then { lease with stage := .leaving } else lease])
        simp only [List.append_assoc, List.singleton_append] at further
        rw [List.map_cons]
        apply further
        split
        · cases stage : lease.stage with
          | waiting => exact reachable.step (.abandon _ rfl stage)
          | holding => exact reachable.step (.unlock _ rfl stage)
          | leaving =>
              rw [← stage]
              exact reachable
        · exact reachable
  constructor
  · exact stepwise [] table.leases served.reachable
  · rw [LockTable.leave, InLine, List.pairwise_map]
    refine served.inLine.imp ?_
    intro earlier later kept
    split <;> split
    · exact fun _ _ => rfl
    · exact fun _ _ => rfl
    · intro _ holding
      cases holding
    · exact kept

theorem giveBack (served : table.Served) (holder : String) :
    (table.giveBack holder).Served := by
  rw [LockTable.giveBack]
  split
  · rename_i lease found
    have leaving : lease.stage = .leaving := by
      have fits := List.find?_some found
      simp only [decide_eq_true_eq] at fits
      exact fits.2
    obtain ⟨front, back, _, split, erased⟩ :=
      List.exists_erase_eq (List.mem_of_find?_eq_some found)
    rw [erased]
    refine ⟨served.reachable.step (.giveBack table split leaving), ?_⟩
    have inLine := served.inLine
    rw [split] at inLine
    exact inLine.sublist ((List.sublist_cons_self lease back).append_left front)
  · exact served

theorem call (served : table.Served) (call : Call) : (table.call call).Served := by
  cases call with
  | lease holder resource =>
      exact ⟨served.reachable.step (.lease table holder resource),
        served.inLine.lease holder resource⟩
  | take holder => exact served.take holder
  | leave holder => exact served.leave holder
  | giveBack holder => exact served.giveBack holder

end Served

/-- Whatever the table is called for, steps could have led there. -/
theorem reachable_calls (calls : List Call) : Reachable (calls.foldl call {}) := by
  have served : ∀ table : LockTable, table.Served → (calls.foldl call table).Served := by
    induction calls with
    | nil => exact fun table served => served
    | cons first rest inductionHypothesis =>
        intro table served
        exact inductionHypothesis (table.call first) (served.call first)
  exact (served {} ⟨.start, List.Pairwise.nil⟩).reachable

/-! ### Mutual exclusion -/

section Views

variable {table : LockTable}

theorem length_shares (leases : List Lease) (resource : Ulid) :
    (shares leases resource).length = leases.countP (·.resource = resource) := by
  rw [shares, List.length_map, List.countP_eq_length_filter]

theorem Accounted.exists_entry (accounted : table.Accounted) {lease : Lease}
    (member : lease ∈ table.leases) :
    ∃ entry : LockEntry, table.entries[lease.resource]? = some entry ∧ 0 < entry.users ∧
      lease.mutex = entry.mutex := by
  have claim := mem_shares member
  cases found : table.entries[lease.resource]? with
  | none =>
      rw [accounted.vacant _ found] at claim
      exact absurd claim List.not_mem_nil
  | some entry =>
      obtain ⟨users, replicated⟩ := accounted.occupied _ entry found
      rw [replicated] at claim
      exact ⟨entry, rfl, users, List.eq_of_mem_replicate claim⟩

theorem Accounted.mem_entries_iff (accounted : table.Accounted) (resource : Ulid) :
    resource ∈ table.entries ↔ ∃ lease ∈ table.leases, lease.resource = resource := by
  rw [Std.TreeMap.mem_iff_isSome_getElem?]
  constructor
  · intro there
    obtain ⟨entry, found⟩ := Option.isSome_iff_exists.mp there
    obtain ⟨users, replicated⟩ := accounted.occupied resource entry found
    have counted := length_shares table.leases resource
    rw [replicated, List.length_replicate] at counted
    rw [counted, List.countP_pos_iff] at users
    simpa using users
  · rintro ⟨lease, member, rfl⟩
    obtain ⟨entry, found, _⟩ := accounted.exists_entry member
    rw [found]
    rfl

theorem Accounted.mutex_eq_iff (accounted : table.Accounted) {left right : Lease}
    (leftMember : left ∈ table.leases) (rightMember : right ∈ table.leases) :
    left.mutex = right.mutex ↔ left.resource = right.resource := by
  obtain ⟨leftEntry, leftFound, _, leftMutex⟩ := accounted.exists_entry leftMember
  obtain ⟨rightEntry, rightFound, _, rightMutex⟩ := accounted.exists_entry rightMember
  constructor
  · intro same
    exact accounted.apart _ _ leftEntry rightEntry leftFound rightFound
      (leftMutex.symm.trans (same.trans rightMutex))
  · intro same
    rw [same, rightFound, Option.some.injEq] at leftFound
    rw [leftMutex, rightMutex, leftFound]

end Views

/-- In whatever order callers take their steps, each entry counts the leases on its
resource, whoever has one of these leases waits for one and the same mutex, no two of them
hold it, and when all leases are given back nothing is left. -/
theorem orderly_of_reachable {table : LockTable} (reachable : Reachable table) :
    table.Orderly := by
  obtain ⟨accounted, exclusive⟩ := reachable.accounted_exclusive
  constructor
  case entered => exact accounted.mem_entries_iff
  case counted =>
    intro resource entry found
    rw [← length_shares, (accounted.occupied resource entry found).2, List.length_replicate]
  case leased => exact fun lease member => accounted.exists_entry member
  case shared =>
    exact fun left leftMember right rightMember => accounted.mutex_eq_iff leftMember rightMember
  case alone =>
    refine List.Pairwise.imp_of_mem ?_ exclusive
    intro left right leftMember rightMember kept same
    exact kept ((accounted.mutex_eq_iff leftMember rightMember).mpr same)
  case emptied =>
    intro nobody
    have nothing : ∀ resource, resource ∉ table.entries := by
      intro resource member
      obtain ⟨lease, out, _⟩ := (accounted.mem_entries_iff resource).mp member
      rw [nobody] at out
      exact List.not_mem_nil out
    have empty := Std.TreeMap.isEmpty_iff_forall_not_mem.mpr nothing
    refine ⟨empty, ?_⟩
    rw [Std.TreeMap.isEmpty_eq_size_eq_zero] at empty
    simpa [size] using empty

/-- One caller has given the mutex back but not its lease, the next in line has got the
mutex, and a newcomer asks for the same resource. -/
theorem orderly_of_reachable_newcomer :
    let table := [
      .lease "Ada" (.ofNat 7), .take "Ada", .lease "Bob" (.ofNat 7), .take "Bob", .leave "Ada",
      .take "Bob", .lease "Eve" (.ofNat 7), .take "Eve", .lease "Ada" (.ofNat 8),
      .giveBack "Ada"].foldl call {}
    table.callers = [("Bob", true), ("Eve", false), ("Ada", false)] ∧ table.size = 2 ∧
      Reachable table ∧ table.Orderly :=
  ⟨by decide, by decide, reachable_calls _, orderly_of_reachable (reachable_calls _)⟩

end Reservations.LockTable
