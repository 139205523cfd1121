import Reservations.Proofs.Store.ConflictFree
import Reservations.Proofs.Store.Independence
import Reservations.Proofs.Store.Views

namespace Reservations

/-! ## A log that is renamed but not opened

A compaction can fail after its new file has taken the place of the log. Nothing is lost
by that alone, and the store goes on as before. But it goes on writing to a file that no
path leads to any more, so that what is acknowledged from then on is lost on opening the
store again, unless a later compaction goes through first. -/

namespace Log.Handle

/-- The log that is gone on with when it is opened again. -/
def standing (handle : Handle) : Journal :=
  match handle.successor with
  | none => handle.journal
  | some file => ⟨⟨file, .empty⟩, 0, handle.journal.spare⟩

theorem close_eq_close_standing
    {handle : Handle} (roomy : handle.standing.tail.file.full = false) :
    handle.close = handle.standing.close := by
  obtain ⟨journal, successor⟩ := handle
  cases successor with
  | none => rfl
  | some file =>
      rw [Journal.close_of_roomy roomy]
      simp [close, standing, Tail.drained]

/-- What can be opened is what is written to. -/
theorem successor_compact_opened (journal : Journal) (events : List Event) :
    (compact { journal } (.ok ()) events).2.successor = none := by
  rw [compact]
  split
  · rw [swap]
    split
    · rfl
    · rfl
    · rfl
  · rfl

theorem spare_close (handle : Handle) : handle.close.spare = handle.journal.spare := by
  obtain ⟨journal, successor⟩ := handle
  cases successor with
  | none => rfl
  | some file => rfl

end Log.Handle

namespace Store

/-! ### The spare file is left alone -/

theorem spare_erase (store : Store) (id : Ulid) :
    (store.erase id).2.journal.spare = store.journal.spare := by
  rw [erase]
  split
  · rfl
  · rename_i resource home
    split
    · rfl
    · have committed := store.journal.spare_commit [.deleted id resource]
      cases written : store.journal.commit [.deleted id resource] with
      | mk outcome next =>
          rw [written] at committed
          cases outcome with
          | ok done => simpa only [persist_of_commit store.ledger written] using committed
          | error fault => simpa only [persist_of_fault store.ledger written] using committed

theorem spare_change
    {store next : Store} {mutation : Mutation} {answer : Answer}
    (changed : store.perform mutation.operation = .ok (answer, next)) :
    next.journal.spare = store.journal.spare := by
  cases mutation with
  | insert reservation =>
      cases changed
      exact store.spare_insert reservation
  | erase id =>
      cases changed
      exact store.spare_erase id

theorem spare_start
    {directory : Log.Directory} {store : Store} (started : start directory = .ok store) :
    store.journal.spare = directory.spare := by
  obtain ⟨log, spare⟩ := directory
  cases log with
  | absent =>
      cases started
      rfl
  | file file =>
      cases started
      rfl
  | directory => cases started

end Store

namespace Ledger

variable {left right : Ledger}

theorem Alike.answer_eq
    (alike : left.Alike right) (leftSound : left.Sound) (rightSound : right.Sound)
    (mutation : Mutation) : left.answer mutation = right.answer mutation := by
  cases mutation with
  | insert reservation => rw [answer, answer, alike.refusal?_eq leftSound rightSound]
  | erase id => rw [answer, answer, alike.homes]

/-- What a change does is apply the event that it brings. -/
theorem effect_eq_applyAll (ledger : Ledger) (mutation : Mutation) :
    mutation.operation.effect ledger =
      ledger.applyAll (ledger.event? mutation).toList := by
  cases mutation with
  | insert reservation =>
      simp only [Mutation.operation, Store.Operation.effect, event?]
      split
      · rfl
      · rfl
  | erase id =>
      simp only [Mutation.operation, Store.Operation.effect, event?]
      cases ledger.homeOf? id with
      | some resource => rfl
      | none => rfl

end Ledger

/-- A store, and the file at the path of its log where that is another one than the
store writes to. -/
structure Mounted where
  store : Store
  successor : Option Log.File := none

namespace Mounted

open Store (Answer Operation)

def handle (mounted : Mounted) : Log.Handle :=
  ⟨mounted.store.journal, mounted.successor⟩

/-- Reduces the log to one creation for each reservation there is. -/
def compact (mounted : Mounted) (opening : Log.Outcome) : Except Refusal Unit × Mounted :=
  let events := (mounted.store.ledger.list none).map Event.created
  let (outcome, handle) := mounted.handle.compact opening events
  (outcome.mapError .storage, ⟨⟨mounted.store.ledger, handle.journal⟩, handle.successor⟩)

/-- That is the compaction of the store where the new file can be opened. -/
theorem compact_opened (store : Store) :
    compact { store } (.ok ()) = (store.compact.1, { store := store.compact.2 }) := by
  have own := Log.Handle.successor_compact_opened store.journal
    ((store.ledger.list none).map Event.created)
  cases compacted : Log.Handle.compact { journal := store.journal } (.ok ())
      ((store.ledger.list none).map Event.created) with
  | mk outcome handle =>
      rw [compacted] at own
      obtain ⟨journal, successor⟩ := handle
      obtain rfl : successor = none := own
      simp only [compact, Mounted.handle, Store.compact, Log.Journal.compact, compacted]
      cases outcome with
      | ok done => rfl
      | error fault => rfl

/-- Closes the store and opens it again. -/
def reopen (mounted : Mounted) : Except StorageFault Store :=
  Store.start mounted.handle.close

/-- What is asked of a store. Compaction comes with what opening its new file will come
to. -/
inductive Demand where
  | change (mutation : Mutation)
  | compact (opening : Log.Outcome)
  | reopen

/-- The texts of an added reservation are as short as requests have them. -/
def Demand.Modest : Demand → Prop
  | change mutation => mutation.operation.Modest
  | _ => True

def perform (mounted : Mounted) : Demand → Except StorageFault (Answer × Mounted)
  | .change mutation =>
      match mounted.store.perform mutation.operation with
      | .ok (answer, store) => .ok (answer, { mounted with store })
      | .error fault => .error fault
  | .compact opening =>
      let (answer, mounted) := mounted.compact opening
      .ok (.compacted answer, mounted)
  | .reopen =>
      match mounted.reopen with
      | .ok store => .ok (.reopened, { store })
      | .error fault => .error fault

def run (mounted : Mounted) : List Demand → Except StorageFault (List Answer × Mounted)
  | [] => .ok ([], mounted)
  | demand :: demands =>
      match mounted.perform demand with
      | .error fault => .error fault
      | .ok (answer, mounted) =>
          match mounted.run demands with
          | .error fault => .error fault
          | .ok (answers, mounted) => .ok (answer :: answers, mounted)

/-! ### What is in memory and what lasts -/

/-- The reservations in memory and those that opening the store again gives. A change
lasts while the log is attached, that is, while its path leads to the file that is
written to. -/
structure Sides where
  memory : Ledger
  lasting : Ledger
  attached : Bool

/-- Before anything was asked. -/
def Sides.fresh : Sides :=
  ⟨.empty, .empty, true⟩

/-- The answer to a demand and what it leaves. After a compaction all that is in memory
lasts, whether its file could be opened or not. -/
def Sides.take (sides : Sides) : Demand → Answer × Sides
  | .change mutation =>
      let memory := mutation.operation.effect sides.memory
      (sides.memory.answer mutation,
        { sides with memory, lasting := if sides.attached then memory else sides.lasting })
  | .compact opening =>
      (.compacted (opening.mapError .storage),
        ⟨sides.memory, sides.memory, opening.isOk⟩)
  | .reopen => (.reopened, ⟨sides.lasting, sides.lasting, true⟩)

def Sides.takeAll (sides : Sides) : List Demand → List Answer × Sides
  | [] => ([], sides)
  | demand :: demands =>
      let (answer, sides) := sides.take demand
      let (answers, sides) := sides.takeAll demands
      (answer :: answers, sides)

/-- A store with a log that belongs to it, and with the reservations of a ledger. -/
structure Mirrors (store : Store) (ledger : Ledger) : Prop where
  recorded : ∃ events, store.Recorded Log.Readable events
  sound : ledger.Sound
  alike : store.ledger.Alike ledger

/-- The store holds what is in memory. Opened again, it would hold what lasts. -/
structure Keeps (mounted : Mounted) (sides : Sides) : Prop where
  clear : mounted.store.journal.spare ≠ .directory
  memory : Mirrors mounted.store sides.memory
  lasting : ∃ ledger, Mirrors ⟨ledger, mounted.handle.standing⟩ sides.lasting
  attached : sides.attached = mounted.successor.isNone

namespace Mirrors

variable {store left right : Store} {ledger : Ledger}

theorem twins (leftMirrors : Mirrors left ledger) (rightMirrors : Mirrors right ledger) :
    left.Twins right :=
  ⟨leftMirrors.recorded, rightMirrors.recorded, leftMirrors.alike.trans rightMirrors.alike.symm⟩

theorem conflictFree (mirrors : Mirrors store ledger) : store.ledger.ConflictFree := by
  obtain ⟨events, recorded⟩ := mirrors.recorded
  exact recorded.history.sound.conflictFree

theorem change
    (mirrors : Mirrors store ledger) {mutation : Mutation}
    (modest : mutation.operation.Modest) :
    ∃ next, store.perform mutation.operation = .ok (ledger.answer mutation, next) ∧
      Mirrors next (mutation.operation.effect ledger) := by
  obtain ⟨events, recorded⟩ := mirrors.recorded
  obtain ⟨next, changed, grown, same⟩ :=
    recorded.perform_mutation mutation (modest.readable_of_event? _)
  rw [← Ledger.effect_eq_applyAll] at same
  rw [mirrors.alike.answer_eq recorded.history.sound mirrors.sound] at changed
  exact ⟨next, changed, ⟨_, grown⟩, Store.sound_effect _ mirrors.sound,
    same.alike.trans (Store.alike_effect _ mirrors.alike recorded.history.sound mirrors.sound)⟩

theorem reopen (mirrors : Mirrors store ledger) :
    ∃ next, store.reopen = .ok next ∧ Mirrors next ledger := by
  obtain ⟨events, recorded⟩ := mirrors.recorded
  obtain ⟨next, reopened, twins, _⟩ := recorded.twins_reopen
  exact ⟨next, reopened, twins.rightRecorded, mirrors.sound,
    twins.alike.symm.trans mirrors.alike⟩

/-- The store does not depend on what stands at the path of the spare file. -/
theorem of_spare (mirrors : Mirrors store ledger) (node : Log.Node) :
    Mirrors ⟨store.ledger, { store.journal with spare := node }⟩ ledger := by
  obtain ⟨events, recorded⟩ := mirrors.recorded
  exact ⟨⟨events, recorded.roomy, recorded.loose, recorded.written, recorded.kind,
    recorded.history⟩, mirrors.sound, mirrors.alike⟩

end Mirrors

variable {mounted : Mounted} {sides : Sides}

theorem compact_of_clear (clear : mounted.store.journal.spare ≠ .directory) :
    ∃ file : Log.File, file.full = false ∧ file.stuck = false ∧
      file.bytes.data.toList =
        Log.frames ((mounted.store.ledger.list none).map Event.created) ∧
      mounted.compact (.ok ()) =
        (.ok (), { store := ⟨mounted.store.ledger, ⟨⟨file, .empty⟩, 0, .absent⟩⟩ }) ∧
      ∀ fault, mounted.compact (.error fault) =
        (.error (.storage fault),
          ⟨⟨mounted.store.ledger, { mounted.store.journal with spare := .absent }⟩,
            some file⟩) := by
  have own : mounted.handle.journal.spare ≠ .directory := clear
  obtain ⟨file, roomy, loose, bytes, opened, unopened⟩ :=
    Log.Handle.compact_of_ne_directory own ((mounted.store.ledger.list none).map Event.created)
  refine ⟨file, roomy, loose, bytes, ?_, fun fault => ?_⟩
  · rw [compact, opened]
    rfl
  · rw [compact, unopened]
    rfl

/-- A compaction leaves all the same reservations in memory and at the path of the log. It
says that it failed if the file there could not be opened, and then goes on in the old one. -/
theorem Keeps.compact (keeps : mounted.Keeps sides) (opening : Log.Outcome) :
    ∃ next, mounted.compact opening = (opening.mapError .storage, next) ∧
      next.Keeps (sides.take (.compact opening)).2 := by
  obtain ⟨events, recorded⟩ := keeps.memory.recorded
  obtain ⟨file, roomy, loose, bytes, opened, unopened⟩ := compact_of_clear keeps.clear
  have fresh : Mirrors ⟨mounted.store.ledger, ⟨⟨file, .empty⟩, 0, .absent⟩⟩ sides.memory :=
    ⟨⟨_, recorded.rewritten roomy loose bytes⟩, keeps.memory.sound, keeps.memory.alike⟩
  have absent : Log.Node.absent ≠ .directory := nofun
  cases opening with
  | ok done => exact ⟨_, opened, absent, fresh, ⟨_, fresh⟩, rfl⟩
  | error fault =>
      exact ⟨_, unopened fault, absent, keeps.memory.of_spare .absent, ⟨_, fresh⟩, rfl⟩

theorem Keeps.reopen (keeps : mounted.Keeps sides) :
    ∃ store, mounted.reopen = .ok store ∧ Mirrors store sides.lasting ∧
      store.journal.spare = mounted.store.journal.spare := by
  obtain ⟨ledger, mirrors⟩ := keeps.lasting
  obtain ⟨events, recorded⟩ := mirrors.recorded
  obtain ⟨store, reopened, still⟩ := mirrors.reopen
  have started : mounted.reopen = .ok store := by
    rw [Mounted.reopen, Log.Handle.close_eq_close_standing recorded.roomy]
    exact reopened
  exact ⟨store, started, still, (Store.spare_start started).trans mounted.handle.spare_close⟩

/-- A change lasts if the log is attached. Otherwise only the memory has it. -/
theorem Keeps.change
    (keeps : mounted.Keeps sides) {mutation : Mutation} (modest : mutation.operation.Modest) :
    ∃ next, mounted.perform (.change mutation) = .ok (sides.memory.answer mutation, next) ∧
      next.Keeps (sides.take (.change mutation)).2 := by
  obtain ⟨store, changed, memory⟩ := keeps.memory.change modest
  have clear : store.journal.spare ≠ .directory := by
    rw [Store.spare_change changed]
    exact keeps.clear
  have attached := keeps.attached
  obtain ⟨ledger, lasting⟩ := keeps.lasting
  obtain ⟨current, successor⟩ := mounted
  refine ⟨⟨store, successor⟩, ?_, clear, memory, ?_, attached⟩
  · simp only [Mounted.perform, changed]
  · cases successor with
    | none =>
        refine ⟨store.ledger, ?_⟩
        simp only [Sides.take, attached]
        exact memory
    | some file =>
        refine ⟨ledger, ?_⟩
        simp only [Sides.take, attached]
        exact lasting.of_spare store.journal.spare

theorem Keeps.perform
    (keeps : mounted.Keeps sides) {demand : Demand} (modest : demand.Modest) :
    ∃ next, mounted.perform demand = .ok ((sides.take demand).1, next) ∧
      next.Keeps (sides.take demand).2 := by
  cases demand with
  | change mutation => exact keeps.change modest
  | compact opening =>
      obtain ⟨next, compacted, kept⟩ := keeps.compact opening
      refine ⟨next, ?_, kept⟩
      simp only [Mounted.perform, compacted, Sides.take]
  | reopen =>
      obtain ⟨store, reopened, still, spare⟩ := keeps.reopen
      have clear : store.journal.spare ≠ .directory := by
        rw [spare]
        exact keeps.clear
      refine ⟨{ store }, ?_, clear, still, ⟨store.ledger, still⟩, rfl⟩
      simp only [Mounted.perform, reopened, Sides.take]

/-- By induction on the demands: what each of them leaves is what the next one starts
from. -/
theorem Keeps.run
    (keeps : mounted.Keeps sides) {demands : List Demand}
    (modest : ∀ demand ∈ demands, demand.Modest) :
    ∃ next, mounted.run demands = .ok ((sides.takeAll demands).1, next) ∧
      next.Keeps (sides.takeAll demands).2 := by
  induction demands generalizing mounted sides with
  | nil => exact ⟨mounted, rfl, keeps⟩
  | cons demand demands inductionHypothesis =>
      rw [List.forall_mem_cons] at modest
      obtain ⟨middle, performed, kept⟩ := keeps.perform modest.1
      obtain ⟨next, ran, still⟩ := inductionHypothesis kept modest.2
      refine ⟨next, ?_, still⟩
      simp only [Mounted.run, performed, ran, Sides.takeAll]

/-! ### What is lost, and until when -/

/-- While the log is not attached, no change lasts. -/
theorem Sides.lasting_changes (sides : Sides) (detached : sides.attached = false)
    (mutations : List Mutation) :
    (sides.takeAll (mutations.map .change)).2.lasting = sides.lasting := by
  induction mutations generalizing sides with
  | nil => rfl
  | cons mutation mutations inductionHypothesis =>
      have rest := inductionHypothesis (sides.take (.change mutation)).2 detached
      have first : (sides.take (.change mutation)).2.lasting = sides.lasting := by
        simp [take, detached]
      exact rest.trans first

theorem Sides.memory_changes (sides : Sides) (mutations : List Mutation) :
    (sides.takeAll (mutations.map .change)).2.memory =
      Store.effects sides.memory (mutations.map Mutation.operation) := by
  induction mutations generalizing sides with
  | nil => rfl
  | cons mutation mutations inductionHypothesis =>
      exact inductionHypothesis (sides.take (.change mutation)).2

theorem Sides.takeAll_append (sides : Sides) (first second : List Demand) :
    (sides.takeAll (first ++ second)).2 = ((sides.takeAll first).2.takeAll second).2 := by
  induction first generalizing sides with
  | nil => rfl
  | cons demand first inductionHypothesis => exact inductionHypothesis (sides.take demand).2

/-- What is left of the promises of a compaction if its new file cannot be opened. -/
structure LeavesUnopened (mounted : Mounted) (fault : StorageFault) : Prop where
  /-- It says so and touches neither the reservations nor what was written of them. At the
  path of the log is one creation for each reservation there is. -/
  harmless : ∃ file next, mounted.compact (.error fault) = (.error (.storage fault), next) ∧
    next.store.ledger = mounted.store.ledger ∧
    next.store.journal.tail = mounted.store.journal.tail ∧
    next.store.journal.appends = mounted.store.journal.appends ∧
    next.successor = some file ∧
    ∃ live : List Reservation, live.Nodup ∧ (∀ r, r ∈ live ↔ mounted.store.get r.id = .ok r) ∧
      file.bytes.data.toList = Log.frames (live.map Event.created)
  /-- What is changed from then on is in memory, but not there on opening again. -/
  lost : ∀ mutations : List Mutation, (∀ mutation ∈ mutations, mutation.operation.Modest) →
    ∃ answers later reopened,
      mounted.run (.compact (.error fault) :: mutations.map .change) = .ok (answers, later) ∧
      later.store.ledger.Alike
        (Store.effects mounted.store.ledger (mutations.map Mutation.operation)) ∧
      later.store.ledger.ConflictFree ∧
      later.reopen = .ok reopened ∧
      mounted.store.AnswersAlike reopened
  /-- It is there once a compaction goes through before. -/
  mended : ∀ mutations : List Mutation, (∀ mutation ∈ mutations, mutation.operation.Modest) →
    ∃ answers later reopened,
      mounted.run (.compact (.error fault) :: mutations.map .change ++ [.compact (.ok ())]) =
        .ok (answers, later) ∧
      later.reopen = .ok reopened ∧
      later.store.AnswersAlike reopened

theorem Keeps.leavesUnopened (keeps : mounted.Keeps sides) (fault : StorageFault) :
    mounted.LeavesUnopened fault := by
  obtain ⟨events, recorded⟩ := keeps.memory.recorded
  have sound := recorded.history.sound
  have spread : ∀ mutations : List Mutation,
      (∀ mutation ∈ mutations, mutation.operation.Modest) →
        ∀ demand ∈ Demand.compact (.error fault) :: mutations.map .change, demand.Modest := by
    intro mutations modest
    rw [List.forall_mem_cons, List.forall_mem_map]
    exact ⟨trivial, modest⟩
  constructor
  case harmless =>
    obtain ⟨file, _, _, bytes, _, unopened⟩ := compact_of_clear keeps.clear
    refine ⟨file, _, unopened fault, rfl, rfl, rfl, rfl, mounted.store.ledger.list none,
      sound.viewsAgree.distinct, fun r => ?_, bytes⟩
    rw [Store.get_eq_ok_iff sound.viewsAgree]
    exact (and_iff_left rfl).symm
  case lost =>
    intro mutations modest
    obtain ⟨later, ran, kept⟩ := keeps.run (spread mutations modest)
    obtain ⟨reopened, opened, lasting, _⟩ := kept.reopen
    have memory := kept.memory.alike
    let after : Sides := ⟨sides.memory, sides.memory, false⟩
    have gone : (sides.takeAll (.compact (.error fault) :: mutations.map .change)).2 =
        (after.takeAll (mutations.map .change)).2 := rfl
    rw [gone, after.lasting_changes rfl] at lasting
    rw [gone, after.memory_changes] at memory
    refine ⟨_, later, reopened, ran, memory.trans ?_, kept.memory.conflictFree, opened, ?_⟩
    · exact (Store.alike_effects _ keeps.memory.alike sound keeps.memory.sound).symm
    · exact (keeps.memory.twins lasting).answersAlike
  case mended =>
    intro mutations modest
    have last : ∀ demand ∈ [Demand.compact (.ok ())], demand.Modest :=
      List.forall_mem_singleton.mpr trivial
    obtain ⟨later, ran, kept⟩ :=
      keeps.run (List.forall_mem_append.mpr ⟨spread mutations modest, last⟩)
    obtain ⟨reopened, opened, lasting, _⟩ := kept.reopen
    have memory := kept.memory
    rw [Sides.takeAll_append] at lasting memory
    exact ⟨_, later, reopened, ran, opened, (memory.twins lasting).answersAlike⟩

def serve (directory : Log.Directory) (demands : List Demand) :
    Except StorageFault (List Answer × Mounted) :=
  match Store.start directory with
  | .error fault => .error fault
  | .ok store => run { store } demands

/-- Every run that starts without a log or with an empty one gives the answers that its
sides call for, and keeps them: what is in memory and what lasts. -/
theorem serve_keeps
    {directory : Log.Directory} (blank : Store.Blank directory)
    (clear : directory.spare ≠ .directory)
    {demands : List Demand} (modest : ∀ demand ∈ demands, demand.Modest) :
    ∃ mounted, serve directory demands = .ok ((Sides.fresh.takeAll demands).1, mounted) ∧
      mounted.Keeps (Sides.fresh.takeAll demands).2 := by
  obtain ⟨store, started, recorded, _⟩ := Store.start_of_blank Log.Readable blank
  have mirrors : Mirrors store .empty :=
    ⟨⟨[], recorded⟩, Ledger.sound_empty, recorded.history.alike.symm⟩
  have unblocked : store.journal.spare ≠ .directory := by
    rw [Store.spare_start started]
    exact clear
  have keeps : Keeps { store } Sides.fresh :=
    ⟨unblocked, mirrors, ⟨store.ledger, mirrors⟩, rfl⟩
  obtain ⟨mounted, ran, kept⟩ := keeps.run modest
  refine ⟨mounted, ?_, kept⟩
  rw [serve, started]
  exact ran

/-- That holds on after files that were renamed and not opened. One more of them loses
nothing by itself. -/
theorem leavesUnopened_of_serve
    {directory : Log.Directory} (blank : Store.Blank directory)
    (clear : directory.spare ≠ .directory)
    {demands : List Demand} (modest : ∀ demand ∈ demands, demand.Modest) :
    ∃ mounted, serve directory demands = .ok ((Sides.fresh.takeAll demands).1, mounted) ∧
      ∀ fault, mounted.LeavesUnopened fault := by
  obtain ⟨mounted, served, keeps⟩ := serve_keeps blank clear modest
  exact ⟨mounted, served, keeps.leavesUnopened⟩

end Mounted

end Reservations
