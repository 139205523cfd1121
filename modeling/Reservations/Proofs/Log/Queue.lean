import Mathlib.Data.List.Forall2
import Reservations.Log.Queue
import Reservations.Proofs.Log.Writing

namespace Reservations.Log

/-! ## Orders together and alone

Whatever a line lets an append draw along, everything happens in the order of the line.
Only the moment of an answer changes: it is sent when the whole batch is in the file, and
so never before the file holds what it would hold if every order were carried out alone. -/

namespace Journal

/-- The file takes what is written and flushed. -/
structure Healthy (journal : Journal) : Prop where
  roomy : journal.tail.file.full = false
  loose : journal.tail.file.stuck = false

/-- The log with some more events, all of which are in the file. -/
def committed (journal : Journal) (events : List Event) : Journal where
  tail.file.bytes := ⟨(journal.tail.stream ++ frames events).toArray⟩
  tail.file.full := journal.tail.file.full
  tail.file.stuck := journal.tail.file.stuck
  appends := journal.appends + events.length
  spare := journal.spare

variable {journal : Journal}

theorem bytes_committed (journal : Journal) (events : List Event) :
    (journal.committed events).tail.file.bytes.data.toList =
      journal.tail.stream ++ frames events :=
  List.toList_toArray

theorem stream_committed (journal : Journal) (events : List Event) :
    (journal.committed events).tail.stream = journal.tail.stream ++ frames events :=
  (Tail.stream_of_settled rfl).trans (journal.bytes_committed events)

theorem committed_committed (journal : Journal) (front back : List Event) :
    (journal.committed front).committed back = journal.committed (front ++ back) := by
  have stream := journal.stream_committed front
  rw [committed, stream, committed, committed, frames_append, List.append_assoc,
    List.length_append, Nat.add_assoc]

theorem commit_eq (healthy : journal.Healthy) (events : List Event) :
    journal.commit events = (.ok (), journal.committed events) := by
  obtain ⟨next, written, gains, settled⟩ :=
    commit_of_roomy healthy.roomy healthy.loose events
  have bytes : next.tail.file.bytes = ⟨(journal.tail.stream ++ frames events).toArray⟩ := by
    have stored := gains.tail.stream
    rw [Tail.stream_of_settled settled] at stored
    rw [← stored, Array.toArray_toList]
  have roomy := gains.tail.roomy
  have stuck := gains.tail.stuck
  have appends := gains.appends
  have spare := gains.spare
  rw [written]
  obtain ⟨⟨⟨_, _, _⟩, _⟩, _, _⟩ := next
  simp only at bytes roomy stuck appends spare settled
  subst bytes roomy stuck appends spare settled
  rw [committed, healthy.roomy]

namespace Healthy

theorem committed (healthy : journal.Healthy) (events : List Event) :
    (journal.committed events).Healthy :=
  ⟨healthy.roomy, healthy.loose⟩

theorem compact (healthy : journal.Healthy) (events : List Event) :
    (journal.compact events).2.Healthy := by
  by_cases blocked : journal.spare = .directory
  · rw [compact_of_directory blocked]
    exact healthy
  · obtain ⟨file, compacted, roomy, loose, _⟩ := compact_of_ne_directory blocked events
    rw [compacted]
    exact ⟨roomy, loose⟩

end Healthy

theorem serve_append (healthy : journal.Healthy) (receiver : Nat) (event : Event) :
    journal.serve ⟨receiver, .append event⟩ =
      (⟨receiver, .done (.ok ()), journal.committed [event]⟩, journal.committed [event]) := by
  simp only [serve, commit_eq healthy]

theorem serveBatch_eq (healthy : journal.Healthy) (additions : List Addition) :
    journal.serveBatch additions =
      (additions.map fun addition =>
          ⟨addition.receiver, .done (.ok ()),
            journal.committed (additions.map Addition.event)⟩,
        journal.committed (additions.map Addition.event)) := by
  simp only [serveBatch, commit_eq healthy]

theorem receiver_serve (journal : Journal) (posting : Posting) :
    (journal.serve posting).1.receiver = posting.receiver := by
  unfold serve
  split <;> rfl

namespace Healthy

theorem serve (healthy : journal.Healthy) (posting : Posting) :
    (journal.serve posting).2.Healthy := by
  obtain ⟨receiver, order⟩ := posting
  cases order with
  | append event =>
      rw [serve_append healthy]
      exact healthy.committed [event]
  | compact events => exact healthy.compact events
  | countAppends => exact healthy

theorem serveAll (healthy : journal.Healthy) (postings : List Posting) :
    (journal.serveAll postings).2.Healthy := by
  induction postings generalizing journal with
  | nil => exact healthy
  | cons posting postings inductionHypothesis =>
      exact inductionHypothesis (healthy.serve posting)

end Healthy

theorem serveAll_append (journal : Journal) (front back : List Posting) :
    journal.serveAll (front ++ back) =
      ((journal.serveAll front).1 ++ ((journal.serveAll front).2.serveAll back).1,
        ((journal.serveAll front).2.serveAll back).2) := by
  induction front generalizing journal with
  | nil => rfl
  | cons posting front inductionHypothesis =>
      simp only [List.cons_append, Journal.serveAll, inductionHypothesis]

theorem receivers_serveAll (journal : Journal) (postings : List Posting) :
    (journal.serveAll postings).1.map Sending.receiver = postings.map Posting.receiver := by
  induction postings generalizing journal with
  | nil => rfl
  | cons posting postings inductionHypothesis =>
      simp only [Journal.serveAll, List.map_cons, inductionHypothesis, receiver_serve]

theorem length_serveAll (journal : Journal) (postings : List Posting) :
    (journal.serveAll postings).1.length = postings.length := by
  have receivers := congrArg List.length (journal.receivers_serveAll postings)
  rwa [List.length_map, List.length_map] at receivers

end Journal

/-! ### One batch -/

/-- The same answer for the same receiver, when the file holds at least as much. -/
structure Sending.Covers (alone together : Sending) : Prop where
  receiver : together.receiver = alone.receiver
  reply : together.reply = alone.reply
  grown : alone.log.tail.file.Grows together.log.tail.file

theorem Sending.Covers.refl (sending : Sending) : sending.Covers sending :=
  ⟨rfl, rfl, File.Grows.refl _⟩

theorem covers_self (sendings : List Sending) : List.Forall₂ Sending.Covers sendings sendings :=
  List.forall₂_same.mpr fun sending _ => Sending.Covers.refl sending

namespace Journal

variable {journal : Journal}

/-- Carried out alone, appends end with the log that they end with together. -/
theorem serveAll_additions (healthy : journal.Healthy) (first : Addition)
    (additions : List Addition) :
    (journal.serveAll ((first :: additions).map Addition.posting)).2 =
      journal.committed ((first :: additions).map Addition.event) := by
  induction additions generalizing journal first with
  | nil =>
      rw [List.map_singleton, List.map_singleton, Journal.serveAll, Addition.posting,
        serve_append healthy]
      rfl
  | cons second additions inductionHypothesis =>
      have rest := inductionHypothesis (healthy.committed [first.event]) second
      rw [List.map_cons, Journal.serveAll, Addition.posting, serve_append healthy]
      simp only
      rw [rest, committed_committed]
      rfl

/-- A file that holds all that appends add covers every answer to one of them. -/
theorem covers_additions (healthy : journal.Healthy) (log : Journal) (additions : List Addition)
    (holds : journal.tail.stream ++ frames (additions.map Addition.event) <+:
      log.tail.file.bytes.data.toList) :
    List.Forall₂ Sending.Covers (journal.serveAll (additions.map Addition.posting)).1
      (additions.map fun addition => ⟨addition.receiver, .done (.ok ()), log⟩) := by
  induction additions generalizing journal with
  | nil => exact List.Forall₂.nil
  | cons first additions inductionHypothesis =>
      rw [List.map_cons, frames_cons, ← List.append_assoc] at holds
      have own : journal.tail.stream ++ frames [first.event] =
          journal.tail.stream ++ frame first.event := by
        rw [frames_cons, frames_nil, List.append_nil]
      have flushed : (journal.committed [first.event]).tail.file.Grows log.tail.file := by
        rw [File.Grows, bytes_committed, own]
        exact (List.prefix_append _ _).trans holds
      have rest := inductionHypothesis (healthy.committed [first.event])
        (by rwa [stream_committed, own])
      rw [List.map_cons, Journal.serveAll, Addition.posting, serve_append healthy]
      exact List.Forall₂.cons ⟨rfl, rfl, flushed⟩ rest

/-! ### The whole line -/

/-- By induction on what is left of the line behind each order that is taken. -/
theorem covers_serveLine (healthy : journal.Healthy) (line : List Arrival) :
    (journal.serveLine line).2 = (journal.serveAll (line.map Arrival.posting)).2 ∧
      List.Forall₂ Sending.Covers (journal.serveAll (line.map Arrival.posting)).1
        (journal.serveLine line).1 := by
  fun_induction serveLine journal line with
  | case1 journal => exact ⟨rfl, List.Forall₂.nil⟩
  | case2 journal receiver event prompt line _ shared middle batch ended next ending later last
      rest inductionHypothesis =>
      let additions : List Addition := ⟨receiver, event⟩ :: (drawn line).additions
      have postings : (⟨⟨receiver, .append event⟩, prompt⟩ :: line).map Arrival.posting =
          additions.map Addition.posting
            ++ ((drawn line).ending.toList ++ (drawn line).rest.map Arrival.posting) := by
        rw [List.map_cons, ← drawn_postings line, List.append_assoc]
        rfl
      rw [serveBatch_eq healthy] at batch
      obtain ⟨rfl, rfl⟩ := Prod.mk.inj batch
      have committed := serveAll_additions healthy ⟨receiver, event⟩ (drawn line).additions
      have covered := covers_additions healthy (journal.committed (additions.map Addition.event))
        additions ⟨[], by rw [bytes_committed, List.append_nil]⟩
      have still : next.Healthy := by
        have kept := (healthy.committed (additions.map Addition.event)).serveAll
          (drawn line).ending.toList
        rwa [ending] at kept
      obtain ⟨same, covers⟩ := inductionHypothesis still
      rw [rest] at same covers
      rw [postings, serveAll_append, serveAll_append, committed, ending]
      refine ⟨same, ?_⟩
      rw [List.append_assoc]
      exact List.rel_append covered (List.rel_append (covers_self ended) covers)
  | case3 journal posting prompt line _ first middle served later last rest
      inductionHypothesis =>
      have still : middle.Healthy := by
        have kept := healthy.serve posting
        rwa [served] at kept
      obtain ⟨same, covers⟩ := inductionHypothesis still
      rw [rest] at same covers
      simp only [List.map_cons, Journal.serveAll, served]
      exact ⟨same, List.Forall₂.cons (Sending.Covers.refl first) covers⟩

/-- An append is answered when the file holds all that came before it and its own frame. -/
theorem flushed_serveLine (healthy : journal.Healthy) (front back : List Arrival)
    (receiver : Nat) (event : Event) (prompt : Bool) :
    ∃ sending,
      (journal.serveLine (front ++ ⟨⟨receiver, .append event⟩, prompt⟩ :: back)).1[front.length]? =
        some sending ∧
      sending.receiver = receiver ∧ sending.reply = .done (.ok ()) ∧
      (journal.serveAll (front.map Arrival.posting)).2.tail.stream ++ frame event <+:
        sending.log.tail.file.bytes.data.toList := by
  have length : (journal.serveAll (front.map Arrival.posting)).1.length = front.length := by
    rw [length_serveAll, List.length_map]
  obtain ⟨_, covers⟩ :=
    journal.covers_serveLine healthy (front ++ ⟨⟨receiver, .append event⟩, prompt⟩ :: back)
  have behind := List.forall₂_drop front.length covers
  rw [List.map_append, List.map_cons, serveAll_append, Journal.serveAll,
    serve_append (healthy.serveAll (front.map Arrival.posting))] at behind
  simp only at behind
  rw [← length, List.drop_left, length, List.forall₂_cons_left_iff] at behind
  obtain ⟨sending, others, covered, _, dropped⟩ := behind
  refine ⟨sending, ?_, covered.receiver, covered.reply, ?_⟩
  · rw [← Nat.add_zero front.length, ← List.getElem?_drop, dropped]
    rfl
  · have grown := covered.grown
    rw [File.Grows, bytes_committed, frames_cons, frames_nil, List.append_nil] at grown
    exact grown

end Journal

/-- However a line is cut into batches, and whatever orders end them, the log ends up as if
every order had been carried out alone, in the order of the line. Every order gets one
answer, the same as alone, and an append is answered only when the file holds its frame
behind all that was written before it. -/
theorem serveLine_agrees {journal : Journal} (healthy : journal.Healthy) (line : List Arrival) :
    (journal.serveLine line).2 = (journal.serveAll (line.map Arrival.posting)).2 ∧
      (journal.serveLine line).1.map (fun sending => (sending.receiver, sending.reply)) =
        (journal.serveAll (line.map Arrival.posting)).1.map
          (fun sending => (sending.receiver, sending.reply)) ∧
      (journal.serveLine line).1.map Sending.receiver =
        line.map (fun arrival => arrival.posting.receiver) ∧
      ∀ front receiver event prompt back,
        line = front ++ ⟨⟨receiver, .append event⟩, prompt⟩ :: back →
        ∃ sending, (journal.serveLine line).1[front.length]? = some sending ∧
          sending.receiver = receiver ∧ sending.reply = .done (.ok ()) ∧
          (journal.serveAll (front.map Arrival.posting)).2.tail.stream ++ frame event <+:
            sending.log.tail.file.bytes.data.toList := by
  obtain ⟨same, covers⟩ := journal.covers_serveLine healthy line
  have answers : (journal.serveLine line).1.map (fun sending => (sending.receiver, sending.reply)) =
      (journal.serveAll (line.map Arrival.posting)).1.map
        (fun sending => (sending.receiver, sending.reply)) := by
    have pairs := List.forall₂_map_left_iff.mpr (List.forall₂_map_right_iff.mpr
      (covers.imp fun alone together covered =>
        (Prod.ext covered.receiver covered.reply :
          (together.receiver, together.reply) = (alone.receiver, alone.reply)).symm))
    rw [List.forall₂_eq_eq_eq] at pairs
    exact pairs.symm
  refine ⟨same, answers, ?_, ?_⟩
  · have receivers := congrArg (List.map Prod.fst) answers
    rw [List.map_map, List.map_map] at receivers
    exact receivers.trans ((journal.receivers_serveAll _).trans (List.map_map ..))
  · intro front receiver event prompt back split
    rw [split]
    exact journal.flushed_serveLine healthy front back receiver event prompt

/-- A compaction ends a batch of two appends and the count comes late. -/
theorem serveLine_agrees_compacted :
    let journal : Journal := ⟨⟨{}, .empty⟩, 0, .absent⟩
    let first : Event := .deleted (.ofNat 1) (.ofNat 7)
    let second : Event := .deleted (.ofNat 2) (.ofNat 7)
    let line : List Arrival :=
      [⟨⟨10, .append first⟩, false⟩, ⟨⟨11, .append second⟩, true⟩, ⟨⟨12, .compact [second]⟩, true⟩,
        ⟨⟨13, .countAppends⟩, false⟩]
    journal.Healthy ∧
      (journal.serveLine line).2 = (journal.serveAll (line.map Arrival.posting)).2 ∧
      (journal.serveLine line).1.map (fun sending => (sending.receiver, sending.reply)) =
        (journal.serveAll (line.map Arrival.posting)).1.map
          (fun sending => (sending.receiver, sending.reply)) ∧
      (journal.serveLine line).1.map Sending.receiver = [10, 11, 12, 13] ∧
      ∃ sending, (journal.serveLine line).1[1]? = some sending ∧
        sending.receiver = 11 ∧ sending.reply = .done (.ok ()) ∧
        (journal.serveAll [⟨10, .append first⟩]).2.tail.stream ++ frame second <+:
          sending.log.tail.file.bytes.data.toList := by
  intro journal first second line
  have healthy : journal.Healthy := ⟨rfl, rfl⟩
  obtain ⟨same, answers, receivers, flushed⟩ := serveLine_agrees healthy line
  exact ⟨healthy, same, answers, receivers,
    flushed [⟨⟨10, .append first⟩, false⟩] 11 second true _ rfl⟩

end Reservations.Log
