import Reservations.Catalog.Http

namespace Reservations.Catalog

/-! ## Framings of a body

How the end of a body is marked, and in which pieces the body comes, makes no difference
to what is learnt from an answer, as long as the body comes to its end. -/

/-- The answer has a body, and is no reference to another place. -/
def CarriesBody (status : Nat) : Prop :=
  200 ≤ status ∧ status ≠ 204 ∧ ¬ (300 ≤ status ∧ status < 400)

instance (status : Nat) : Decidable (CarriesBody status) :=
  inferInstanceAs (Decidable (_ ∧ _ ∧ _))

/-- A framing that says where a body really ends. -/
inductive Frames (body : List UInt8) : Framing → Prop
  | length : Frames body (.length body.length)
  | untilClose : Frames body .untilClose
  | chunked {size : Nat} (positive : 1 ≤ size) : Frames body (.chunked size)

/-- A whole body comes, cut into pieces anywhere. -/
structure Delivery.Brings (delivery : Delivery) (body : List UInt8) : Prop where
  whole : delivery.pieces.flatten = body
  complete : delivery.ending = .complete

/-- What may come of a look-up when a status and a whole body are sent. -/
inductive ComesOf (status : Nat) (body : List UInt8) : Except LookupFailure Resource → Prop
  | delivered {framing : Framing} {delivery : Delivery} (frames : Frames body framing)
      (brings : delivery.Brings body) :
      ComesOf status body ((Reply.mk status framing body).resourceFrom delivery)

/-- What failures are told apart by: the label, and the code of a status. -/
def LookupFailure.gist (failure : LookupFailure) : String × Option Nat :=
  match failure with
  | status code => (failure.label, some code)
  | _ => (failure.label, none)

/-- What a body that is read to its end comes to. -/
def decoded (body : List UInt8) : Except LookupFailure Resource :=
  match decode? body with
  | some resource => .ok resource
  | none => .error (.malformed .undecodable)

/-! ### Pieces -/

section Gather

variable {length : Nat} {pieces : List (List UInt8)}

theorem gather_of_le
    (before : List (List UInt8)) (within : length + pieces.flatten.length ≤ Limits.bodyBytes) :
    gather length before pieces = .ok (before.reverse ++ pieces) := by
  induction pieces generalizing length before with
  | nil => rw [gather, List.append_nil]
  | cons piece pieces inductionHypothesis =>
      rw [List.flatten_cons, List.length_append, ← Nat.add_assoc] at within
      have small : ¬ Limits.bodyBytes < length + piece.length := by omega
      rw [gather, if_neg small, inductionHypothesis (piece :: before) within,
        List.reverse_cons, List.append_assoc]
      rfl

/-- What is too long is refused at the piece that goes beyond the limit. -/
theorem gather_of_lt
    (before : List (List UInt8)) (started : length ≤ Limits.bodyBytes)
    (beyond : Limits.bodyBytes < length + pieces.flatten.length) :
    ∃ bytes, gather length before pieces = .error (.malformed (.oversized bytes)) ∧
      Limits.bodyBytes < bytes ∧ bytes ≤ length + pieces.flatten.length := by
  induction pieces generalizing length before with
  | nil =>
      rw [List.flatten_nil, List.length_nil] at beyond
      omega
  | cons piece pieces inductionHypothesis =>
      rw [List.flatten_cons, List.length_append, ← Nat.add_assoc] at beyond ⊢
      by_cases here : Limits.bodyBytes < length + piece.length
      · exact ⟨length + piece.length, if_pos here, here, Nat.le_add_right _ _⟩
      · obtain ⟨bytes, refused, bounds⟩ :=
          inductionHypothesis (piece :: before) (Nat.not_lt.mp here) beyond
        exact ⟨bytes, (if_neg here).trans refused, bounds⟩

end Gather

section Read

variable {delivery : Delivery} {body : List UInt8} (brings : delivery.Brings body)
include brings

theorem Delivery.read_of_le (within : body.length ≤ Limits.bodyBytes) :
    delivery.read = .ok body := by
  have gathered : gather 0 [] delivery.pieces = .ok delivery.pieces := by
    refine gather_of_le [] ?_
    rw [Nat.zero_add, brings.whole]
    exact within
  simp only [read, gathered, brings.complete, brings.whole]

theorem Delivery.read_of_lt (beyond : Limits.bodyBytes < body.length) :
    ∃ bytes, delivery.read = .error (.malformed (.oversized bytes)) ∧
      Limits.bodyBytes < bytes ∧ bytes ≤ body.length := by
  have tooLong : Limits.bodyBytes < 0 + delivery.pieces.flatten.length := by
    rw [Nat.zero_add, brings.whole]
    exact beyond
  obtain ⟨bytes, refused, bounds⟩ := gather_of_lt [] (Nat.zero_le _) tooLong
  rw [Nat.zero_add, brings.whole] at bounds
  exact ⟨bytes, by simp only [read, refused], bounds⟩

end Read

/-! ### Chunks -/

theorem flatten_chunksOf {size : Nat} (positive : 1 ≤ size) {fuel : Nat} {bytes : List UInt8}
    (enough : bytes.length ≤ fuel) : (chunksOf size fuel bytes).flatten = bytes := by
  induction fuel generalizing bytes with
  | zero =>
      rw [List.eq_nil_of_length_eq_zero (Nat.le_zero.mp enough)]
      rfl
  | succ fuel inductionHypothesis =>
      cases bytes with
      | nil => rfl
      | cons byte bytes =>
          have fewer : ((byte :: bytes).drop size).length ≤ fuel := by
            rw [List.length_drop, List.length_cons] at *
            omega
          rw [chunksOf, List.flatten_cons, inductionHypothesis fewer, List.take_append_drop]
          exact List.cons_ne_nil _ _

/-- An answer with a body is delivered whole, unless the end of the body is the end of a
connection that stays open. -/
theorem Reply.brings_delivery
    {status : Nat} {framing : Framing} {body : List UInt8} {staysOpen : Bool}
    (carries : CarriesBody status) (frames : Frames body framing)
    (ends : framing = .untilClose → staysOpen = false) :
    ((Reply.mk status framing body).delivery staysOpen).Brings body := by
  obtain ⟨_, notEmpty, notElsewhere⟩ := carries
  have bodied : bodiless status = false := by
    rw [bodiless, Bool.or_eq_false_iff, decide_eq_false_iff_not, decide_eq_false_iff_not]
    omega
  cases frames with
  | length =>
      simp only [delivery, bodied, Bool.false_eq_true, if_false, Nat.le_refl, if_true]
      exact ⟨by simp, rfl⟩
  | untilClose =>
      simp only [delivery, bodied, ends rfl, Bool.false_eq_true, if_false]
      exact ⟨by simp, rfl⟩
  | chunked positive =>
      simp only [delivery, bodied, Bool.false_eq_true, if_false]
      exact ⟨flatten_chunksOf (Nat.le_max_right _ _) (Nat.le_refl _), rfl⟩

/-! ### Answers -/

theorem declared?_of_frames (status : Nat) {framing : Framing} {body : List UInt8}
    (frames : Frames body framing) :
    (Reply.mk status framing body).declared? = none ∨
      (Reply.mk status framing body).declared? = some body.length := by
  cases frames with
  | length =>
      simp only [Reply.declared?]
      split
      · exact Or.inl rfl
      · exact Or.inr rfl
  | untilClose => exact Or.inl rfl
  | chunked positive => exact Or.inl rfl

namespace ComesOf

variable {status : Nat} {body : List UInt8} {outcome : Except LookupFailure Resource}

theorem of_notFound (comes : ComesOf 404 body outcome) : outcome = .error .notFound := by
  cases comes with
  | delivered frames brings => exact if_pos rfl

theorem of_failed (comes : ComesOf status body outcome) (other : status ≠ 404)
    (failed : status < 200 ∨ 300 ≤ status) : outcome = .error (.status status) := by
  cases comes with
  | delivered frames brings =>
      rw [Reply.resourceFrom, if_neg other, if_pos failed]

section Succeeded

variable (comes : ComesOf status body outcome) (least : 200 ≤ status) (most : status < 300)
include comes least most

/-- A body within the limit is decoded as a whole. -/
theorem of_le (within : body.length ≤ Limits.bodyBytes) :
    outcome = decoded body := by
  cases comes with
  | @delivered framing delivery frames brings =>
      have other : status ≠ 404 := by omega
      have succeeded : ¬ (status < 200 ∨ 300 ≤ status) := by omega
      have allowed : (Reply.mk status framing body).declared?.filter
          (fun declared => Limits.bodyBytes < declared) = none := by
        rcases declared?_of_frames status frames with undeclared | declared
        · rw [undeclared, Option.filter_none]
        · rw [declared, Option.filter_some_neg]
          simpa using within
      simp only [Reply.resourceFrom, other, succeeded, allowed, if_false,
        Delivery.read_of_le brings within]
      rfl

/-- A longer one is refused for its length, whatever it begins with. -/
theorem of_lt (beyond : Limits.bodyBytes < body.length) :
    ∃ bytes, outcome = .error (.malformed (.oversized bytes)) ∧
      Limits.bodyBytes < bytes ∧ bytes ≤ body.length := by
  cases comes with
  | @delivered framing delivery frames brings =>
      have other : status ≠ 404 := by omega
      have succeeded : ¬ (status < 200 ∨ 300 ≤ status) := by omega
      rcases declared?_of_frames status frames with undeclared | declared
      · obtain ⟨bytes, refused, bounds⟩ := Delivery.read_of_lt brings beyond
        refine ⟨bytes, ?_, bounds⟩
        simp only [Reply.resourceFrom, other, succeeded, undeclared, refused, if_false,
          Option.filter_none]
      · refine ⟨body.length, ?_, beyond, Nat.le_refl _⟩
        have refused : (some body.length).filter (fun declared => Limits.bodyBytes < declared) =
            some body.length := Option.filter_some_pos (by simpa using beyond)
        simp only [Reply.resourceFrom, other, succeeded, declared, refused, if_false]

end Succeeded

/-- The same status and body always come to the same. -/
theorem gist_eq {other : Except LookupFailure Resource}
    (comes : ComesOf status body outcome) (otherComes : ComesOf status body other) :
    outcome.mapError LookupFailure.gist = other.mapError LookupFailure.gist := by
  by_cases notFound : status = 404
  · subst notFound
    rw [comes.of_notFound, otherComes.of_notFound]
  · by_cases failed : status < 200 ∨ 300 ≤ status
    · rw [comes.of_failed notFound failed, otherComes.of_failed notFound failed]
    · rw [not_or, Nat.not_lt, Nat.not_le] at failed
      obtain ⟨least, most⟩ := failed
      by_cases within : body.length ≤ Limits.bodyBytes
      · rw [comes.of_le least most within, otherComes.of_le least most within]
      · rw [Nat.not_le] at within
        obtain ⟨bytes, refused, _⟩ := comes.of_lt least most within
        obtain ⟨otherBytes, otherRefused, _⟩ := otherComes.of_lt least most within
        rw [refused, otherRefused]
        rfl

/-- A server that sends the answer in a framing brings the look-up to it. -/
theorem lookup {framing : Framing} {staysOpen : Bool} (carries : CarriesBody status)
    (frames : Frames body framing) (ends : framing = .untilClose → staysOpen = false) :
    ComesOf status body (Server.replies ⟨status, framing, body⟩ staysOpen).lookup := by
  have final : ¬ (100 ≤ status ∧ status < 200 ∧ status ≠ 101) := by
    have least := carries.1
    omega
  rw [Server.lookup, if_neg final]
  exact delivered frames (Reply.brings_delivery carries frames ends)

end ComesOf

/-- However a body is framed and cut into pieces, the same comes of the answer: the same
resource, or failures that are not told apart. A body within the limit is decoded as a
whole, a longer one never. -/
theorem framings_agree {status : Nat} (carries : CarriesBody status) (body : List UInt8) :
    (∀ framing staysOpen, Frames body framing → (framing = .untilClose → staysOpen = false) →
      ComesOf status body (Server.replies ⟨status, framing, body⟩ staysOpen).lookup) ∧
    (∀ left right, ComesOf status body left → ComesOf status body right →
      left.mapError LookupFailure.gist = right.mapError LookupFailure.gist) ∧
    (status < 300 → ∀ outcome, ComesOf status body outcome →
      (body.length ≤ 1048576 → outcome = decoded body) ∧
      (1048576 < body.length → ∃ bytes, outcome = .error (.malformed (.oversized bytes)) ∧
        1048576 < bytes ∧ bytes ≤ body.length)) := by
  refine ⟨fun framing staysOpen frames ends => .lookup carries frames ends,
    fun left right comes otherComes => comes.gist_eq otherComes, ?_⟩
  intro most outcome comes
  exact ⟨comes.of_le carries.1 most, comes.of_lt carries.1 most⟩

/-- One blank beyond the limit is too much for every framing. -/
theorem framings_agree_blanks :
    CarriesBody 200 ∧ Frames (List.replicate 1048577 0x20) (.chunked 7) ∧
      (∃ bytes,
        (Server.replies ⟨200, .chunked 7, List.replicate 1048577 0x20⟩ true).lookup =
          .error (.malformed (.oversized bytes)) ∧ 1048576 < bytes ∧ bytes ≤ 1048577) ∧
      (Server.replies ⟨200, .untilClose, List.replicate 1048576 0x20⟩ false).lookup =
        decoded (List.replicate 1048576 0x20) := by
  have carries : CarriesBody 200 := by decide
  have chunked : Frames (List.replicate 1048577 0x20) (.chunked 7) := .chunked (by decide)
  obtain ⟨comes, _, settled⟩ := framings_agree carries (List.replicate 1048577 0x20)
  obtain ⟨bytes, refused, least, most⟩ :=
    (settled (by decide) _ (comes (.chunked 7) true chunked nofun)).2
      (by rw [List.length_replicate]; decide)
  rw [List.length_replicate] at most
  obtain ⟨comes, _, settled⟩ := framings_agree carries (List.replicate 1048576 0x20)
  exact ⟨carries, chunked, ⟨bytes, refused, least, most⟩,
    (settled (by decide) _ (comes .untilClose false .untilClose fun _ => rfl)).1
      (Nat.le_of_eq List.length_replicate)⟩

end Reservations.Catalog
