import Reservations.Log.Codec
import Reservations.Proofs.Ulid.Crockford

namespace Reservations

/-- The lengths of the texts of a customer are numbers of 64 bits, as those of
all texts in memory are. -/
def Customer.Addressable (customer : Customer) : Prop :=
  customer.name.utf8ByteSize < UInt64.size ∧ customer.email.utf8ByteSize < UInt64.size

/-- An event carries no text that is too long for memory. -/
def Event.Addressable : Event → Prop
  | .created reservation => reservation.customer.Addressable
  | .deleted _ _ => True

namespace Log

variable {α β : Type}

/-! ## Reading what was written -/

/-- A reader takes exactly these bytes, whatever follows them. -/
def Reads (reader : Reader α) (bytes : List UInt8) (value : α) : Prop :=
  ∀ rest, reader.run (bytes ++ rest) = some (value, rest)

namespace Reads

theorem pure (value : α) : Reads (Pure.pure value) [] value :=
  fun _ => rfl

theorem bind
    {first : Reader α} {next : α → Reader β}
    {front back : List UInt8} {value : α} {result : β}
    (readsFront : Reads first front value) (readsBack : Reads (next value) back result) :
    Reads (first >>= next) (front ++ back) result := by
  intro rest
  rw [List.append_assoc, StateT.run_bind, readsFront]
  exact readsBack rest

/-- The last reader of a chain is followed by the result alone. -/
theorem bind_pure
    {first : Reader α} {next : α → Reader β}
    {bytes : List UInt8} {value : α} {result : β}
    (reads : Reads first bytes value) (last : next value = Pure.pure result) :
    Reads (first >>= next) bytes result := by
  have readsBack : Reads (next value) [] result := by
    rw [last]
    exact Reads.pure result
  have both := reads.bind readsBack
  rwa [List.append_nil] at both

end Reads

theorem reads_getBytes (bytes : List UInt8) : Reads (getBytes bytes.length) bytes bytes := by
  intro rest
  simp [getBytes, StateT.run]

theorem reads_getNat (count value : Nat) :
    Reads (getNat count) (bytesOfNat count value) (value % Nat.pow 256 count) := by
  have reads := reads_getBytes (bytesOfNat count value)
  rw [length_bytesOfNat] at reads
  intro rest
  rw [getNat, StateT.run_map, reads rest]
  simp [natOfBytes_bytesOfNat]

theorem reads_getNat_of_lt {count value : Nat} (fits : value < Nat.pow 256 count) :
    Reads (getNat count) (bytesOfNat count value) value := by
  have reads := reads_getNat count value
  rwa [Nat.mod_eq_of_lt fits] at reads

theorem reads_getInstant (instant : Instant) :
    Reads getInstant (putInstant instant) instant := by
  have fits : instant.toUInt64.toNat < Nat.pow 256 8 := instant.toUInt64.toNat_lt
  refine (reads_getNat_of_lt fits).bind_pure ?_
  simp

@[simp]
theorem length_bytesOfString (text : String) :
    (bytesOfString text).length = text.utf8ByteSize := by
  simp [bytesOfString]

theorem fromUTF8?_bytesOfString (text : String) :
    String.fromUTF8? ⟨(bytesOfString text).toArray⟩ = some text := by
  have same : (⟨(bytesOfString text).toArray⟩ : ByteArray) = text.toByteArray := rfl
  rw [same, String.fromUTF8?, dif_pos text.isValidUTF8]
  rfl

theorem reads_getText {text : String} (fits : text.utf8ByteSize < UInt64.size) :
    Reads getText (putText text) text := by
  have sized : text.utf8ByteSize < Nat.pow 256 8 := fits
  refine (reads_getNat_of_lt sized).bind ?_
  rw [← length_bytesOfString]
  refine (reads_getBytes (bytesOfString text)).bind_pure ?_
  rw [fromUTF8?_bytesOfString]
  rfl

theorem reads_getUlid (id : Ulid) : Reads getUlid (putText id.toText) id := by
  have fits : id.toText.utf8ByteSize < UInt64.size := by
    rw [id.utf8ByteSize_toText]
    decide
  refine (reads_getText fits).bind_pure ?_
  rw [id.ofCrockford?_toText]
  rfl

theorem reads_getStatus (status : Status) :
    Reads getStatus (putIndex (statusIndex status)) status := by
  have fits : statusIndex status < Nat.pow 256 4 := by
    cases status <;> decide
  refine (reads_getNat_of_lt fits).bind_pure ?_
  cases status <;> rfl

theorem reads_getReservation
    {reservation : Reservation} (addressable : reservation.customer.Addressable) :
    Reads getReservation (putReservation reservation) reservation := by
  unfold putReservation getReservation
  simp only [List.append_assoc]
  refine (reads_getUlid reservation.id).bind ?_
  refine (reads_getUlid reservation.resource).bind ?_
  refine (reads_getInstant reservation.span.start).bind ?_
  refine (reads_getInstant reservation.span.stop).bind ?_
  refine (reads_getStatus reservation.status).bind ?_
  refine (reads_getText addressable.1).bind ?_
  refine (reads_getText addressable.2).bind ?_
  exact (reads_getInstant reservation.createdAt).bind_pure rfl

theorem reads_getEvent {event : Event} (addressable : event.Addressable) :
    Reads getEvent (encode event) event := by
  cases event with
  | created reservation =>
      refine (reads_getNat_of_lt (by decide : 0 < Nat.pow 256 4)).bind ?_
      exact (reads_getReservation addressable).bind_pure rfl
  | deleted id resource =>
      rw [encode, List.append_assoc]
      refine (reads_getNat_of_lt (by decide : 1 < Nat.pow 256 4)).bind ?_
      refine (reads_getUlid id).bind ?_
      exact (reads_getUlid resource).bind_pure rfl

/-! ## What follows does not matter -/

/-- A reader that takes a value takes the same value when more bytes follow. -/
def Local (reader : Reader α) : Prop :=
  ∀ bytes value rest, reader.run bytes = some (value, rest) →
    ∀ more, reader.run (bytes ++ more) = some (value, rest ++ more)

namespace Local

theorem pure (value : α) : Local (Pure.pure value) := by
  intro bytes result rest taken more
  cases taken
  rfl

theorem failure : Local (Alternative.failure : Reader α) := by
  intro bytes result rest taken
  cases taken

theorem bind
    {first : Reader α} {next : α → Reader β}
    (firstLocal : Local first) (nextLocal : ∀ value, Local (next value)) :
    Local (first >>= next) := by
  intro bytes result rest taken more
  rw [StateT.run_bind] at taken ⊢
  cases read : first.run bytes with
  | none =>
      rw [read] at taken
      cases taken
  | some pair =>
      obtain ⟨value, middle⟩ := pair
      rw [read] at taken
      rw [firstLocal bytes value middle read more]
      exact nextLocal value middle result rest taken more

theorem map {reader : Reader α} (readerLocal : Local reader) (f : α → β) :
    Local (f <$> reader) := by
  rw [map_eq_pure_bind]
  exact readerLocal.bind fun value => Local.pure (f value)

theorem lift (value? : Option α) : Local (StateT.lift value? : Reader α) := by
  cases value? with
  | none => exact Local.failure
  | some value => exact Local.pure value

end Local

theorem local_getBytes (count : Nat) : Local (getBytes count) := by
  intro bytes front rest taken more
  simp only [getBytes, StateT.run] at taken ⊢
  split at taken
  · rename_i enough
    have long : count ≤ bytes.length := by
      rw [List.length_take] at enough
      omega
    cases taken
    rw [List.take_append_of_le_length long, if_pos enough, List.drop_append_of_le_length long]
  · cases taken

theorem local_getNat (count : Nat) : Local (getNat count) :=
  (local_getBytes count).map natOfBytes

theorem local_getInstant : Local getInstant :=
  (local_getNat 8).bind fun _ => Local.pure _

theorem local_getText : Local getText :=
  (local_getNat 8).bind fun count =>
    (local_getBytes count).bind fun _ => Local.lift _

theorem local_getUlid : Local getUlid :=
  local_getText.bind fun _ => Local.lift _

theorem local_getStatus : Local getStatus := by
  refine (local_getNat 4).bind fun index => ?_
  split
  · exact Local.pure _
  · exact Local.pure _
  · exact Local.pure _
  · exact Local.failure

theorem local_getReservation : Local getReservation :=
  local_getUlid.bind fun _ => local_getUlid.bind fun _ =>
  local_getInstant.bind fun _ => local_getInstant.bind fun _ =>
  local_getStatus.bind fun _ =>
  local_getText.bind fun _ => local_getText.bind fun _ =>
  local_getInstant.bind fun _ => Local.pure _

theorem local_getEvent : Local getEvent := by
  refine (local_getNat 4).bind fun index => ?_
  split
  · exact local_getReservation.bind fun _ => Local.pure _
  · exact local_getUlid.bind fun _ => local_getUlid.bind fun _ => Local.pure _
  · exact Local.failure

/-! ## Payloads -/

theorem decode?_encode {event : Event} (addressable : event.Addressable) :
    decode? (encode event) = some event := by
  have reads := reads_getEvent addressable []
  rw [List.append_nil] at reads
  rw [decode?, reads]
  rfl

/-- The front of a payload is not the payload of any event. -/
theorem decode?_take_encode
    {event : Event} (addressable : event.Addressable)
    {count : Nat} (short : count < (encode event).length) :
    decode? ((encode event).take count) = none := by
  cases read : getEvent.run ((encode event).take count) with
  | none =>
      rw [decode?, read]
      rfl
  | some pair =>
      obtain ⟨other, rest⟩ := pair
      have whole := local_getEvent _ other rest read ((encode event).drop count)
      have reads := reads_getEvent addressable []
      rw [List.take_append_drop] at whole
      rw [List.append_nil, whole, Option.some.injEq, Prod.mk.injEq,
        List.append_eq_nil_iff, List.drop_eq_nil_iff] at reads
      omega

end Log

end Reservations
