import Reservations.Proofs.Ledger.Rebuild

namespace Reservations.Ledger

/-! ## Histories

A ledger has a history when applying the events from the start leads to the same
reservations, and when a log that breaks off early would still lead to a sound
ledger. Nothing is checked when events are applied: it is the checks made before
they were written that show here. -/

structure History (ledger : Ledger) (events : List Event) : Prop where
  fronts : ∀ front, front <+: events → (empty.applyAll front).Sound
  alike : (empty.applyAll events).Alike ledger
  sound : ledger.Sound

theorem applyAll_concat (ledger : Ledger) (events : List Event) (event : Event) :
    ledger.applyAll (events ++ [event]) = (ledger.applyAll events).apply event := by
  rw [applyAll_append]
  rfl

theorem mem_book_applyAll
    {ledger : Ledger} {events : List Event} {resource : Ulid} {r : Reservation}
    (member : r ∈ ((ledger.applyAll events).book resource).toList) :
    r ∈ (ledger.book resource).toList ∨ .created r ∈ events := by
  induction events using List.reverseRecOn with
  | nil => exact Or.inl member
  | append_singleton events event inductionHypothesis =>
      rw [applyAll_concat] at member
      have earlier :
          r ∈ ((ledger.applyAll events).book resource).toList →
            r ∈ (ledger.book resource).toList ∨ .created r ∈ events ++ [event] := by
        intro before
        rcases inductionHypothesis before with initial | written
        · exact Or.inl initial
        · exact Or.inr (List.mem_append_left _ written)
      cases event with
      | created added =>
          rw [book_apply_created] at member
          split at member
          · rcases (Book.mem_toList_insert _ _ _).mp member with rfl | before
            · exact Or.inr (List.mem_append_right _ List.mem_cons_self)
            · exact earlier before
          · exact earlier member
      | deleted id removed =>
          rw [book_apply_deleted] at member
          split at member
          · rw [Book.toList_erase] at member
            exact earlier (List.eraseP_sublist.subset member)
          · exact earlier member

namespace History

variable {ledger other : Ledger} {events : List Event}

theorem nil : empty.History [] where
  fronts front start := by
    rw [List.prefix_nil.mp start]
    exact sound_empty
  alike := Alike.refl empty
  sound := sound_empty

theorem of_same (same : ledger.Same other) (history : other.History events) :
    ledger.History events where
  fronts := history.fronts
  alike := history.alike.trans same.symm.alike
  sound := same.sound history.sound

theorem all_sound (history : ledger.History events) : (empty.applyAll events).Sound :=
  history.fronts events (List.prefix_refl events)

/-- An event that keeps both ledgers sound and alike goes into the history. -/
theorem concat
    (history : ledger.History events) {event : Event}
    (replayed : ((empty.applyAll events).apply event).Sound)
    (alike : ((empty.applyAll events).apply event).Alike (ledger.apply event))
    (sound : (ledger.apply event).Sound) :
    (ledger.apply event).History (events ++ [event]) where
  fronts front start := by
    rcases List.prefix_concat_iff.mp start with rfl | earlier
    · rw [applyAll_concat]
      exact replayed
    · exact history.fronts front earlier
  alike := by
    rw [applyAll_concat]
    exact alike
  sound := sound

theorem created
    (history : ledger.History events) {reservation : Reservation}
    (admits : ledger.Admits reservation) :
    (ledger.apply (.created reservation)).History (events ++ [.created reservation]) :=
  history.concat
    (history.all_sound.apply_created (history.alike.symm.admits admits))
    (history.alike.apply_created reservation)
    (history.sound.apply_created admits)

theorem deleted
    (history : ledger.History events) {id resource : Ulid}
    (home : ledger.homeOf? id = some resource) :
    (ledger.apply (.deleted id resource)).History (events ++ [.deleted id resource]) := by
  have replayedHome : (empty.applyAll events).homeOf? id = some resource := by
    rw [history.alike.homes, home]
  exact history.concat
    (history.all_sound.apply_deleted replayedHome)
    (history.alike.apply_deleted history.all_sound history.sound id resource)
    (history.sound.apply_deleted home)

/-- A log that breaks off early has a history of its own. -/
theorem front
    (history : ledger.History events) {front : List Event} (start : front <+: events) :
    (empty.applyAll front).History front where
  fronts earlier shorter := history.fronts earlier (shorter.trans start)
  alike := Alike.refl _
  sound := history.fronts front start

/-- One creation for each reservation is a history too. -/
theorem rebuilt (sound : ledger.Sound) :
    ledger.History ((ledger.list none).map Event.created) where
  fronts front start := by
    obtain ⟨entries, early, rfl⟩ := List.prefix_map_iff.mp start
    exact (sound_ofCreations (sound.consistent_list_none.sublist early.sublist)).1
  alike := sound.alike_ofCreations
  sound := sound

/-- Whatever the ledger holds was created in its history. -/
theorem created_of_listed
    (history : ledger.History events) {r : Reservation} (listed : r ∈ ledger.list none) :
    .created r ∈ events := by
  rw [history.sound.mem_list_none_iff, ← (history.alike.books _).mem_iff] at listed
  rcases mem_book_applyAll listed with initial | written
  · simp [Book.empty, Book.toList] at initial
  · exact written

/-- So the creations that a compacted log consists of are nothing new. -/
theorem kind_creations
    (history : ledger.History events) {Kind : Event → Prop} (kind : ∀ event ∈ events, Kind event) :
    ∀ event ∈ (ledger.list none).map Event.created, Kind event := by
  intro event member
  obtain ⟨r, listed, rfl⟩ := List.mem_map.mp member
  exact kind _ (history.created_of_listed listed)

end History

end Reservations.Ledger
