import Reservations.Command
import Reservations.Proofs.Placeholder
import Reservations.Proofs.Sql.Text
import Reservations.Proofs.Text.Integer
import Reservations.Proofs.Ulid.Crockford

namespace Reservations

/-! ## Values in commands

Values that are written into the places of a statement end up in its command as they
are, and they never make another command of it. -/

namespace Command

open Sql

/-! ### What values denote -/

theorem textOf_ofText? (value : Option String) :
    textOf (Value.ofText? value).expr = .ok (value.getD "") := by
  cases value <;> rfl

theorem instantOf_ofText? (value : Option Instant) :
    instantOf (Value.ofText? (value.map integerText)).expr = .ok value := by
  cases value with
  | none => rfl
  | some instant =>
      simp only [Option.map_some, Value.ofText?, Value.expr, instantOf, instantOfText,
        Calendar.readInstant_integerText]
      rfl

theorem idOfText_toText (id : Ulid) : idOfText id.toText = .ok id := by
  have found : Ulid.ofText? id.toText = some id := by
    rw [Ulid.ofText?, Ulid.ofCrockford?_toText]
    rfl
  rw [idOfText, found]

/-! ### Commands of statements -/

theorem checkTable_reservationsTable : checkTable [reservationsTable.ident] = .ok () := by
  decide +kernel

/-- Each value of a full row is read for its own column, from left to right. -/
theorem requestOf_insertColumns (resource name email start stop : Expr) :
    requestOf insertColumns [resource, name, email, start, stop] = (do
      let resource ← idOf resource
      let name ← textOf name
      let email ← textOf email
      let start ← instantOf start
      let stop ← instantOf stop
      Except.ok ⟨resource, ⟨name, email⟩, start, stop⟩) := by
  simp [requestOf, insertColumns, Draft.set, Draft.request]

theorem ofStatement_booking
    (resource : String) (name email : Option String) (start stop : Option Instant)
    (source : String) :
    ofStatement ((bookingPhrase (some resource)
        [name, email, start.map integerText, stop.map integerText]).statement source) =
      (idOfText resource).map fun resource =>
        .book ⟨resource, ⟨name.getD "", email.getD ""⟩, start, stop⟩ := by
  have columns : (bookedNames.map Name.ident).map key = insertColumns := by decide +kernel
  have id : idOf (Value.ofText? (some resource)).expr = idOfText resource := rfl
  simp only [ofStatement, bookingPhrase, Phrase.statement, List.map_cons, List.map_nil]
  simp only [ofInsertion, checkTable_reservationsTable, Option.map_some, columns, ite_self,
    requestOf_insertColumns, id, textOf_ofText?, instantOf_ofText?]
  -- Only the identifier can still be refused.
  cases idOfText resource <;> rfl

theorem equation?_id (text : String) :
    equation? (Phrase.filter (.word "id" (some .idle)) text) =
      some (.id, .literal (.text text)) := by
  have column : filterColumn? (.name [⟨"id", none⟩]) = some .id := by decide +kernel
  rw [Phrase.filter, equation?, Name.ident, column]
  rfl

theorem equation?_resource (text : String) :
    equation? (Phrase.filter (.word "resource_id" none) text) =
      some (.resource, .literal (.text text)) := by
  have column : filterColumn? (.name [⟨"resource_id", none⟩]) = some .resource := by
    decide +kernel
  rw [Phrase.filter, equation?, Name.ident, column]
  rfl

theorem ofStatement_removal (text source : String) :
    ofStatement ((Phrase.deletion reservationsTable (.word "id" (some .idle)) text).statement
        source) =
      (idOfText text).map remove := by
  simp only [ofStatement, Phrase.statement, ofDeletion, checkRelation,
    checkTable_reservationsTable, Option.bind_some, equation?_id]
  change (do Except.ok (remove (← idOfText text))) = _
  cases idOfText text <;> rfl

theorem ofStatement_finding (text source : String) :
    ofStatement ((Phrase.filtered reservationsTable (.word "id" (some .idle)) text).statement
        source) =
      (idOfText text).map find := by
  simp only [ofStatement, Phrase.statement, ofQuery, checkRelation,
    checkTable_reservationsTable, equation?_id]
  change (do Except.ok (find (← idOfText text))) = _
  cases idOfText text <;> rfl

theorem ofStatement_listing (text source : String) :
    ofStatement ((Phrase.filtered reservationsTable (.word "resource_id" none) text).statement
        source) =
      (idOfText text).map fun resource => list (some resource) := by
  simp only [ofStatement, Phrase.statement, ofQuery, checkRelation,
    checkTable_reservationsTable, equation?_resource]
  change (do Except.ok (list (some (← idOfText text)))) = _
  cases idOfText text <;> rfl

/-! ### Statements with places -/

/-- The statement that books a reservation, up to its first place. -/
def bookingHead : String :=
  "INSERT INTO reservations (resource_id, customer_name, customer_email, start, \"end\") VALUES ("

/-- The statement that books a reservation. -/
def bookingText : String :=
  bookingHead ++ "$1, $2, $3, $4, $5)"

/-- The statement that removes a reservation. -/
def removalText : String :=
  "DELETE FROM reservations WHERE id = $1"

/-- The statement that finds a reservation. -/
def findingText : String :=
  "SELECT * FROM reservations WHERE id = $1"

/-- The statement that lists the reservations of a resource. -/
def listingText : String :=
  "SELECT * FROM reservations WHERE resource_id = $1"

theorem written_insertionHead : written insertionHead = bookingHead.toList := by
  simp [bookingHead, insertionHead, written, Lexeme.chars, Mark.text, Text.doubled]

/-- The stretches of the statement that books. -/
def bookingStretches : List Stretch :=
  ⟨written insertionHead, ['1']⟩ :: ['2', '3', '4', '5'].map fun digit => ⟨[',', ' '], [digit]⟩

theorem toList_bookingText :
    bookingText.toList = bookingStretches.flatMap Stretch.chars ++ [')'] := by
  simp [bookingText, bookingStretches, written_insertionHead, Stretch.chars]

theorem arePlain_bookingStretches : arePlain bookingStretches [')'] = true := by
  simp only [bookingStretches, written_insertionHead]
  decide

theorem toList_booking (resource name email start stop : Option String) :
    (inlineParameters bookingText ([resource, name, email, start, stop].map .ofText?)).toList =
      written (insertionLexemes resource [name, email, start, stop]) := by
  have filled : bookingStretches.flatMap
        (Stretch.filled ([resource, name, email, start, stop].map .ofText?)) =
      written insertionHead ++ (Parameter.ofText? resource).render ++
        [name, email, start, stop].flatMap fun value =>
          [',', ' '] ++ (Parameter.ofText? value).render := by
    simp only [bookingStretches, List.map_cons, List.map_nil, List.flatMap_cons, List.flatMap_nil,
      Stretch.filled, List.append_assoc]
    -- Each place has a single digit, and the value that it counts to is looked up.
    rfl
  rw [toList_inlineParameters toList_bookingText arePlain_bookingStretches, filled]
  simp [Parameter.render_ofText?, insertionLexemes, insertionTail, written, Lexeme.chars,
    Mark.text]

/-- A statement that asks for reservations by the value of a column. -/
theorem toList_filter
    {statement head : String} {first : List Lexeme} {column : String}
    (begins : written (filterHead first column) = head.toList)
    (split : statement.toList = head.toList ++ ['$', '1'])
    (plain : Stretch.isPlain head.toList = true) (text : String) :
    (inlineParameters statement [.ofText? (some text)]).toList =
      written (filterLexemes first column text) := by
  rw [toList_inlineParameters_single split plain, ← begins]
  simp [filterLexemes, written]

/-! ### Commands of texts -/

/-- The command of a text with a single phrase in it is that of the phrase. -/
theorem ofText_phrase
    {text : String} {lexemes : List Lexeme} {phrase : Phrase} (plain : phrase.IsPlain)
    (chars : text.toList = written lexemes) (apart : areApart lexemes = true)
    (same : tokens lexemes = phrase.tokens capitals []) :
    ∃ source, ofText text = ofStatement (phrase.statement source) := by
  have scanned : scan? text.toList = some (phrase.tokens capitals []) := by
    rw [chars, scan?_written apart, same]
  have alone : IsTextOf ⟨phrase, capitals⟩ [] text :=
    ⟨List.forall_mem_singleton.mpr plain, [], .inl rfl, scanned⟩
  obtain ⟨statements, read, readsAs⟩ := statements?_of_isTextOf alone
  obtain _ | ⟨⟨source, rfl⟩, ⟨⟩⟩ := readsAs
  exact ⟨source, by rw [ofText, read]⟩

theorem isPlain_reservationsTable : reservationsTable.IsPlain :=
  .word "reservations"

theorem ofText_booking
    (resource : String) (name email : Option String) (start stop : Option Instant) :
    ofText (inlineParameters bookingText
        ([some resource, name, email, start.map integerText, stop.map integerText].map .ofText?)) =
      (idOfText resource).map fun resource =>
        book ⟨resource, ⟨name.getD "", email.getD ""⟩, start, stop⟩ := by
  let others := [name, email, start.map integerText, stop.map integerText]
  have plain : (bookingPhrase (some resource) others).IsPlain :=
    ⟨isPlain_reservationsTable, by decide⟩
  obtain ⟨source, read⟩ := ofText_phrase plain
    (toList_booking (some resource) name email (start.map integerText) (stop.map integerText))
    (areApart_insertionLexemes (some resource) others)
    (tokens_insertionLexemes (some resource) others)
  rw [read]
  exact ofStatement_booking resource name email start stop source

theorem ofText_removal (text : String) :
    ofText (inlineParameters removalText [.ofText? (some text)]) = (idOfText text).map remove := by
  have begins : written (filterHead [.word "DELETE"] "id") =
      "DELETE FROM reservations WHERE id = ".toList := by
    simp [filterHead, written, Lexeme.chars]
  have split : removalText.toList =
      "DELETE FROM reservations WHERE id = ".toList ++ ['$', '1'] := by
    simp [removalText]
  have id : wordToken "id" = .word "id" (some .idle) := by simp only [wordToken_words]
  have plain : (Phrase.deletion reservationsTable (.word "id" (some .idle)) text).IsPlain :=
    ⟨isPlain_reservationsTable, .idle "id"⟩
  obtain ⟨source, read⟩ := ofText_phrase plain
    (toList_filter begins split (by decide) text) (areApart_filterLexemes (by decide) text)
    (tokens_deletionLexemes id text)
  rw [read]
  exact ofStatement_removal text source

theorem ofText_finding (text : String) :
    ofText (inlineParameters findingText [.ofText? (some text)]) = (idOfText text).map find := by
  have begins : written (filterHead [.word "SELECT", .blank, .operator '*'] "id") =
      "SELECT * FROM reservations WHERE id = ".toList := by
    simp [filterHead, written, Lexeme.chars]
  have split : findingText.toList =
      "SELECT * FROM reservations WHERE id = ".toList ++ ['$', '1'] := by
    simp [findingText]
  have id : wordToken "id" = .word "id" (some .idle) := by simp only [wordToken_words]
  have plain : (Phrase.filtered reservationsTable (.word "id" (some .idle)) text).IsPlain :=
    ⟨isPlain_reservationsTable, .idle "id"⟩
  obtain ⟨source, read⟩ := ofText_phrase plain
    (toList_filter begins split (by decide) text) (areApart_filterLexemes (by decide) text)
    (tokens_selectionLexemes id text)
  rw [read]
  exact ofStatement_finding text source

theorem ofText_listing (text : String) :
    ofText (inlineParameters listingText [.ofText? (some text)]) =
      (idOfText text).map fun resource => list (some resource) := by
  have begins : written (filterHead [.word "SELECT", .blank, .operator '*'] "resource_id") =
      "SELECT * FROM reservations WHERE resource_id = ".toList := by
    simp [filterHead, written, Lexeme.chars]
  have split : listingText.toList =
      "SELECT * FROM reservations WHERE resource_id = ".toList ++ ['$', '1'] := by
    simp [listingText]
  have column : wordToken "resource_id" = .word "resource_id" none := by
    simp only [wordToken_words]
  have plain : (Phrase.filtered reservationsTable (.word "resource_id" none) text).IsPlain :=
    ⟨isPlain_reservationsTable, .word "resource_id"⟩
  obtain ⟨source, read⟩ := ofText_phrase plain
    (toList_filter begins split (by decide) text) (areApart_filterLexemes (by decide) text)
    (tokens_selectionLexemes column text)
  rw [read]
  exact ofStatement_listing text source

/-- Whatever the values are, the command is the one that the statement is for: a booking holds
each of them as it is, and the others are about the identifier that their text denotes. -/
theorem ofText_inlineParameters :
    (∀ (resource : Ulid) (name email : Option String) (start stop : Option Instant),
      ofText (inlineParameters bookingText
          ([some resource.toText, name, email, start.map integerText, stop.map integerText].map
            .ofText?)) =
        .ok (book ⟨resource, ⟨name.getD "", email.getD ""⟩, start, stop⟩)) ∧
      ∀ text : String,
        ofText (inlineParameters removalText [.ofText? (some text)]) =
          (idOfText text).map remove ∧
        ofText (inlineParameters findingText [.ofText? (some text)]) =
          (idOfText text).map find ∧
        ofText (inlineParameters listingText [.ofText? (some text)]) =
          (idOfText text).map fun resource => list (some resource) := by
  refine ⟨fun resource name email start stop => ?_, fun text => ?_⟩
  · rw [ofText_booking, idOfText_toText]
    rfl
  · exact ⟨ofText_removal text, ofText_finding text, ofText_listing text⟩

end Command

end Reservations
