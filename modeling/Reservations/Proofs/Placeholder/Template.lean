import Reservations.Proofs.Placeholder.Occurrence

namespace Reservations

/-! ## Statements as templates

How a statement is split into texts and places depends on how many values there are, and not
on what they are. Each value goes into its places as it is. -/

/-- A place for one of some values: its number, which counts from one, behind some zeros. -/
structure Place (count : Nat) where
  zeros : Nat
  index : Fin count

namespace Place

variable {count : Nat}

/-- The number of a value, which counts from one. -/
def number (place : Place count) : Nat :=
  place.index.val + 1

/-- The digits of a place. -/
def digits (place : Place count) : List Char :=
  List.replicate place.zeros '0' ++ Nat.toDigits 10 place.number

/-- The place with some digits, if they are the number of a value. -/
def ofDigits? (count : Nat) (digits : List Char) : Option (Place count) :=
  match placeNumber? digits with
  | some (index + 1) =>
      if inside : index < count then
        some ⟨digits.length - (Nat.toDigits 10 (index + 1)).length, index, inside⟩
      else none
  | _ => none

theorem placeNumber?_digits (place : Place count) (small : place.number < Text.bound64) :
    placeNumber? place.digits = some place.number := by
  have zeros : ∀ c ∈ List.replicate place.zeros '0', Text.isDigit c = true := fun c member => by
    rw [List.eq_of_mem_replicate member]
    rfl
  have numeral : place.digits.all Text.isDigit = true :=
    List.all_eq_true.mpr (List.forall_mem_append.mpr ⟨zeros, fun _ => Text.isDigit_of_mem_toDigits⟩)
  refine (placeNumber?_eq_some_iff numeral).mpr ⟨?_, ?_, small⟩
  · exact List.append_ne_nil_of_right_ne_nil _ Nat.toDigits_ne_nil
  · rw [digits, Text.ofDigitChars_zeros_append]
    exact Nat.ofDigitChars_ten_toDigits

/-- The digits of a place are those of a number that counts to a value. -/
theorem ofDigits?_eq_some_iff
    {digits : List Char} (numeral : digits.all Text.isDigit = true) {place : Place count} :
    ofDigits? count digits = some place ↔
      place.digits = digits ∧ place.number < Text.bound64 := by
  constructor
  · intro found
    unfold ofDigits? at found
    split at found
    · rename_i index number
      split at found
      · rename_i inside
        obtain rfl := Option.some.inj found
        obtain ⟨_, denoted, small⟩ := (placeNumber?_eq_some_iff numeral).mp number
        obtain ⟨zeros, written⟩ := Text.exists_zeros_append_toDigits
          (List.all_eq_true.mp numeral) (denoted ▸ Nat.succ_pos index)
        refine ⟨?_, small⟩
        rw [denoted] at written
        have length : digits.length - (Nat.toDigits 10 (index + 1)).length = zeros := by
          rw [written, List.length_append, List.length_replicate, Nat.add_sub_cancel]
        rw [Place.digits, length]
        exact written.symm
      · cases found
    · cases found
  · rintro ⟨rfl, small⟩
    have length : place.digits.length - (Nat.toDigits 10 place.number).length = place.zeros := by
      rw [Place.digits, List.length_append, List.length_replicate, Nat.add_sub_cancel]
    have number : placeNumber? place.digits = some (place.index.val + 1) :=
      place.placeNumber?_digits small
    simp only [ofDigits?, number, place.index.isLt, dite_true]
    exact congrArg some (congrArg (Place.mk · place.index) length)

/-- The value of a place is the one that its number counts to. -/
theorem parameter?_eq (digits : List Char) (values : Vector Parameter count) :
    parameter? values.toList digits =
      (ofDigits? count digits).map fun place => values[place.index] := by
  unfold parameter? ofDigits?
  rcases placeNumber? digits with _ | _ | index
  · rfl
  · rfl
  · by_cases inside : index < count
    · simp [inside]
    · simp [inside]

end Place

/-- A text with places for some values in it, each of them with the text behind it. -/
structure Template (count : Nat) where
  first : List Char
  others : List (Place count × List Char)

namespace Template

variable {count : Nat}

/-- A template as it is written. -/
def written (template : Template count) : List Char :=
  template.first ++ template.others.flatMap fun (place, text) => '$' :: (place.digits ++ text)

/-- A template with a value in each place. -/
def filled (template : Template count) (values : Vector Parameter count) : List Char :=
  template.first ++ template.others.flatMap fun (place, text) => values[place.index].render ++ text

/-- The places of some texts behind another one, each with all that is written before it. -/
def placesBehind : (before : List Char) → List (Place count × List Char) →
    List (List Char × Place count)
  | _, [] => []
  | before, (place, text) :: others =>
      (before, place) :: placesBehind (before ++ '$' :: (place.digits ++ text)) others

/-- The places of a template, each with all that is written before it. -/
def places (template : Template count) : List (List Char × Place count) :=
  placesBehind template.first template.others

/-- A template behind some text. -/
def behind (text : List Char) (template : Template count) : Template count :=
  { template with first := text ++ template.first }

/-- A template behind a place. -/
def behindPlace (place : Place count) (template : Template count) : Template count :=
  ⟨[], (place, template.first) :: template.others⟩

/-- The template of the parts of a statement. What is no place for a value is text. -/
def ofParts (count : Nat) : List Segment → Template count
  | [] => ⟨[], []⟩
  | .kept c :: parts => behind [c] (ofParts count parts)
  | .place digits :: parts =>
      match Place.ofDigits? count digits with
      | some place => behindPlace place (ofParts count parts)
      | none => behind ('$' :: digits) (ofParts count parts)

/-! ### Texts and values -/

theorem written_behind (text : List Char) (template : Template count) :
    (template.behind text).written = text ++ template.written :=
  List.append_assoc _ _ _

theorem written_behindPlace (place : Place count) (template : Template count) :
    (template.behindPlace place).written = '$' :: (place.digits ++ template.written) := by
  simp [behindPlace, written]

theorem filled_behind
    (text : List Char) (template : Template count) (values : Vector Parameter count) :
    (template.behind text).filled values = text ++ template.filled values :=
  List.append_assoc _ _ _

theorem filled_behindPlace
    (place : Place count) (template : Template count) (values : Vector Parameter count) :
    (template.behindPlace place).filled values =
      values[place.index].render ++ template.filled values := by
  simp [behindPlace, filled]

/-! ### Places -/

theorem placesBehind_append (text before : List Char) (others : List (Place count × List Char)) :
    placesBehind (text ++ before) others =
      (placesBehind before others).map (Prod.map (text ++ ·) id) := by
  induction others generalizing before with
  | nil => rfl
  | cons other others inductionHypothesis =>
      rw [placesBehind, List.append_assoc, inductionHypothesis]
      rfl

theorem places_behind (text : List Char) (template : Template count) :
    (template.behind text).places = template.places.map (Prod.map (text ++ ·) id) :=
  placesBehind_append text template.first template.others

theorem places_behindPlace (place : Place count) (template : Template count) :
    (template.behindPlace place).places =
      ([], place) :: template.places.map (Prod.map ('$' :: place.digits ++ ·) id) :=
  congrArg (([], place) :: ·) (placesBehind_append ('$' :: place.digits) _ template.others)

/-! ### Templates of statements -/

theorem written_ofParts
    {parts : List Segment}
    (numerals : ∀ digits, .place digits ∈ parts → digits.all Text.isDigit = true) :
    (ofParts count parts).written = parts.flatMap Segment.text := by
  induction parts with
  | nil => rfl
  | cons part parts inductionHypothesis =>
      have rest := inductionHypothesis fun digits member =>
        numerals digits (List.mem_cons_of_mem part member)
      cases part with
      | kept c => rw [ofParts, written_behind, rest, List.flatMap_cons, Segment.text]
      | place digits =>
          rw [ofParts, List.flatMap_cons, Segment.text]
          split
          · rename_i place found
            have numeral := numerals digits List.mem_cons_self
            rw [written_behindPlace, ((Place.ofDigits?_eq_some_iff numeral).mp found).1, rest]
            rfl
          · rw [written_behind, rest]

theorem filled_ofParts (parts : List Segment) (values : Vector Parameter count) :
    (ofParts count parts).filled values = parts.flatMap (Segment.fill values.toList) := by
  induction parts with
  | nil => rfl
  | cons part parts inductionHypothesis =>
      cases part with
      | kept c => rw [ofParts, filled_behind, inductionHypothesis, List.flatMap_cons, Segment.fill]
      | place digits =>
          rw [ofParts, List.flatMap_cons, Segment.fill, Place.parameter?_eq]
          split
          · rename_i place found
            rw [filled_behindPlace, inductionHypothesis, found]
            rfl
          · rename_i none
            rw [filled_behind, inductionHypothesis, none]
            rfl

theorem mem_places_behind_iff
    {text before : List Char} {template : Template count} {place : Place count} :
    (before, place) ∈ (template.behind text).places ↔
      ∃ rest, text ++ rest = before ∧ (rest, place) ∈ template.places := by
  rw [places_behind, List.mem_map]
  constructor
  · rintro ⟨⟨rest, other⟩, member, same⟩
    obtain ⟨rfl, rfl⟩ := Prod.mk.inj same
    exact ⟨rest, rfl, member⟩
  · rintro ⟨rest, rfl, member⟩
    exact ⟨(rest, place), member, rfl⟩

theorem mem_places_behindPlace_iff
    {before : List Char} {template : Template count} {first place : Place count} :
    (before, place) ∈ (template.behindPlace first).places ↔
      before = [] ∧ place = first ∨
        ∃ rest, '$' :: first.digits ++ rest = before ∧ (rest, place) ∈ template.places := by
  rw [places_behindPlace, List.mem_cons, Prod.mk.injEq, ← places_behind, mem_places_behind_iff]

/-- The places of the template are those of the statement that count to a value. -/
theorem mem_places_ofParts_iff
    {parts : List Segment}
    (numerals : ∀ digits, .place digits ∈ parts → digits.all Text.isDigit = true)
    {before : List Char} {place : Place count} :
    (before, place) ∈ (ofParts count parts).places ↔
      place.number < Text.bound64 ∧ StandsBehind parts before (.place place.digits) := by
  induction parts generalizing before with
  | nil =>
      refine iff_of_false List.not_mem_nil ?_
      rintro ⟨_, front, back, split, _⟩
      exact List.append_ne_nil_of_right_ne_nil front (List.cons_ne_nil _ _) split.symm
  | cons part parts inductionHypothesis =>
      have rest := @inductionHypothesis fun digits member =>
        numerals digits (List.mem_cons_of_mem part member)
      rw [standsBehind_cons_iff]
      cases part with
      | kept c =>
          rw [ofParts, mem_places_behind_iff]
          simp only [rest, Segment.text, reduceCtorEq, and_false, false_or]
          constructor
          · rintro ⟨text, rfl, small, stands⟩
            exact ⟨small, text, rfl, stands⟩
          · rintro ⟨small, text, rfl, stands⟩
            exact ⟨text, rfl, small, stands⟩
      | place digits =>
          have numeral := numerals digits List.mem_cons_self
          rw [ofParts]
          split
          · rename_i first found
            obtain ⟨rfl, small⟩ := (Place.ofDigits?_eq_some_iff numeral).mp found
            rw [mem_places_behindPlace_iff]
            constructor
            · rintro (⟨rfl, rfl⟩ | ⟨text, rfl, member⟩)
              · exact ⟨small, Or.inl ⟨rfl, rfl⟩⟩
              · obtain ⟨small, stands⟩ := rest.mp member
                exact ⟨small, Or.inr ⟨text, rfl, stands⟩⟩
            · rintro ⟨small, ⟨rfl, same⟩ | ⟨text, rfl, stands⟩⟩
              · have own := (Place.ofDigits?_eq_some_iff numeral).mpr
                  ⟨(Segment.place.inj same).symm, small⟩
                exact Or.inl ⟨rfl, Option.some.inj (own.symm.trans found)⟩
              · exact Or.inr ⟨text, rfl, rest.mpr ⟨small, stands⟩⟩
          · rename_i none
            rw [mem_places_behind_iff]
            constructor
            · rintro ⟨text, rfl, member⟩
              obtain ⟨small, stands⟩ := rest.mp member
              exact ⟨small, Or.inr ⟨text, rfl, stands⟩⟩
            · rintro ⟨small, ⟨rfl, same⟩ | ⟨text, rfl, stands⟩⟩
              · -- A place that counts to a value would have become one of the template.
                have found := (Place.ofDigits?_eq_some_iff numeral).mpr
                  ⟨(Segment.place.inj same).symm, small⟩
                rw [none] at found
                cases found
              · exact ⟨text, rfl, rest.mpr ⟨small, stands⟩⟩

end Template

/-- A value is written as the literal that it is. -/
theorem Parameter.chars_render (value : Parameter) :
    value.render = (Sql.Lexeme.value (value.map Text.ofBytes)).chars := by
  cases value <;> rfl

/-- Writing values into a statement is one substitution that does not depend on them. -/
theorem exists_template (statement : String) (count : Nat) :
    (∃ template : Template count,
      template.written = statement.toList ∧
      (∀ values : Vector Parameter count,
        (inlineParameters statement values.toList).toList = template.filled values) ∧
      ∀ before place, (before, place) ∈ template.places ↔
        place.number < Text.bound64 ∧ ∃ found : Occurrence statement.toList,
          found.before = before ∧ found.digits = place.digits ∧ found.isQuoted = false) ∧
    ∀ value : Parameter,
      Sql.scan? value.render = some [Sql.valueToken (value.map Text.ofBytes)] := by
  have numerals (digits : List Char) (member : .place digits ∈ cut statement.toList) :
      digits.all Text.isDigit = true := by
    obtain ⟨front, back, split⟩ := List.append_of_mem member
    obtain ⟨place, _, rfl, _⟩ := exists_occurrence_of_standsBehind ⟨front, back, split, rfl⟩
    exact place.numeral
  refine ⟨⟨.ofParts count (cut statement.toList), ?written, ?filled, ?places⟩, ?literal⟩
  case written =>
    rw [Template.written_ofParts numerals, flatMap_text_cut]
  case filled =>
    intro values
    rw [inlineParameters, String.toList_ofList, Template.filled_ofParts]
  case places =>
    intro before place
    rw [Template.mem_places_ofParts_iff numerals, and_congr_right_iff]
    intro _
    constructor
    · exact exists_occurrence_of_standsBehind
    · rintro ⟨found, rfl, same, unquoted⟩
      rw [← same]
      exact found.standsBehind_iff.mpr unquoted
  case literal =>
    intro value
    have alone : Sql.areApart [.value (value.map Text.ofBytes)] = true := rfl
    rw [Parameter.chars_render, ← List.append_nil (Sql.Lexeme.chars _)]
    exact Sql.scan?_written alone

end Reservations
