import Reservations.Proofs.Command.Reading
import Reservations.Proofs.Sql.Opening
import Reservations.Session

namespace Reservations

/-! ## What a statement is said to answer with

A statement is described by the letters that its text begins with, and carried out by what is
read behind blanks, comments and semicolons. -/

namespace Sql

/-- The words that the statements about rows begin with. -/
def openingWords : List Keyword :=
  [.SELECT, .WITH, .INSERT, .DELETE]

theorem upper_of_ofWord?
    {word : List Char} {keyword : Keyword} (known : keyword ∈ openingWords)
    (found : Keyword.ofWord? word = some keyword) :
    Text.upper word = keyword.text.toList := by
  have spelled : ∀ keyword ∈ openingWords, ∀ entry ∈ Keyword.table,
      entry.2 = keyword → entry.1 = keyword.text := by
    decide +kernel
  rw [Keyword.ofWord?] at found
  split at found
  · next entry same =>
      have key := List.find?_some same
      have member := List.mem_of_find?_eq_some same
      rw [← spelled keyword known entry member (Option.some.inj found), of_decide_eq_true key,
        String.toList_ofList]
  · split_ifs at found
    obtain rfl := Option.some.inj found
    exact absurd known (by decide)

/-- The code points of the blank characters. -/
def blankCodes : List Nat :=
  Text.blankRuns.flatMap fun run => List.range' run.1 (run.2 + 1 - run.1)

theorem toNat_mem_blankCodes {c : Char} (blank : Text.isBlank c = true) :
    c.toNat ∈ blankCodes := by
  obtain ⟨run, member, inside⟩ := List.any_eq_true.mp blank
  rw [Bool.and_eq_true, decide_eq_true_eq, decide_eq_true_eq] at inside
  refine List.mem_flatMap.mpr ⟨run, member, List.mem_range'_1.mpr ⟨inside.1, ?_⟩⟩
  omega

/-- A blank has no upper case, so none can be taken for a letter. -/
theorem upperChar_of_isBlank {c : Char} (blank : Text.isBlank c = true) :
    Text.upperChar c = [c] := by
  have kept : ∀ code ∈ blankCodes, Text.upperChar (Char.ofNat code) = [Char.ofNat code] := by
    decide +kernel
  have same := kept c.toNat (toNat_mem_blankCodes blank)
  rwa [Char.ofNat_toNat] at same

/-- The word that a text begins with is a keyword for a statement about rows. -/
structure OpensWith (keyword : Keyword) (text : List Char) : Prop where
  named : ∃ c rest, text = c :: rest ∧ startsName c = true
  known : keyword ∈ openingWords
  found : Keyword.ofWord? (text.takeWhile continuesName) = some keyword

theorem OpensWith.upper_trimStart
    {keyword : Keyword} {text : List Char} (opens : OpensWith keyword text) :
    ∃ rest, Text.upper (Text.trimStart text) = keyword.text.toList ++ rest := by
  obtain ⟨⟨c, rest, rfl, starts⟩, known, found⟩ := opens
  have continues : continuesName c = true := by simp [continuesName, starts]
  have upper := upper_of_ofWord? known found
  have solid : Text.isBlank c = false := by
    by_contra blank
    rw [Bool.not_eq_false] at blank
    rw [List.takeWhile_cons_of_pos continues, Text.upper, List.flatMap_cons,
      upperChar_of_isBlank blank] at upper
    have letters : ∀ keyword ∈ openingWords,
        keyword.text.toList.head?.any Text.isBlank = false := by
      decide +kernel
    have letter := letters keyword known
    rw [← upper] at letter
    exact Bool.false_ne_true (letter.symm.trans blank)
  refine ⟨Text.upper ((c :: rest).dropWhile continuesName), ?_⟩
  rw [Text.trimStart_of_not_isBlank solid, ← upper, Text.upper, Text.upper, Text.upper,
    ← List.flatMap_append, List.takeWhile_append_dropWhile]

end Sql

open Sql

/-- Whether a text begins, behind blanks, with something that no description looks behind: a
comment, a semicolon, or names for queries. -/
def opensAside (text : List Char) : Bool :=
  let rest := text.dropWhile isSpace
  opensComment rest || rest.head? = some ';' ||
    Keyword.ofWord? (rest.takeWhile continuesName) = some .WITH

theorem isBlank_of_isSpace {c : Char} (space : isSpace c = true) : Text.isBlank c = true := by
  simp only [isSpace, Bool.or_eq_true, Bool.and_eq_true, decide_eq_true_eq] at space
  simp only [Text.isBlank, Text.inRuns, Text.blankRuns, List.any_cons, Bool.or_eq_true,
    Bool.and_eq_true, decide_eq_true_eq]
  omega

theorem trimStart_dropWhile_isSpace (text : List Char) :
    Text.trimStart (text.dropWhile isSpace) = Text.trimStart text := by
  induction text with
  | nil => rfl
  | cons c text inductionHypothesis =>
      by_cases space : isSpace c = true
      · rw [List.dropWhile_cons_of_pos space, inductionHypothesis, Text.trimStart, Text.trimStart,
          List.dropWhile_cons_of_pos (isBlank_of_isSpace space)]
      · rw [List.dropWhile_cons_of_neg space]

section Opening

variable {text : String}

/-- No statement that is said to answer with rows begins with a sign. -/
theorem returnsRows_of_sign
    {c : Char} {rest : List Char} (sign : c ∈ ['-', '/', ';'])
    (opens : text.toList.dropWhile isSpace = c :: rest) :
    returnsRows text = false := by
  have solid : Text.isBlank c = false ∧ ∃ d, Text.upperChar c = [d] ∧ d ≠ 'S' ∧ d ≠ 'I' := by
    simp only [List.mem_cons, List.not_mem_nil, or_false] at sign
    rcases sign with rfl | rfl | rfl
    · exact ⟨by decide, '-', rfl, by decide, by decide⟩
    · exact ⟨by decide, '/', rfl, by decide, by decide⟩
    · exact ⟨by decide, ';', rfl, by decide, by decide⟩
  obtain ⟨solid, d, upper, notS, notI⟩ := solid
  rw [returnsRows, ← trimStart_dropWhile_isSpace, opens, Text.trimStart_of_not_isBlank solid,
    Text.upper, List.flatMap_cons, upper]
  simp [List.isPrefixOf, notS.symm, notI.symm]

theorem returnsRows_of_opensComment
    (opens : opensComment (text.toList.dropWhile isSpace) = true) : returnsRows text = false := by
  unfold opensComment at opens
  split at opens
  · next comment => exact returnsRows_of_sign (by decide) comment
  · next comment => exact returnsRows_of_sign (by decide) comment
  · cases opens

theorem returnsRows_of_opensWith
    {keyword : Keyword} (opens : OpensWith keyword (text.toList.dropWhile isSpace)) :
    returnsRows text = (keyword = .SELECT || keyword = .INSERT : Bool) := by
  obtain ⟨rest, upper⟩ := opens.upper_trimStart
  have spelled : Keyword.SELECT.text = "SELECT" ∧ Keyword.WITH.text = "WITH" ∧
      Keyword.INSERT.text = "INSERT" ∧ Keyword.DELETE.text = "DELETE" := by
    decide +kernel
  obtain ⟨select, named, insert, delete⟩ := spelled
  rw [returnsRows, ← trimStart_dropWhile_isSpace, upper]
  have known := opens.known
  simp only [openingWords, List.mem_cons, List.not_mem_nil, or_false] at known
  rcases known with rfl | rfl | rfl | rfl
  · rw [select]
    rfl
  · rw [named]
    rfl
  · rw [insert]
    rfl
  · rw [delete]
    rfl

theorem opensAside_of_opensWith
    {keyword : Keyword} (opens : OpensWith keyword (text.toList.dropWhile isSpace)) :
    opensAside text.toList = decide (keyword = .WITH) := by
  obtain ⟨⟨c, rest, same, starts⟩, _, found⟩ := opens
  have named : ∀ d ∈ ['-', '/', ';'], c ≠ d := by
    rintro d sign rfl
    simp only [List.mem_cons, List.not_mem_nil, or_false] at sign
    rcases sign with rfl | rfl | rfl <;> exact absurd starts (by decide)
  have word : opensComment (c :: rest) = false := by
    unfold opensComment
    split
    · next opened => exact absurd (List.cons.inj opened).1 (named '-' (by decide))
    · next opened => exact absurd (List.cons.inj opened).1 (named '/' (by decide))
    · rfl
  have unmarked : (c :: rest).head? ≠ some ';' := fun mark =>
    named ';' (by decide) (Option.some.inj mark)
  rw [opensAside, found, same, word, decide_eq_false unmarked]
  simp

end Opening

namespace Command

/-- Whether a command answers with rows where it succeeds, and not with a count. -/
def answersWithRows : Command → Bool
  | book _ | find _ | list _ => true
  | remove _ => false

/-- The words that the statement of a command begins with. -/
def openers : Command → List Keyword
  | book _ => [.INSERT]
  | find _ | list _ => [.SELECT, .WITH]
  | remove _ => [.DELETE]

theorem openers_subset (command : Command) : command.openers ⊆ openingWords := by
  cases command <;> simp [openers, openingWords]

theorem openers_of_ofStatement
    {statement : Statement} {command : Command} (read : ofStatement statement = .ok command) :
    statement.openers = command.openers := by
  obtain ⟨shape, shaped, said⟩ := ofStatement_eq_ok_iff.mp read
  unfold shape? at shaped
  split at shaped
  · obtain ⟨table, _, rfl⟩ := Option.map_eq_some_iff.mp shaped
    cases said
    rfl
  · obtain ⟨table, _, rfl⟩ := Option.map_eq_some_iff.mp shaped
    cases said
    rfl
  · obtain ⟨table, _, shaped⟩ := Option.bind_eq_some_iff.mp shaped
    obtain ⟨compared, _, same⟩ := Option.bind_eq_some_iff.mp shaped
    obtain rfl := Option.some.inj same
    cases said with
    | find | listOf => rfl
  · obtain ⟨table, _, shaped⟩ := Option.bind_eq_some_iff.mp shaped
    obtain ⟨compared, _, same⟩ := Option.bind_eq_some_iff.mp shaped
    obtain rfl := Option.some.inj same
    cases said
    rfl
  · cases shaped

/-- The text of a command begins with a word for it, or with something that no description looks
behind. -/
theorem opening_of_ofText
    {text : String} {command : Command} (read : ofText text = .ok command) :
    (opensAside text.toList = true ∧ returnsRows text = false) ∨
      ∃ keyword ∈ command.openers, OpensWith keyword (text.toList.dropWhile isSpace) := by
  rw [ofText] at read
  split at read
  · cases read
  · cases read
  · next first others found =>
      have openers := openers_of_ofStatement read
      have kept : first.openers ≠ [] := by
        rw [openers]
        cases command <;> exact List.cons_ne_nil _ _
      obtain ⟨token, tokens, scanned, opening⟩ := first_of_statements? found kept
      rcases first_of_scanOnto? scanned with comment | ⟨rest, takes⟩
      · exact Or.inl ⟨by simp [opensAside, comment], returnsRows_of_opensComment comment⟩
      rcases opening with rfl | ⟨keyword, member, known⟩
      · obtain ⟨more, same⟩ := takes.semicolon
        exact Or.inl ⟨by simp [opensAside, same], returnsRows_of_sign (by decide) same⟩
      · rw [openers] at member
        obtain ⟨c, more, same, starts, found⟩ := takes.keyword? known
        refine Or.inr ⟨keyword, member, ⟨c, more, same, starts⟩, ?_, found⟩
        exact openers_subset command member

end Command

/-- A command is refused, or answers in its own manner. -/
theorem Desk.carryOut_cases (desk : Desk) (command : Command) :
    (∃ refusal, (desk.carryOut command).1 = .refused refusal) ∨
      (command.answersWithRows = true ∧ ∃ found, (desk.carryOut command).1 = .rows found) ∨
        (command.answersWithRows = false ∧ ∃ count, (desk.carryOut command).1 = .removed count) := by
  cases command with
  | book request =>
      rw [carryOut]
      split
      · exact Or.inr (Or.inl ⟨rfl, _, rfl⟩)
      · exact Or.inl ⟨_, rfl⟩
  | find id =>
      rw [carryOut]
      split
      · exact Or.inr (Or.inl ⟨rfl, _, rfl⟩)
      · exact Or.inr (Or.inl ⟨rfl, _, rfl⟩)
      · exact Or.inl ⟨_, rfl⟩
  | list resource? =>
      rw [carryOut]
      split
      · exact Or.inr (Or.inl ⟨rfl, _, rfl⟩)
      · exact Or.inl ⟨_, rfl⟩
  | remove id =>
      rw [carryOut]
      split
      · exact Or.inr (Or.inr ⟨rfl, _, rfl⟩)
      · exact Or.inl ⟨_, rfl⟩

/-- A statement is said to answer with rows if its command does, and if nothing stands before
its first word that no description looks behind. -/
theorem returnsRows_of_ofText
    {text : String} {command : Command} (read : Command.ofText text = .ok command) :
    returnsRows text = (command.answersWithRows && !opensAside text.toList) ∧
      ∀ desk : Desk,
        (∀ found, (desk.execute text).1 = .rows found → command.answersWithRows = true) ∧
          ∀ count, (desk.execute text).1 = .removed count → command.answersWithRows = false := by
  constructor
  · rcases Command.opening_of_ofText read with ⟨aside, rows⟩ | ⟨keyword, member, opens⟩
    · rw [aside, rows, Bool.not_true, Bool.and_false]
    · rw [returnsRows_of_opensWith opens, opensAside_of_opensWith opens]
      cases command with
      | book | remove =>
          obtain rfl := List.mem_singleton.mp member
          rfl
      | find | list =>
          simp only [Command.openers, List.mem_cons, List.not_mem_nil, or_false] at member
          rcases member with rfl | rfl <;> rfl
  · intro desk
    have executed : desk.execute text = desk.carryOut command := by rw [Desk.execute, read]
    rw [executed]
    rcases desk.carryOut_cases command with
      ⟨refusal, same⟩ | ⟨answers, found, same⟩ | ⟨answers, count, same⟩
    · simp [same]
    · simp [same, answers]
    · simp [same, answers]

/-! ### A selection behind blanks, and behind a comment -/

/-- A selection in small letters, behind blanks. -/
def smallSelection : String :=
  "\n  select * from reservations"

/-- A selection behind a comment. -/
def remarkedSelection : String :=
  "-- all of them\nSELECT * FROM reservations"

namespace Command

theorem ofText_selection
    {text : String} (spelled : Keyword → String)
    (scanned : scan? text.toList =
      some ((Phrase.selection reservationsTable).tokens spelled [])) :
    ofText text = .ok (list none) := by
  have alone : IsTextOf ⟨.selection reservationsTable, spelled⟩ [] text :=
    ⟨List.forall_mem_singleton.mpr isPlain_reservationsTable, [], .inl rfl, scanned⟩
  obtain ⟨statements, read, readsAs⟩ := statements?_of_isTextOf alone
  obtain _ | ⟨⟨source, rfl⟩, ⟨⟩⟩ := readsAs
  rw [ofText, read]
  change (do checkTable [reservationsTable.ident]; return list none) = _
  rw [checkTable_reservationsTable]
  rfl

theorem ofText_smallSelection : ofText smallSelection = .ok (list none) := by
  refine ofText_selection (fun keyword => if keyword = .SELECT then "select" else "from") ?_
  decide +kernel

theorem ofText_remarkedSelection : ofText remarkedSelection = .ok (list none) := by
  refine ofText_selection capitals ?_
  decide +kernel

end Command

theorem returnsRows_smallSelection :
    Command.ofText smallSelection = .ok (.list none) ∧ returnsRows smallSelection = true := by
  have described := (returnsRows_of_ofText Command.ofText_smallSelection).1
  have plain : opensAside smallSelection.toList = false := by decide +kernel
  rw [plain] at described
  exact ⟨Command.ofText_smallSelection, described⟩

/-- A selection is carried out behind a comment, and described as if it gave no rows. -/
theorem not_returnsRows_remarkedSelection :
    Command.ofText remarkedSelection = .ok (.list none) ∧
      returnsRows remarkedSelection = false :=
  ⟨Command.ofText_remarkedSelection, by decide +kernel⟩

end Reservations
