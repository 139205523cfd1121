import Mathlib.Data.List.TakeDrop
import Reservations.Sql.Scan

namespace Reservations.Sql

/-! ## Scanning what was written

A statement is written lexeme by lexeme. Where blanks or marks keep the lexemes apart,
scanning gives back exactly their tokens, whatever stands in the quoted ones. -/

/-- A piece of a statement: what is written for one token, or a blank between two. -/
inductive Lexeme where
  | blank
  | mark (separator : Mark)
  | operator (sign : Char)
  | word (name : String)
  | quoted (name : String)
  /-- A text in single quotes, or the word for a null. -/
  | value (text? : Option String)
  deriving DecidableEq, Repr

/-- The token of a value: of a text, or of a null. -/
def valueToken : Option String → Token
  | none => .word "NULL" (some .NULL)
  | some text => .literal (.text text)

/-- The token of a word without quotes. -/
def wordToken (name : String) : Token :=
  .word name (Keyword.ofWord? name.toList)

namespace Lexeme

/-- A lexeme as it is written. -/
def chars : Lexeme → List Char
  | blank => [' ']
  | mark separator => separator.text.toList
  | operator sign => [sign]
  | word name => name.toList
  | quoted name => '"' :: Text.doubled '"' name.toList ++ ['"']
  | value none => "NULL".toList
  | value (some text) => '\'' :: Text.doubled '\'' text.toList ++ ['\'']

/-- The token that a lexeme is, unless it is a blank. -/
def token? : Lexeme → Option Token
  | blank => none
  | mark separator => some (.mark separator)
  | operator sign => some (.operator (String.singleton sign))
  | word name => some (wordToken name)
  | quoted name => some (.quoted name)
  | value text? => some (valueToken text?)

/-- Whether some characters make up a name. -/
def isName : List Char → Bool
  | [] => false
  | c :: cs => startsName c && cs.all continuesName

/-- Whether a lexeme stands for one token on its own. A period may belong to a number,
and of the operators only two are ever written. -/
def isProper : Lexeme → Bool
  | mark separator => separator ≠ .period
  | operator sign => sign = '=' || sign = '*'
  | word name => isName name.toList
  | _ => true

/-- Whether a lexeme keeps those beside it apart. -/
def separates : Lexeme → Bool
  | blank | mark _ => true
  | _ => false

end Lexeme

/-- Whether some lexemes can be told apart when they are written one after the other. -/
def areApart : List Lexeme → Bool
  | first :: second :: rest =>
      first.isProper && (first.separates || second.separates) && areApart (second :: rest)
  | [last] => last.isProper
  | [] => true

/-- Lexemes as they are written. -/
def written (lexemes : List Lexeme) : List Char :=
  lexemes.flatMap Lexeme.chars

/-- The tokens of lexemes. -/
def tokens (lexemes : List Lexeme) : List Token :=
  lexemes.filterMap Lexeme.token?

theorem tokens_append (front back : List Lexeme) :
    tokens (front ++ back) = tokens front ++ tokens back :=
  List.filterMap_append

/-! ### What may follow a lexeme -/

/-- The characters that keep lexemes apart. -/
def separators : List Char :=
  [' ', '(', ')', '[', ']', '\x7b', '\x7d', ',', ';']

/-- A separator comes next, or nothing. -/
def Ends (rest : List Char) : Prop :=
  ∀ c ∈ rest.head?, c ∈ separators

theorem ends_nil : Ends [] := by
  rintro c ⟨⟩

/-- No name goes on with a separator. -/
theorem continuesName_of_mem_separators {c : Char} (member : c ∈ separators) :
    continuesName c = false := by
  have stops : separators.any continuesName = false := by decide
  exact Bool.eq_false_iff.mpr (List.any_eq_false.mp stops c member)

theorem span_of_ends
    {name rest : List Char} (inside : name.all continuesName = true) (ends : Ends rest) :
    (name ++ rest).span continuesName = (name, rest) := by
  have outside : rest.takeWhile continuesName = [] ∧ rest.dropWhile continuesName = rest := by
    cases rest with
    | nil => exact ⟨rfl, rfl⟩
    | cons c rest =>
        simp [continuesName_of_mem_separators (ends c rfl)]
  rw [List.all_eq_true] at inside
  rw [List.span_eq_takeWhile_dropWhile, List.takeWhile_append_of_pos inside,
    List.dropWhile_append_of_pos inside, outside.1, outside.2, List.append_nil]

theorem le_toNat_of_isAlpha {c : Char} (letter : c.isAlpha = true) : 65 ≤ c.toNat := by
  rcases Bool.or_eq_true_iff.mp (letter : (c.isUpper || c.isLower) = true) with upper | lower
  · have bounds : 'A'.val ≤ c.val ∧ c.val ≤ 'Z'.val := of_decide_eq_true upper
    exact UInt32.le_iff_toNat_le.mp bounds.1
  · have bounds := Bool.and_eq_true_iff.mp lower
    have least : 'a'.val ≤ c.val := of_decide_eq_true bounds.1
    exact Nat.le_trans (by decide) (UInt32.le_iff_toNat_le.mp least)

/-- No name begins with a blank, a quote or a digit: they all come before the letters. -/
theorem le_toNat_of_startsName {c : Char} (starts : startsName c = true) : 65 ≤ c.toNat := by
  simp only [startsName, Bool.or_eq_true, decide_eq_true_eq] at starts
  rcases starts with (letter | rfl) | beyond
  · exact le_toNat_of_isAlpha letter
  · decide
  · omega

theorem isSpace_of_startsName {c : Char} (starts : startsName c = true) : isSpace c = false := by
  have code := le_toNat_of_startsName starts
  simp only [isSpace, Bool.or_eq_false_iff, Bool.and_eq_false_iff, decide_eq_false_iff_not]
  omega

/-- A word is read to its end: no letter at its front makes it a literal. -/
theorem step?_word
    {c : Char} {more rest : List Char} (afterWord : Bool)
    (starts : startsName c = true) (inside : more.all continuesName = true) (ends : Ends rest) :
    step? afterWord c (more ++ rest) =
      some (some (.word (String.ofList (c :: more)) (Keyword.ofWord? (c :: more))), rest) := by
  have unquoted : ∀ d ∈ ['\'', '"', '&'], (more ++ rest).head? ≠ some d := by
    intro d quote found
    simp only [List.mem_cons, List.not_mem_nil, or_false] at quote
    cases more with
    | nil =>
        have separator := ends d found
        rcases quote with rfl | rfl | rfl <;> exact absurd separator (by decide)
    | cons e more =>
        obtain rfl : e = d := by simpa using found
        rw [List.all_cons, Bool.and_eq_true] at inside
        rcases quote with rfl | rfl | rfl <;> exact absurd inside.1 (by decide)
  have noLiteral : readNamed? c (more ++ rest) = some (readWord c (more ++ rest)) := by
    simp only [List.mem_cons, List.not_mem_nil, or_false, forall_eq_or_imp, forall_eq] at unquoted
    unfold readNamed?
    split <;> simp_all
  unfold step?
  rw [if_neg (by simp [isSpace_of_startsName starts]), if_pos starts, noLiteral, readWord,
    span_of_ends inside ends]
  rfl

theorem step?_operator
    {sign : Char} {rest : List Char} (afterWord : Bool)
    (known : sign = '=' ∨ sign = '*') (ends : Ends rest) :
    step? afterWord sign rest = some (some (.operator (String.singleton sign)), rest) := by
  rcases known with rfl | rfl
  · cases rest with
    | nil => rfl
    | cons c rest =>
        have separator := ends c rfl
        simp only [separators, List.mem_cons, List.not_mem_nil, or_false] at separator
        rcases separator with rfl | rfl | rfl | rfl | rfl | rfl | rfl | rfl | rfl <;> rfl
  · rfl

theorem step?_mark
    {separator : Mark} (rest : List Char) (afterWord : Bool) (known : separator ≠ .period) :
    ∃ c, separator.text.toList = [c] ∧ c ∈ separators ∧
      step? afterWord c rest = some (some (.mark separator), rest) := by
  cases separator with
  | period => exact absurd rfl known
  | _ => exact ⟨_, rfl, by decide, rfl⟩

theorem step?_doubled
    {value : List Char} {rest : List Char} (afterWord : Bool) (ends : Ends rest) :
    step? afterWord '\'' (Text.doubled '\'' value ++ '\'' :: rest) =
      some (some (.literal (.text (String.ofList value))), rest) := by
  -- Another quote right behind the last one would go on with the text.
  have closed : rest.head? ≠ some '\'' := fun quote =>
    (by decide : '\'' ∉ separators) (ends _ quote)
  have found := Text.readDoubled?_doubled closed value []
  change (asLiteral .text (Text.readDoubled? '\'' false [] _)).map _ = _
  rw [found]
  rfl

theorem step?_doubledName
    {name : List Char} {rest : List Char} (afterWord : Bool) (ends : Ends rest) :
    step? afterWord '"' (Text.doubled '"' name ++ '"' :: rest) =
      some (some (.quoted (String.ofList name)), rest) := by
  have closed : rest.head? ≠ some '"' := fun quote =>
    (by decide : '"' ∉ separators) (ends _ quote)
  have found := Text.readDoubled?_doubled closed name []
  change (Text.readDoubled? '"' false [] _).map _ = _
  rw [found]
  rfl

theorem Keyword.ofWord?_null : Keyword.ofWord? ['N', 'U', 'L', 'L'] = some .NULL := by
  decide +kernel

theorem step?_lexeme
    {lexeme : Lexeme} {rest : List Char} (afterWord : Bool)
    (proper : lexeme.isProper = true) (apart : lexeme.separates = true ∨ Ends rest) :
    ∃ c cs, lexeme.chars ++ rest = c :: cs ∧
      step? afterWord c cs = some (lexeme.token?, rest) := by
  cases lexeme with
  | blank => exact ⟨' ', rest, rfl, rfl⟩
  | mark separator =>
      obtain ⟨c, text, _, found⟩ := step?_mark rest afterWord (of_decide_eq_true proper)
      exact ⟨c, rest, by rw [Lexeme.chars, text]; rfl, found⟩
  | operator sign =>
      have ends := apart.resolve_left Bool.false_ne_true
      refine ⟨sign, rest, rfl, step?_operator afterWord ?_ ends⟩
      simpa [Lexeme.isProper] using proper
  | word name =>
      have ends := apart.resolve_left Bool.false_ne_true
      rw [Lexeme.isProper] at proper
      cases chars : name.toList with
      | nil => simp [chars, Lexeme.isName] at proper
      | cons c more =>
          rw [chars, Lexeme.isName, Bool.and_eq_true] at proper
          refine ⟨c, more ++ rest, by rw [Lexeme.chars, chars]; rfl, ?_⟩
          rw [step?_word afterWord proper.1 proper.2 ends, ← chars, String.ofList_toList]
          rfl
  | quoted name =>
      have ends := apart.resolve_left Bool.false_ne_true
      refine ⟨'"', Text.doubled '"' name.toList ++ '"' :: rest, by simp [Lexeme.chars], ?_⟩
      rw [step?_doubledName afterWord ends, String.ofList_toList]
      rfl
  | value text? =>
      have ends := apart.resolve_left Bool.false_ne_true
      cases text? with
      | none =>
          have found : step? afterWord 'N' (['U', 'L', 'L'] ++ rest) = _ :=
            step?_word afterWord (by decide) (by decide) ends
          rw [Keyword.ofWord?_null] at found
          exact ⟨'N', ['U', 'L', 'L'] ++ rest, rfl, found⟩
      | some text =>
          refine ⟨'\'', Text.doubled '\'' text.toList ++ '\'' :: rest, by simp [Lexeme.chars], ?_⟩
          rw [step?_doubled afterWord ends, String.ofList_toList]
          rfl

theorem Lexeme.length_chars_pos {lexeme : Lexeme} (proper : lexeme.isProper = true) :
    0 < lexeme.chars.length := by
  obtain ⟨c, cs, split, _⟩ : ∃ c cs, lexeme.chars ++ [] = c :: cs ∧ _ :=
    step?_lexeme false proper (Or.inr ends_nil)
  rw [List.append_nil] at split
  rw [split]
  exact Nat.zero_lt_succ _

/-! ### Whole statements -/

theorem ends_of_separates
    {lexeme : Lexeme} (proper : lexeme.isProper = true) (separates : lexeme.separates = true)
    (rest : List Char) :
    Ends (lexeme.chars ++ rest) := by
  cases lexeme with
  | blank =>
      rintro c ⟨⟩
      decide
  | mark separator =>
      obtain ⟨c, text, member, _⟩ := step?_mark rest false (of_decide_eq_true proper)
      rw [Lexeme.chars, text]
      rintro d ⟨⟩
      exact member
  | _ => cases separates

/-- What is written behind a lexeme does not make it longer. -/
theorem ends_of_areApart
    {lexeme : Lexeme} {lexemes : List Lexeme} (apart : areApart (lexeme :: lexemes) = true) :
    lexeme.isProper = true ∧ (lexeme.separates = true ∨ Ends (written lexemes)) ∧
      areApart lexemes = true := by
  cases lexemes with
  | nil =>
      exact ⟨apart, Or.inr ends_nil, rfl⟩
  | cons next lexemes =>
      simp only [areApart, Bool.and_eq_true, Bool.or_eq_true] at apart
      obtain ⟨⟨proper, either⟩, rest⟩ := apart
      refine ⟨proper, either.imp_right fun separates => ?_, rest⟩
      have nextProper : next.isProper = true := by
        cases lexemes with
        | nil => exact rest
        | cons second lexemes =>
            simp only [areApart, Bool.and_eq_true] at rest
            exact rest.1.1
      exact ends_of_separates nextProper separates _

/-- By induction on the lexemes: each of them has at least one character, so that the
steps do not run out. -/
theorem scanOnto?_written
    {lexemes : List Lexeme} (apart : areApart lexemes = true)
    {steps : Nat} (enough : (written lexemes).length ≤ steps)
    (afterWord : Bool) (found : List Token) :
    scanOnto? steps afterWord found (written lexemes) = some (found.reverse ++ tokens lexemes) := by
  induction lexemes generalizing steps afterWord found with
  | nil => simp [written, tokens, scanOnto?]
  | cons lexeme lexemes inductionHypothesis =>
      obtain ⟨proper, either, rest⟩ := ends_of_areApart apart
      obtain ⟨c, cs, split, stepped⟩ := step?_lexeme afterWord proper either
      have whole : written (lexeme :: lexemes) = c :: cs := by
        rw [← split]
        rfl
      have shorter : (written lexemes).length ≤ cs.length := by
        have lengths := congrArg List.length split
        have some := Lexeme.length_chars_pos proper
        simp only [List.length_append, List.length_cons] at lengths
        omega
      rw [whole, List.length_cons] at enough
      obtain ⟨steps, rfl⟩ : ∃ fewer, steps = fewer + 1 := ⟨steps - 1, by omega⟩
      rw [whole, scanOnto?, stepped]
      cases token : lexeme.token? with
      | none =>
          -- A blank leaves nothing behind but that no word came last.
          rw [tokens, List.filterMap_cons_none token]
          exact inductionHypothesis rest (by omega) false found
      | some next =>
          have behind : scanOnto? steps next.isWord (next :: found) (written lexemes) = _ :=
            inductionHypothesis rest (by omega) next.isWord (next :: found)
          rw [tokens, List.filterMap_cons_some token]
          simpa [tokens] using behind

/-- Lexemes behind one that separates are apart from those before them. -/
theorem areApart_append
    {front back : List Lexeme} (frontApart : areApart front = true)
    (backApart : areApart back = true) (between : front.getLast?.all Lexeme.separates = true) :
    areApart (front ++ back) = true := by
  induction front with
  | nil => exact backApart
  | cons first front inductionHypothesis =>
      cases front with
      | nil =>
          cases back with
          | nil => exact frontApart
          | cons next back =>
              have separates : first.separates = true := between
              have proper : first.isProper = true := frontApart
              simp only [List.cons_append, List.nil_append, areApart, proper, separates, backApart,
                Bool.true_or, Bool.and_self]
      | cons second front =>
          simp only [areApart, Bool.and_eq_true] at frontApart
          have rest := inductionHypothesis frontApart.2 (by simpa using between)
          simp only [List.cons_append] at rest ⊢
          simp only [areApart, frontApart.1.1, frontApart.1.2, rest, Bool.and_self]

/-- The tokens of a text in which lexemes are kept apart. -/
theorem scan?_written {lexemes : List Lexeme} (apart : areApart lexemes = true) :
    scan? (written lexemes) = some (tokens lexemes) :=
  scanOnto?_written apart (Nat.le_refl _) false []

end Reservations.Sql
