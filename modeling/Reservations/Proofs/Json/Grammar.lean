import Reservations.Json.Value

namespace Reservations.Json

/-! ## How values are written

The grammar of JSON. Everything that it allows is read: numbers of any length, texts of
any bytes, blanks wherever they may stand, and arrays and objects of any depth. -/

def IsBlank (bytes : List UInt8) : Prop :=
  ∀ byte ∈ bytes, isSpace byte = true

def AreDigits (bytes : List UInt8) : Prop :=
  ∀ byte ∈ bytes, isDigit byte = true

/-- No zero stands before other digits. -/
inductive IsWhole : List UInt8 → Prop
  | zero : IsWhole [48]
  | digits {first : UInt8} {rest : List UInt8} (digit : isDigit first = true)
      (nonzero : first ≠ 48) (digits : AreDigits rest) : IsWhole (first :: rest)

inductive IsFraction : List UInt8 → Prop
  | nil : IsFraction []
  | digits {first : UInt8} {rest : List UInt8} (digit : isDigit first = true)
      (digits : AreDigits rest) : IsFraction (46 :: first :: rest)

inductive IsExponent : List UInt8 → Prop
  | nil : IsExponent []
  | digits {mark first : UInt8} {sign rest : List UInt8} (letter : mark = 101 ∨ mark = 69)
      (signed : sign = [] ∨ sign = [43] ∨ sign = [45]) (digit : isDigit first = true)
      (digits : AreDigits rest) : IsExponent (mark :: (sign ++ first :: rest))

structure IsNumber (bytes : List UInt8) : Prop where
  split : ∃ sign whole fraction exponent,
    bytes = sign ++ (whole ++ (fraction ++ exponent)) ∧ (sign = [] ∨ sign = [45]) ∧
      IsWhole whole ∧ IsFraction fraction ∧ IsExponent exponent

/-- What may stand between the quotes of a text. -/
inductive IsText : List UInt8 → Prop
  | nil : IsText []
  | plain {byte : UInt8} {rest : List UInt8} (printable : ¬ byte < 32) (noQuote : byte ≠ 34)
      (noBackslash : byte ≠ 92) (text : IsText rest) : IsText (byte :: rest)
  | escape {letter : UInt8} {rest : List UInt8}
      (known : letter ∈ ([34, 92, 47, 98, 102, 110, 114, 116] : List UInt8))
      (text : IsText rest) : IsText (92 :: letter :: rest)
  | unicode {a b c d : UInt8} {rest : List UInt8} (hex : [a, b, c, d].all isHex = true)
      (text : IsText rest) : IsText (92 :: 117 :: a :: b :: c :: d :: rest)

/-- A value or a part of one. -/
inductive Phrase where
  | value (value : Value)
  /-- What stands between the brackets of an array. -/
  | items (items : List Value)
  | member (name : List UInt8) (value : Value)
  /-- What stands between the braces of an object. -/
  | members (members : List (List UInt8 × Value))

/-- The bytes that a phrase may be written as. -/
inductive Written : Phrase → List UInt8 → Prop
  | null : Written (.value .null) [110, 117, 108, 108]
  | true : Written (.value (.bool true)) [116, 114, 117, 101]
  | false : Written (.value (.bool false)) [102, 97, 108, 115, 101]
  | number {bytes : List UInt8} (number : IsNumber bytes) :
      Written (.value (.number bytes)) bytes
  | text {bytes : List UInt8} (text : IsText bytes) :
      Written (.value (.text bytes)) (34 :: (bytes ++ [34]))
  | emptyArray {blanks : List UInt8} (blank : IsBlank blanks) :
      Written (.value (.array [])) (91 :: (blanks ++ [93]))
  | array {items : List Value} {bytes : List UInt8} (inner : Written (.items items) bytes) :
      Written (.value (.array items)) (91 :: (bytes ++ [93]))
  | emptyObject {blanks : List UInt8} (blank : IsBlank blanks) :
      Written (.value (.object [])) (123 :: (blanks ++ [125]))
  | object {members : List (List UInt8 × Value)} {bytes : List UInt8}
      (inner : Written (.members members) bytes) :
      Written (.value (.object members)) (123 :: (bytes ++ [125]))
  | between {value : Value} {before bytes after : List UInt8} (front : IsBlank before)
      (inner : Written (.value value) bytes) (back : IsBlank after) :
      Written (.value value) (before ++ (bytes ++ after))
  | item {value : Value} {bytes : List UInt8} (inner : Written (.value value) bytes) :
      Written (.items [value]) bytes
  | items {value : Value} {items : List Value} {bytes rest : List UInt8}
      (inner : Written (.value value) bytes) (others : Written (.items items) rest) :
      Written (.items (value :: items)) (bytes ++ 44 :: rest)
  | member {name : List UInt8} {value : Value} {before after bytes : List UInt8}
      (front : IsBlank before) (text : IsText name) (back : IsBlank after)
      (inner : Written (.value value) bytes) :
      Written (.member name value) (before ++ (34 :: (name ++ [34]) ++ (after ++ 58 :: bytes)))
  | last {name : List UInt8} {value : Value} {bytes : List UInt8}
      (inner : Written (.member name value) bytes) : Written (.members [(name, value)]) bytes
  | members {name : List UInt8} {value : Value} {members : List (List UInt8 × Value)}
      {bytes rest : List UInt8} (inner : Written (.member name value) bytes)
      (others : Written (.members members) rest) :
      Written (.members ((name, value) :: members)) (bytes ++ 44 :: rest)

/-! ### Bytes to tokens -/

theorem lexFrom_cons
    {state next : LexState} {byte : UInt8} (stepped : state.step byte = some next)
    (bytes : List UInt8) : lexFrom state (byte :: bytes) = lexFrom next bytes := by
  rw [lexFrom, stepped]

theorem lexFrom_append (state : LexState) (front back : List UInt8) :
    lexFrom state (front ++ back) = (lexFrom state front).bind (lexFrom · back) := by
  induction front generalizing state with
  | nil => rfl
  | cons byte front inductionHypothesis =>
      rw [List.cons_append, lexFrom, lexFrom]
      cases state.step byte with
      | none => rfl
      | some next => exact inductionHypothesis next

/-- Takes bytes that go on with a number. -/
def NumberPart.walk (part : NumberPart) : List UInt8 → Option NumberPart
  | [] => some part
  | byte :: bytes => (part.next? byte).bind (walk · bytes)

namespace NumberPart

variable {part : NumberPart}

theorem walk_append (part : NumberPart) (front back : List UInt8) :
    part.walk (front ++ back) = (part.walk front).bind (walk · back) := by
  induction front generalizing part with
  | nil => rfl
  | cons byte front inductionHypothesis =>
      rw [List.cons_append, walk, walk]
      cases part.next? byte with
      | none => rfl
      | some next => exact inductionHypothesis next

theorem walk_digits
    (stays : ∀ byte, isDigit byte = true → part.next? byte = some part) {bytes : List UInt8}
    (digits : AreDigits bytes) : part.walk bytes = some part := by
  induction bytes with
  | nil => rfl
  | cons byte bytes inductionHypothesis =>
      rw [AreDigits, List.forall_mem_cons] at digits
      rw [walk, stays byte digits.1]
      exact inductionHypothesis digits.2

theorem walk_whole {bytes : List UInt8} (whole : IsWhole bytes) :
    NumberPart.sign.walk bytes = some .zero ∨ NumberPart.sign.walk bytes = some .digits := by
  cases whole with
  | zero => exact Or.inl rfl
  | @digits first rest digit nonzero digits =>
      right
      have onward : NumberPart.sign.next? first = some .digits := by
        simp only [next?, nonzero, digit, if_true, if_false]
      rw [walk, onward]
      exact walk_digits (fun byte digit => by simp only [next?, digit, if_true]) digits

/-- A number may have an exponent behind a part. -/
def Open (part : NumberPart) : Prop :=
  part = .zero ∨ part = .digits ∨ part = .fraction

theorem walk_fraction
    (whole : part = .zero ∨ part = .digits) {bytes : List UInt8} (fraction : IsFraction bytes) :
    ∃ next, part.walk bytes = some next ∧ next.Open := by
  cases fraction with
  | nil => exact ⟨part, rfl, whole.imp_right Or.inl⟩
  | @digits first rest digit digits =>
      have point : part.next? 46 = some .point := by
        rcases whole with rfl | rfl
        · rfl
        · rfl
      have onward : NumberPart.point.next? first = some .fraction := by
        simp only [next?, digit, if_true]
      refine ⟨.fraction, ?_, Or.inr (Or.inr rfl)⟩
      rw [walk, point, Option.bind_some, walk, onward]
      exact walk_digits (fun byte digit => by simp only [next?, digit, if_true]) digits

theorem walk_exponent
    (free : part.Open) {bytes : List UInt8} (exponent : IsExponent bytes) :
    ∃ next, part.walk bytes = some next ∧ next.complete = true := by
  cases exponent with
  | nil =>
      refine ⟨part, rfl, ?_⟩
      rcases free with rfl | rfl | rfl <;> rfl
  | @digits mark first sign rest letter signed digit digits =>
      have marked : part.next? mark = some .exponent := by
        rcases letter with rfl | rfl <;> rcases free with rfl | rfl | rfl <;> rfl
      have atOnce : NumberPart.exponent.next? first = some .exponentDigits := by
        simp only [next?, digit, if_true]
      have behindSign : NumberPart.exponentSign.next? first = some .exponentDigits := by
        simp only [next?, digit, if_true]
      have onward : NumberPart.exponent.walk (sign ++ [first]) = some .exponentDigits := by
        rcases signed with rfl | rfl | rfl
        · exact congrArg (Option.bind · _) atOnce
        · exact congrArg (Option.bind · _) behindSign
        · exact congrArg (Option.bind · _) behindSign
      have split : sign ++ first :: rest = (sign ++ [first]) ++ rest := by simp
      refine ⟨.exponentDigits, ?_, rfl⟩
      rw [walk, marked, Option.bind_some, split, walk_append, onward]
      exact walk_digits (fun byte digit => by simp only [next?, digit, if_true]) digits

end NumberPart

/-- The lexer can end or go on to another token, and has read these so far. -/
def LexState.Reads (state : LexState) (tokens : List Token) : Prop :=
  state.finish = some tokens

/-- The byte belongs to no number. -/
structure Ends (byte : UInt8) : Prop where
  next : ∀ part : NumberPart, part.next? byte = none
  digit : isDigit byte = false

theorem ends_of_isSpace {byte : UInt8} (space : isSpace byte = true) : Ends byte := by
  simp only [isSpace, Bool.or_eq_true, decide_eq_true_eq] at space
  rcases space with ((rfl | rfl) | rfl) | rfl <;>
    exact ⟨fun part => by cases part <;> rfl, rfl⟩

theorem step_of_reads
    {state : LexState} {tokens : List Token} (reads : state.Reads tokens) {byte : UInt8}
    (ends : Ends byte) : state.step byte = LexState.start tokens.reverse byte := by
  obtain ⟨before, mode⟩ := state
  cases mode with
  | between =>
      obtain rfl := Option.some.inj reads
      rw [List.reverse_reverse]
      rfl
  | number part written =>
      cases complete : part.complete with
      | true =>
          simp only [LexState.Reads, LexState.finish, complete, if_true] at reads
          obtain rfl := Option.some.inj reads
          simp only [LexState.step, ends.next, ends.digit, complete, List.reverse_reverse]
          rfl
      | false => simp [LexState.Reads, LexState.finish, complete] at reads
  | _ => cases reads

/-- However it is reached, these tokens are read off bytes. -/
def Lexes (bytes : List UInt8) (tokens : List Token) : Prop :=
  ∀ before, ∃ state, lexFrom ⟨before, .between⟩ bytes = some state ∧
    state.Reads (before.reverse ++ tokens)

/-- The byte is a token of its own. -/
structure Marks (byte : UInt8) (token : Token) : Prop where
  start : ∀ tokens, LexState.start tokens byte = some ⟨token :: tokens, .between⟩
  ends : Ends byte

theorem marks_comma : Marks 44 .comma :=
  ⟨fun _ => rfl, fun part => by cases part <;> rfl, rfl⟩

theorem marks_colon : Marks 58 .colon :=
  ⟨fun _ => rfl, fun part => by cases part <;> rfl, rfl⟩

theorem marks_openArray : Marks 91 .openArray :=
  ⟨fun _ => rfl, fun part => by cases part <;> rfl, rfl⟩

theorem marks_closeArray : Marks 93 .closeArray :=
  ⟨fun _ => rfl, fun part => by cases part <;> rfl, rfl⟩

theorem marks_openObject : Marks 123 .openObject :=
  ⟨fun _ => rfl, fun part => by cases part <;> rfl, rfl⟩

theorem marks_closeObject : Marks 125 .closeObject :=
  ⟨fun _ => rfl, fun part => by cases part <;> rfl, rfl⟩

namespace Lexes

variable {front back bytes blanks : List UInt8} {left right tokens : List Token}

theorem nil : Lexes [] [] := fun before =>
  ⟨⟨before, .between⟩, rfl, by rw [List.append_nil]; rfl⟩

theorem lex_eq (lexes : Lexes bytes tokens) : lex bytes = some tokens := by
  obtain ⟨state, ran, reads⟩ := lexes []
  rw [lex, ran]
  exact reads

theorem of_token
    {token : Token}
    (reads : ∀ before,
      lexFrom ⟨before, .between⟩ bytes = some ⟨token :: before, .between⟩) :
    Lexes bytes [token] := fun before =>
  ⟨_, reads before, congrArg some List.reverse_cons⟩

theorem append_mark
    (first : Lexes front left) {byte : UInt8} {token : Token} (marks : Marks byte token)
    (second : Lexes back right) : Lexes (front ++ byte :: back) (left ++ token :: right) := by
  intro before
  obtain ⟨middle, ran, reads⟩ := first before
  obtain ⟨state, rest, last⟩ := second (token :: (before.reverse ++ left).reverse)
  refine ⟨state, ?_, ?_⟩
  · have stepped := (step_of_reads reads marks.ends).trans (marks.start _)
    rw [lexFrom_append, ran, Option.bind_some, lexFrom_cons stepped]
    exact rest
  · simpa using last

theorem cons_mark
    {byte : UInt8} {token : Token} (marks : Marks byte token) (second : Lexes back right) :
    Lexes (byte :: back) (token :: right) :=
  nil.append_mark marks second

theorem append_blank (first : Lexes front left) (blank : IsBlank blanks) :
    Lexes (front ++ blanks) left := by
  induction blanks generalizing front with
  | nil => rwa [List.append_nil]
  | cons byte blanks inductionHypothesis =>
      rw [IsBlank, List.forall_mem_cons] at blank
      have onward : Lexes (front ++ [byte]) left := by
        intro before
        obtain ⟨middle, ran, reads⟩ := first before
        refine ⟨⟨(before.reverse ++ left).reverse, .between⟩, ?_, ?_⟩
        · have stepped := (step_of_reads reads (ends_of_isSpace blank.1)).trans (if_pos blank.1)
          rw [lexFrom_append, ran, Option.bind_some, lexFrom_cons stepped]
          rfl
        · exact congrArg some (List.reverse_reverse _)
      have whole := inductionHypothesis onward blank.2
      rwa [List.append_assoc] at whole

theorem blank_append (blank : IsBlank blanks) (second : Lexes back right) :
    Lexes (blanks ++ back) right := by
  induction blanks with
  | nil => exact second
  | cons byte blanks inductionHypothesis =>
      rw [IsBlank, List.forall_mem_cons] at blank
      intro before
      obtain ⟨state, ran, reads⟩ := inductionHypothesis blank.2 before
      refine ⟨state, ?_, reads⟩
      have stepped : LexState.step ⟨before, .between⟩ byte = some ⟨before, .between⟩ :=
        if_pos blank.1
      rw [List.cons_append, lexFrom_cons stepped]
      exact ran

end Lexes

theorem lexFrom_walk
    {part next : NumberPart} {bytes : List UInt8} (walked : part.walk bytes = some next)
    (tokens : List Token) (written : List UInt8) :
    lexFrom ⟨tokens, .number part written⟩ bytes =
      some ⟨tokens, .number next (bytes.reverse ++ written)⟩ := by
  induction bytes generalizing part written with
  | nil =>
      cases walked
      rfl
  | cons byte bytes inductionHypothesis =>
      rw [NumberPart.walk, Option.bind_eq_some_iff] at walked
      obtain ⟨middle, onward, walked⟩ := walked
      have stepped : LexState.step ⟨tokens, .number part written⟩ byte =
          some ⟨tokens, .number middle (byte :: written)⟩ := by
        simp only [LexState.step, onward]
      rw [lexFrom_cons stepped, inductionHypothesis walked, List.reverse_cons,
        List.append_assoc, List.singleton_append]

/-- What goes on with a number of which only a sign was read can also begin one. -/
theorem start_of_next
    {byte : UInt8} {part : NumberPart} (next : NumberPart.sign.next? byte = some part)
    (tokens : List Token) :
    LexState.start tokens byte = some ⟨tokens, .number part [byte]⟩ := by
  have digit : isDigit byte = true := by
    by_cases zero : byte = 48
    · rw [zero]
      rfl
    · cases digit : isDigit byte with
      | true => rfl
      | false => simp [NumberPart.next?, zero, digit] at next
  have other : ∀ mark, isDigit mark = false → byte ≠ mark := by
    intro mark none same
    rw [← same, digit] at none
    cases none
  have space : isSpace byte = false := by
    simp [isSpace, other 32 rfl, other 10 rfl, other 9 rfl, other 13 rfl]
  simp only [LexState.start, space, other 123 rfl, other 125 rfl, other 91 rfl, other 93 rfl,
    other 44 rfl, other 58 rfl, other 34 rfl, other 110 rfl, other 116 rfl, other 102 rfl,
    other 45 rfl, Bool.false_eq_true, if_false]
  simp only [NumberPart.next?] at next
  by_cases zero : byte = 48
  · rw [if_pos zero] at next ⊢
    cases next
    rfl
  · rw [if_neg zero, if_pos digit] at next ⊢
    cases next
    rfl

theorem lexes_number {bytes : List UInt8} (number : IsNumber bytes) :
    Lexes bytes [.number bytes] := by
  obtain ⟨sign, whole, fraction, exponent, rfl, signed, isWhole, isFraction, isExponent⟩ :=
    number.split
  obtain ⟨last, walked, complete⟩ : ∃ last,
      NumberPart.sign.walk (whole ++ (fraction ++ exponent)) = some last ∧
        last.complete = true := by
    obtain ⟨middle, first, digits⟩ : ∃ middle, NumberPart.sign.walk whole = some middle ∧
        (middle = .zero ∨ middle = .digits) := by
      rcases NumberPart.walk_whole isWhole with zero | digits
      · exact ⟨_, zero, Or.inl rfl⟩
      · exact ⟨_, digits, Or.inr rfl⟩
    obtain ⟨next, second, free⟩ := NumberPart.walk_fraction digits isFraction
    obtain ⟨last, third, complete⟩ := NumberPart.walk_exponent free isExponent
    refine ⟨last, ?_, complete⟩
    rw [NumberPart.walk_append, first, Option.bind_some, NumberPart.walk_append, second]
    exact third
  intro before
  refine ⟨⟨before, .number last (sign ++ (whole ++ (fraction ++ exponent))).reverse⟩, ?_, ?_⟩
  · generalize whole ++ (fraction ++ exponent) = digits at walked
    rcases signed with rfl | rfl
    · cases digits with
      | nil =>
          cases walked
          cases complete
      | cons first rest =>
          rw [NumberPart.walk, Option.bind_eq_some_iff] at walked
          obtain ⟨middle, next, walked⟩ := walked
          have begun : LexState.step ⟨before, .between⟩ first =
              some ⟨before, .number middle [first]⟩ := start_of_next next before
          rw [List.nil_append, lexFrom_cons begun, lexFrom_walk walked, List.reverse_cons]
    · have begun : LexState.step ⟨before, .between⟩ 45 =
          some ⟨before, .number .sign [45]⟩ := rfl
      rw [List.singleton_append, lexFrom_cons begun, lexFrom_walk walked, List.reverse_cons]
  · simp only [LexState.Reads, LexState.finish, complete, if_true, List.reverse_reverse,
      List.reverse_cons]

theorem lexFrom_text {bytes : List UInt8} (text : IsText bytes) (tokens : List Token)
    (written : List UInt8) :
    lexFrom ⟨tokens, .text written⟩ bytes =
      some ⟨tokens, .text (bytes.reverse ++ written)⟩ := by
  induction text generalizing written with
  | nil => rfl
  | @plain byte rest printable noQuote noBackslash text inductionHypothesis =>
      have stepped : LexState.step ⟨tokens, .text written⟩ byte =
          some ⟨tokens, .text (byte :: written)⟩ := by
        simp only [LexState.step, noQuote, noBackslash, printable, if_false]
      rw [lexFrom_cons stepped, inductionHypothesis, List.reverse_cons, List.append_assoc,
        List.singleton_append]
  | @escape letter rest known text inductionHypothesis =>
      have begun : LexState.step ⟨tokens, .text written⟩ 92 =
          some ⟨tokens, .escape (92 :: written)⟩ := rfl
      have letters : ascii "\"\\/bfnrt" = [34, 92, 47, 98, 102, 110, 114, 116] := by decide
      have plain : letter ≠ 117 := by
        rintro rfl
        exact absurd known (by decide)
      have stepped : LexState.step ⟨tokens, .escape (92 :: written)⟩ letter =
          some ⟨tokens, .text (letter :: 92 :: written)⟩ := by
        simp only [LexState.step, plain, letters, List.contains_iff_mem, known, if_true, if_false]
      rw [lexFrom_cons begun, lexFrom_cons stepped, inductionHypothesis]
      simp
  | @unicode a b c d rest hex text inductionHypothesis =>
      have begun : LexState.step ⟨tokens, .text written⟩ 92 =
          some ⟨tokens, .escape (92 :: written)⟩ := rfl
      have stepped : LexState.step ⟨tokens, .escape (92 :: written)⟩ 117 =
          some ⟨tokens, .hex 4 (117 :: 92 :: written)⟩ := rfl
      simp only [List.all_cons, List.all_nil, Bool.and_true, Bool.and_eq_true] at hex
      obtain ⟨first, second, third, fourth⟩ := hex
      rw [lexFrom_cons begun, lexFrom_cons stepped]
      simp [lexFrom, LexState.step, first, second, third, fourth, inductionHypothesis]

theorem lexes_text {bytes : List UInt8} (text : IsText bytes) :
    Lexes (34 :: (bytes ++ [34])) [.text bytes] := by
  apply Lexes.of_token
  intro before
  have opened : LexState.step ⟨before, .between⟩ 34 = some ⟨before, .text []⟩ := rfl
  rw [lexFrom_cons opened]
  simp only [lexFrom_append, lexFrom_text text, Option.bind_some, lexFrom, LexState.step,
    List.append_nil, List.reverse_reverse, if_true]

/-! ### Tokens to values -/

theorem BuildState.run_cons
    {state next : BuildState} {token : Token} (stepped : state.step token = some next)
    (tokens : List Token) : state.run (token :: tokens) = next.run tokens := by
  rw [BuildState.run, stepped]

theorem BuildState.run_append (state : BuildState) (front back : List Token) :
    state.run (front ++ back) = (state.run front).bind (·.run back) := by
  induction front generalizing state with
  | nil => rfl
  | cons token front inductionHypothesis =>
      rw [List.cons_append, BuildState.run, BuildState.run]
      cases state.step token with
      | none => rfl
      | some next => exact inductionHypothesis next

open BuildState in
/-- Whatever is still unfinished, the tokens add a phrase to it. -/
def Phrase.Builds : Phrase → List Token → Prop
  | value content, tokens => ∀ stack expecting, expecting = .value ∨ expecting = .item →
      run ⟨stack, expecting⟩ tokens = some (put content stack)
  | items contents, tokens => ∀ stack earlier expecting, expecting = .value ∨ expecting = .item →
      run ⟨.array earlier :: stack, expecting⟩ tokens =
        some ⟨.array (contents.reverse ++ earlier) :: stack, .comma⟩
  | member name content, tokens => ∀ stack earlier expecting,
      expecting = .name earlier ∨ (expecting = .member ∧ earlier = []) →
      run ⟨stack, expecting⟩ tokens =
        some ⟨.object ((name, content) :: earlier) [] :: stack, .comma⟩
  | members contents, tokens => ∀ stack earlier expecting,
      expecting = .name earlier ∨ (expecting = .member ∧ earlier = []) →
      run ⟨stack, expecting⟩ tokens =
        some ⟨.object (contents.reverse ++ earlier) [] :: stack, .comma⟩

/-- A value that is one token. -/
theorem builds_token
    {value : Value} {token : Token} (notEnd : token ≠ .closeArray)
    (begins : ∀ stack, BuildState.begin stack token = some (BuildState.put value stack)) :
    (Phrase.value value).Builds [token] := by
  intro stack expecting either
  have begun : BuildState.step ⟨stack, expecting⟩ token = some (BuildState.put value stack) := by
    rcases either with rfl | rfl
    · exact begins stack
    · cases token <;> first | exact absurd rfl notEnd | exact begins stack
  exact BuildState.run_cons begun []

theorem reads_of_written {phrase : Phrase} {bytes : List UInt8} (written : Written phrase bytes) :
    ∃ tokens, Lexes bytes tokens ∧ phrase.Builds tokens := by
  -- On how the phrase is written: its parts are read wherever they stand, so also inside it.
  induction written with
  | null =>
      have lexes : Lexes [110, 117, 108, 108] [.null] := Lexes.of_token fun _ => rfl
      exact ⟨_, lexes, builds_token nofun fun _ => rfl⟩
  | true =>
      have lexes : Lexes [116, 114, 117, 101] [.bool true] := Lexes.of_token fun _ => rfl
      exact ⟨_, lexes, builds_token nofun fun _ => rfl⟩
  | false =>
      have lexes : Lexes [102, 97, 108, 115, 101] [.bool false] := Lexes.of_token fun _ => rfl
      exact ⟨_, lexes, builds_token nofun fun _ => rfl⟩
  | number number => exact ⟨_, lexes_number number, builds_token nofun fun _ => rfl⟩
  | text text => exact ⟨_, lexes_text text, builds_token nofun fun _ => rfl⟩
  | emptyArray blank =>
      have inside := (Lexes.nil.append_blank blank).append_mark marks_closeArray Lexes.nil
      refine ⟨_, inside.cons_mark marks_openArray, ?_⟩
      intro stack expecting either
      rcases either with rfl | rfl <;> rfl
  | @array items bytes _ inductionHypothesis =>
      obtain ⟨tokens, lexes, builds⟩ := inductionHypothesis
      have inside := lexes.append_mark marks_closeArray Lexes.nil
      refine ⟨_, inside.cons_mark marks_openArray, ?_⟩
      intro stack expecting either
      have within := builds stack [] .item (Or.inr rfl)
      have begun : BuildState.step ⟨stack, expecting⟩ .openArray =
          some ⟨.array [] :: stack, .item⟩ := by
        rcases either with rfl | rfl <;> rfl
      rw [BuildState.run_cons begun, BuildState.run_append, within]
      simp only [List.append_nil, Option.bind_some, BuildState.run, BuildState.step,
        List.reverse_reverse]
  | emptyObject blank =>
      have inside := (Lexes.nil.append_blank blank).append_mark marks_closeObject Lexes.nil
      refine ⟨_, inside.cons_mark marks_openObject, ?_⟩
      intro stack expecting either
      rcases either with rfl | rfl <;> rfl
  | @object members bytes _ inductionHypothesis =>
      obtain ⟨tokens, lexes, builds⟩ := inductionHypothesis
      have inside := lexes.append_mark marks_closeObject Lexes.nil
      refine ⟨_, inside.cons_mark marks_openObject, ?_⟩
      intro stack expecting either
      have within := builds stack [] .member (Or.inr ⟨rfl, rfl⟩)
      have begun : BuildState.step ⟨stack, expecting⟩ .openObject = some ⟨stack, .member⟩ := by
        rcases either with rfl | rfl <;> rfl
      rw [BuildState.run_cons begun, BuildState.run_append, within]
      simp only [List.append_nil, Option.bind_some, BuildState.run, BuildState.step,
        List.reverse_reverse]
  | between front _ back inductionHypothesis =>
      obtain ⟨tokens, lexes, builds⟩ := inductionHypothesis
      exact ⟨tokens, (lexes.append_blank back).blank_append front, builds⟩
  | item _ inductionHypothesis =>
      obtain ⟨tokens, lexes, builds⟩ := inductionHypothesis
      exact ⟨tokens, lexes, fun stack earlier => builds (.array earlier :: stack)⟩
  | @items value items bytes rest _ _ first others =>
      obtain ⟨left, lexes, builds⟩ := first
      obtain ⟨right, lexesRest, buildsRest⟩ := others
      refine ⟨_, lexes.append_mark marks_comma lexesRest, ?_⟩
      intro stack earlier expecting either
      have begun := builds (.array earlier :: stack) expecting either
      have onward := buildsRest stack (value :: earlier) .value (Or.inl rfl)
      simp only [BuildState.run_append, begun, BuildState.put, Option.bind_some, BuildState.run,
        BuildState.step, onward, List.reverse_cons, List.append_assoc, List.singleton_append]
  | @member name value before after bytes front text back _ inductionHypothesis =>
      obtain ⟨tokens, lexes, builds⟩ := inductionHypothesis
      have named := (lexes_text text).append_blank back
      have whole := (named.append_mark marks_colon lexes).blank_append front
      refine ⟨.text name :: .colon :: tokens, by simpa using whole, ?_⟩
      intro stack earlier expecting either
      have within := builds (.object earlier name :: stack) .value (Or.inl rfl)
      have begun : BuildState.step ⟨stack, expecting⟩ (.text name) =
          some ⟨stack, .colon earlier name⟩ := by
        rcases either with rfl | ⟨rfl, rfl⟩ <;> rfl
      have onward : BuildState.step ⟨stack, .colon earlier name⟩ .colon =
          some ⟨.object earlier name :: stack, .value⟩ := rfl
      rw [BuildState.run_cons begun, BuildState.run_cons onward, within]
      rfl
  | last _ inductionHypothesis =>
      obtain ⟨tokens, lexes, builds⟩ := inductionHypothesis
      exact ⟨tokens, lexes, builds⟩
  | @members name value members bytes rest _ _ first others =>
      obtain ⟨left, lexes, builds⟩ := first
      obtain ⟨right, lexesRest, buildsRest⟩ := others
      refine ⟨_, lexes.append_mark marks_comma lexesRest, ?_⟩
      intro stack earlier expecting either
      have begun := builds stack earlier expecting either
      have onward := buildsRest stack ((name, value) :: earlier) _ (Or.inl rfl)
      simp only [BuildState.run_append, begun, Option.bind_some, BuildState.run,
        BuildState.step, onward, List.reverse_cons, List.append_assoc, List.singleton_append]

/-- Every way to write a value is read as this value. -/
theorem parse?_of_written
    {value : Value} {bytes : List UInt8} (written : Written (.value value) bytes) :
    parse? bytes = some value := by
  obtain ⟨tokens, lexes, builds⟩ := reads_of_written written
  have built := builds [] .value (Or.inl rfl)
  simp only [parse?, lexes.lex_eq, Option.bind_eq_bind, Option.bind_some]
  rw [built]
  rfl

end Reservations.Json
