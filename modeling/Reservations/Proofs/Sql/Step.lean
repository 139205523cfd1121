import Reservations.Proofs.Sql.Scan

namespace Reservations

/-! ## What one step of scanning takes

A rule takes characters from the front of a text and leaves the others as they are. -/

namespace Text

/-- Only a doubled text is read up to its closing quote. By induction on the characters: where
the next one is the second quote of a pair, the first of them is put back. -/
theorem exists_doubled_of_readDoubled?
    {quote : Char} {paired : Bool} {read cs value rest : List Char}
    (second : paired = true → cs.head? = some quote)
    (found : readDoubled? quote paired read cs = some (value, rest)) :
    ∃ more, value = read.reverse ++ more ∧
      (if paired then quote :: cs else cs) = doubled quote more ++ quote :: rest := by
  induction cs generalizing paired read with
  | nil => cases paired <;> cases found
  | cons c cs inductionHypothesis =>
      cases paired with
      | true =>
          obtain rfl : c = quote := Option.some.inj (second rfl)
          obtain ⟨more, rfl, same⟩ := inductionHypothesis (by simp) found
          refine ⟨c :: more, by simp, ?_⟩
          rw [if_neg Bool.false_ne_true] at same
          simp [doubled, same]
      | false =>
          rw [if_neg Bool.false_ne_true]
          rw [readDoubled?] at found
          split_ifs at found with other pair
          · obtain ⟨more, rfl, same⟩ := inductionHypothesis (by simp) found
            refine ⟨c :: more, by simp, ?_⟩
            rw [if_neg Bool.false_ne_true] at same
            simp [doubled, other, same]
          · obtain rfl : c = quote := not_not.mp other
            exact inductionHypothesis (fun _ => pair) found
          · obtain rfl : c = quote := not_not.mp other
            obtain ⟨rfl, rfl⟩ := Prod.mk.inj (Option.some.inj found)
            exact ⟨[], (List.append_nil _).symm, rfl⟩

theorem eq_doubled_of_readDoubled?
    {quote : Char} {cs value rest : List Char}
    (found : readDoubled? quote false [] cs = some (value, rest)) :
    cs = doubled quote value ++ quote :: rest := by
  obtain ⟨_, rfl, same⟩ := exists_doubled_of_readDoubled? (by simp) found
  exact same

end Text

namespace Sql

/-! ### Comments and quoted texts -/

theorem suffix_of_skipComment?
    {depth : Nat} {cs rest : List Char} (found : skipComment? depth cs = some rest) :
    rest <:+ cs := by
  fun_induction skipComment? depth cs with
  | case1 depth cs inductionHypothesis =>
      exact (inductionHypothesis found).trans (List.suffix_append ['/', '*'] cs)
  | case2 cs =>
      obtain rfl := Option.some.inj found
      exact List.suffix_append ['*', '/'] cs
  | case3 depth cs inductionHypothesis =>
      exact (inductionHypothesis found).trans (List.suffix_append ['*', '/'] cs)
  | case4 depth c cs _ _ _ inductionHypothesis =>
      exact (inductionHypothesis found).trans (List.suffix_cons c cs)
  | case5 => cases found

theorem suffix_of_readBackslashed?
    {read cs value rest : List Char} (found : readBackslashed? read cs = some (value, rest)) :
    rest <:+ cs := by
  fun_induction readBackslashed? read cs with
  | case1 read c cs meaning inductionHypothesis =>
      exact (inductionHypothesis found).trans (List.suffix_append ['\\', c] cs)
  | case2 read cs inductionHypothesis =>
      exact (inductionHypothesis found).trans (List.suffix_append ['\'', '\''] cs)
  | case3 read cs _ =>
      obtain ⟨_, rfl⟩ := Prod.mk.inj (Option.some.inj found)
      exact List.suffix_cons '\'' cs
  | case4 read c cs _ _ _ inductionHypothesis =>
      exact (inductionHypothesis found).trans (List.suffix_cons c cs)
  | case5 => cases found

theorem suffix_of_readEscaped?
    {taken : Nat} {read cs value rest : List Char}
    (found : readEscaped? taken read cs = some (value, rest)) :
    rest <:+ cs := by
  fun_induction readEscaped? taken read cs with
  | case1 taken read c cs inductionHypothesis =>
      exact (inductionHypothesis found).trans (List.suffix_cons c cs)
  | case2 read cs inductionHypothesis =>
      exact (inductionHypothesis found).trans (List.suffix_append ['\'', '\''] cs)
  | case3 read cs _ =>
      obtain ⟨_, rfl⟩ := Prod.mk.inj (Option.some.inj found)
      exact List.suffix_cons '\'' cs
  | case4 | case5 | case8 => cases found
  | case6 read cs c taken _ _ inductionHypothesis =>
      exact (inductionHypothesis found).trans (List.suffix_cons '\\' cs)
  | case7 read c cs _ _ _ inductionHypothesis =>
      exact (inductionHypothesis found).trans (List.suffix_cons c cs)

theorem suffix_of_readCodePoints?
    {taken : Nat} {read cs value rest : List Char}
    (found : readCodePoints? taken read cs = some (value, rest)) :
    rest <:+ cs := by
  fun_induction readCodePoints? taken read cs with
  | case1 taken read c cs inductionHypothesis =>
      exact (inductionHypothesis found).trans (List.suffix_cons c cs)
  | case2 read cs inductionHypothesis =>
      exact (inductionHypothesis found).trans (List.suffix_append ['\'', '\''] cs)
  | case3 read cs _ =>
      obtain ⟨_, rfl⟩ := Prod.mk.inj (Option.some.inj found)
      exact List.suffix_cons '\'' cs
  | case4 | case7 => cases found
  | case5 read cs c taken _ inductionHypothesis =>
      exact (inductionHypothesis found).trans (List.suffix_cons '\\' cs)
  | case6 read c cs _ _ _ inductionHypothesis =>
      exact (inductionHypothesis found).trans (List.suffix_cons c cs)

theorem suffix_of_splitAtFirst?
    {stop read cs value rest : List Char}
    (found : splitAtFirst? stop read cs = some (value, rest)) :
    rest <:+ cs := by
  fun_induction splitAtFirst? stop read cs with
  | case1 read _ =>
      obtain ⟨_, rfl⟩ := Prod.mk.inj (Option.some.inj found)
      exact List.suffix_refl _
  | case2 => cases found
  | case3 read c cs _ =>
      obtain ⟨_, rfl⟩ := Prod.mk.inj (Option.some.inj found)
      exact List.drop_suffix _ _
  | case4 read c cs _ inductionHypothesis =>
      exact (inductionHypothesis found).trans (List.suffix_cons c cs)

theorem exists_of_map_fst
    {α β : Type} {read : Option (α × List Char)} {make : α → β} {value : β} {rest : List Char}
    (found : read.map (Prod.map make id) = some (value, rest)) :
    ∃ first, read = some (first, rest) ∧ make first = value := by
  obtain ⟨⟨first, _⟩, read, same⟩ := Option.map_eq_some_iff.mp found
  obtain ⟨rfl, rfl⟩ := Prod.mk.inj same
  exact ⟨first, read, rfl⟩

theorem exists_of_asLiteral
    {kind : String → Literal} {read : Option (List Char × List Char)} {token : Token}
    {rest : List Char} (found : asLiteral kind read = some (token, rest)) :
    ∃ value, read = some (value, rest) ∧ .literal (kind (String.ofList value)) = token :=
  exists_of_map_fst found

/-- A placeholder is read as it is written, with every letter and digit behind it. -/
theorem readDollar?_eq_some
    {cs rest : List Char} {token : Token} (found : readDollar? cs = some (token, rest)) :
    (∃ tag value, token = .literal (.dollar tag value) ∧ rest <:+ cs) ∨
      ∃ tag, token = .literal (.placeholder (String.ofList ('$' :: tag))) ∧ cs = tag ++ rest ∧
        rest.head?.any Text.isAlphanumeric = false := by
  rw [readDollar?, List.span_eq_takeWhile_dropWhile] at found
  set isTag : Char → Bool := fun c => Text.isAlphanumeric c || c = '_'
  have split := List.takeWhile_append_dropWhile (p := isTag) (l := cs)
  have stops := List.head?_dropWhile_not isTag cs
  generalize cs.takeWhile isTag = tag at found split
  generalize cs.dropWhile isTag = behind at found split stops
  subst split
  dsimp only at found
  split at found
  · next body =>
      obtain ⟨⟨value, _⟩, read, same⟩ := Option.map_eq_some_iff.mp found
      obtain ⟨rfl, rfl⟩ := Prod.mk.inj same
      refine Or.inl ⟨_, _, rfl, ?_⟩
      exact (suffix_of_splitAtFirst? read).trans
        ((List.suffix_cons '$' body).trans (List.suffix_append tag _))
  · obtain ⟨rfl, rfl⟩ := Prod.mk.inj (Option.some.inj found)
    refine Or.inr ⟨tag, rfl, rfl, ?_⟩
    cases behind with
    | nil => rfl
    | cons c behind => exact (Bool.or_eq_false_iff.mp stops).1

/-! ### Numbers -/

theorem spanDigits_append (isDigit : Char → Bool) (cs : List Char) :
    (spanDigits isDigit cs).1 ++ (spanDigits isDigit cs).2 = cs := by
  induction cs with
  | nil => rfl
  | cons c cs inductionHypothesis =>
      rw [spanDigits]
      split
      · exact congrArg (c :: ·) inductionHypothesis
      · rfl

theorem suffix_spanDigits (isDigit : Char → Bool) (cs : List Char) :
    (spanDigits isDigit cs).2 <:+ cs :=
  ⟨_, spanDigits_append isDigit cs⟩

theorem suffix_span (p : Char → Bool) (cs : List Char) : (cs.span p).2 <:+ cs := by
  rw [List.span_eq_takeWhile_dropWhile]
  exact List.dropWhile_suffix p

theorem suffix_spanExponent (cs : List Char) : (spanExponent cs).2 <:+ cs := by
  have marked := suffix_span (fun c => c = 'e' || c = 'E') cs
  unfold spanExponent
  generalize cs.span (fun c => c = 'e' || c = 'E') = first at marked
  obtain ⟨mark, rest⟩ := first
  dsimp only at marked ⊢
  split
  · next rest =>
      split_ifs
      · exact (suffix_span Text.isDigit rest).trans ((List.suffix_cons '+' rest).trans marked)
      · exact List.suffix_refl cs
  · next rest =>
      split_ifs
      · exact (suffix_span Text.isDigit rest).trans ((List.suffix_cons '-' rest).trans marked)
      · exact List.suffix_refl cs
  · split_ifs
    · exact (suffix_span Text.isDigit rest).trans marked
    · exact List.suffix_refl cs

theorem suffix_readNumber (cs : List Char) : (readNumber cs).2 <:+ cs := by
  have whole := suffix_spanDigits Text.isDigit cs
  unfold readNumber
  split
  · next rest found =>
      rw [found] at whole
      exact (suffix_spanDigits isHexDigit rest).trans ((List.suffix_cons 'x' rest).trans whole)
  · next whole' rest _ found =>
      rw [found] at whole
      dsimp only
      grind [suffix_spanDigits, suffix_spanExponent, List.IsSuffix.trans, List.suffix_cons]

/-- The token of a number, or a period that begins none. -/
theorem readNumber_eq (cs : List Char) :
    (readNumber cs).1 = .mark .period ∨
      (∃ value, (readNumber cs).1 = .literal (.hexadecimal value)) ∨
        ∃ digits long, (readNumber cs).1 = .literal (.number digits long) := by
  unfold readNumber
  split
  · exact Or.inr (Or.inl ⟨_, rfl⟩)
  · dsimp only
    split_ifs
    · exact Or.inl rfl
    · refine Or.inr (Or.inr ?_)
      split
      · exact ⟨_, _, rfl⟩
      · exact ⟨_, _, rfl⟩

/-! ### Operators -/

theorem readOperator?_eq_some
    {cs rest : List Char} {token : Token}
    (found : readOperator? cs = some (some (token, rest))) :
    (∃ text, token = .operator text) ∧ rest <:+ cs := by
  obtain ⟨⟨text, growth⟩, _, found⟩ := Option.map_eq_some_iff.mp found
  have behind := List.drop_suffix text.length cs
  dsimp only at found
  split at found
  · obtain ⟨rfl, rfl⟩ := Prod.mk.inj (Option.some.inj found)
    refine ⟨⟨text, rfl⟩, ?_⟩
    split_ifs
    · exact (List.drop_suffix 1 _).trans behind
    · exact behind
  · split_ifs at found
    obtain ⟨rfl, rfl⟩ := Prod.mk.inj (Option.some.inj found)
    exact ⟨⟨_, rfl⟩, (suffix_span growsOperator _).trans behind⟩

/-! ### One step -/

/-- Whether a literal is written with its text as it is, but for the quotes in it. -/
def Literal.isVerbatim : Literal → Bool
  | .text _ | .national _ | .bits _ | .placeholder _ => true
  | _ => false

/-- How a text begins, the token that is read there, and what follows. -/
inductive Takes : List Char → Option Token → List Char → Prop
  | blank {c : Char} {rest : List Char} (space : isSpace c = true) : Takes (c :: rest) none rest
  | line (cs : List Char) : Takes ('-' :: '-' :: cs) none (skipLine cs)
  | comment {cs rest : List Char} (closed : skipComment? 0 cs = some rest) :
      Takes ('/' :: '*' :: cs) none rest
  | word {c : Char} {cs : List Char} (starts : startsName c = true) :
      Takes (c :: cs) (some (readWord c cs).1) (readWord c cs).2
  | text (value rest : List Char) :
      Takes ('\'' :: (Text.doubled '\'' value ++ '\'' :: rest))
        (some (.literal (.text (String.ofList value)))) rest
  | bits {c : Char} (starts : startsName c = true) (value rest : List Char) :
      Takes (c :: '\'' :: (Text.doubled '\'' value ++ '\'' :: rest))
        (some (.literal (.bits (String.ofList value)))) rest
  | national {c : Char} (starts : startsName c = true) (value rest : List Char) :
      Takes (c :: '\'' :: (Text.doubled '\'' value ++ '\'' :: rest))
        (some (.literal (.national (String.ofList value)))) rest
  | quoted (name rest : List Char) :
      Takes ('"' :: (Text.doubled '"' name ++ '"' :: rest))
        (some (.quoted (String.ofList name))) rest
  | placeholder (tag : List Char) {rest : List Char}
      (ends : rest.head?.any Text.isAlphanumeric = false) :
      Takes ('$' :: (tag ++ rest)) (some (.literal (.placeholder (String.ofList ('$' :: tag)))))
        rest
  | literal {cs rest : List Char} {value : Literal} (other : value.isVerbatim = false)
      (suffix : rest <:+ cs) : Takes cs (some (.literal value)) rest
  | mark {c : Char} {rest : List Char} {separator : Mark} (known : markOf? c = some separator) :
      Takes (c :: rest) (some (.mark separator)) rest
  | period {cs rest : List Char} (suffix : rest <:+ cs) : Takes cs (some (.mark .period)) rest
  | operator {cs rest : List Char} (text : String) (suffix : rest <:+ cs) :
      Takes cs (some (.operator text)) rest
  | sign {c : Char} {rest : List Char} {token : Token}
      (known : token matches .colon _ | .atSign _ | .stray _) : Takes (c :: rest) (some token) rest

theorem step?_space
    {c : Char} (space : isSpace c = true) (afterWord : Bool) (cs : List Char) :
    step? afterWord c cs = some (none, cs) := by
  unfold step?
  exact if_pos space

namespace Takes

theorem of_readNamed?
    {c : Char} {cs rest : List Char} {token : Token} (starts : startsName c = true)
    (found : readNamed? c cs = some (token, rest)) :
    Takes (c :: cs) (some token) rest := by
  unfold readNamed? at found
  split at found
  · obtain ⟨value, read, rfl⟩ := exists_of_asLiteral found
    rw [Text.eq_doubled_of_readDoubled? read]
    exact bits starts value rest
  · next body =>
      obtain ⟨value, read, rfl⟩ := exists_of_asLiteral found
      refine literal rfl ?_
      rw [Text.eq_doubled_of_readDoubled? read]
      exact ⟨c :: '"' :: (Text.doubled '"' value ++ ['"']), by simp⟩
  · obtain ⟨value, read, rfl⟩ := exists_of_asLiteral found
    rw [Text.eq_doubled_of_readDoubled? read]
    exact national starts value rest
  · next body _ =>
      obtain ⟨value, read, rfl⟩ := exists_of_asLiteral found
      exact literal rfl ((suffix_of_readEscaped? read).trans (List.suffix_append [c, '\''] body))
  · next body _ =>
      obtain ⟨value, read, rfl⟩ := exists_of_asLiteral found
      exact literal rfl
        ((suffix_of_readCodePoints? read).trans (List.suffix_append [c, '&', '\''] body))
  · next body _ =>
      obtain ⟨value, read, rfl⟩ := exists_of_asLiteral found
      exact literal rfl
        ((suffix_of_readBackslashed? read).trans (List.suffix_append [c, '\''] body))
  · obtain ⟨rfl, rfl⟩ := Prod.mk.inj (Option.some.inj found)
    exact word starts

theorem of_readNumber (cs : List Char) :
    Takes cs (some (readNumber cs).1) (readNumber cs).2 := by
  have suffix := suffix_readNumber cs
  rcases readNumber_eq cs with same | ⟨value, same⟩ | ⟨digits, long, same⟩
  · rw [same]
    exact period suffix
  · rw [same]
    exact literal rfl suffix
  · rw [same]
    exact literal rfl suffix

theorem of_readOther?
    {c : Char} {cs rest : List Char} {token : Token}
    (found : readOther? c cs = some (token, rest)) :
    Takes (c :: cs) (some token) rest := by
  unfold readOther? at found
  split at found
  · next separator known =>
      obtain ⟨rfl, rfl⟩ := Prod.mk.inj (Option.some.inj found)
      exact mark known
  · split at found
    · next read =>
        subst found
        obtain ⟨⟨text, rfl⟩, suffix⟩ := readOperator?_eq_some read
        exact operator text suffix
    · obtain ⟨rfl, rfl⟩ := Prod.mk.inj (Option.some.inj found)
      refine sign ?_
      split_ifs <;> rfl

/-- One step of scanning. -/
theorem of_step?
    {afterWord : Bool} {c : Char} {cs rest : List Char} {token? : Option Token}
    (found : step? afterWord c cs = some (token?, rest)) :
    Takes (c :: cs) token? rest := by
  by_cases space : isSpace c = true
  · rw [step?_space space] at found
    obtain ⟨rfl, rfl⟩ := Prod.mk.inj (Option.some.inj found)
    exact blank space
  unfold step? at found
  by_cases starts : startsName c = true
  · rw [if_neg space, if_pos starts] at found
    obtain ⟨token, read, rfl⟩ := exists_of_map_fst found
    exact of_readNamed? starts read
  rw [if_neg space, if_neg starts] at found
  split at found
  · obtain ⟨rfl, rfl⟩ := Prod.mk.inj (Option.some.inj found)
    exact line _
  · obtain ⟨_, closed, same⟩ := Option.map_eq_some_iff.mp found
    obtain ⟨rfl, rfl⟩ := Prod.mk.inj same
    exact comment closed
  · obtain ⟨token, read, rfl⟩ := exists_of_map_fst found
    obtain ⟨value, closed, rfl⟩ := exists_of_asLiteral read
    rw [Text.eq_doubled_of_readDoubled? closed]
    exact text value rest
  · obtain ⟨⟨name, _⟩, read, same⟩ := Option.map_eq_some_iff.mp found
    obtain ⟨rfl, rfl⟩ := Prod.mk.inj same
    rw [Text.eq_doubled_of_readDoubled? read]
    exact quoted name _
  · obtain ⟨token, read, rfl⟩ := exists_of_map_fst found
    rcases readDollar?_eq_some read with ⟨tag, value, rfl, suffix⟩ | ⟨tag, rfl, rfl, ends⟩
    · exact literal rfl (suffix.trans (List.suffix_cons _ _))
    · exact placeholder tag ends
  · split_ifs at found
    obtain ⟨rfl, rfl⟩ := Prod.mk.inj (Option.some.inj found)
    exact period (List.suffix_cons _ _)
  · split_ifs at found
    · obtain ⟨rfl, rfl⟩ := Prod.mk.inj (Option.some.inj found)
      exact of_readNumber _
    · obtain ⟨token, read, rfl⟩ := exists_of_map_fst found
      exact of_readOther? read

variable {cs rest : List Char} {token? : Option Token}

theorem suffix (takes : Takes cs token? rest) : rest <:+ cs := by
  cases takes with
  | blank => exact List.suffix_cons _ _
  | line cs => exact (List.dropWhile_suffix _).trans (List.suffix_append ['-', '-'] cs)
  | comment closed =>
      exact (suffix_of_skipComment? closed).trans (List.suffix_append ['/', '*'] _)
  | word => exact (suffix_span continuesName _).trans (List.suffix_cons _ _)
  | text value => exact ⟨'\'' :: (Text.doubled '\'' value ++ ['\'']), by simp⟩
  | @bits c _ value | @national c _ value =>
      exact ⟨c :: '\'' :: (Text.doubled '\'' value ++ ['\'']), by simp⟩
  | quoted name => exact ⟨'"' :: (Text.doubled '"' name ++ ['"']), by simp⟩
  | placeholder tag => exact List.suffix_append ('$' :: tag) _
  | literal _ suffix | period suffix | operator _ suffix => exact suffix
  | mark | sign => exact List.suffix_cons _ _

end Takes

end Sql

end Reservations
