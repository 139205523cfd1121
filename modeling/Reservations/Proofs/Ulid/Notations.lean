import Reservations.Proofs.Ulid.Crockford
import Reservations.Ulid.Uuid

namespace Reservations

/-! ## Letters in either case -/

namespace Text

theorem toNat_toLower (c : Char) :
    c.toLower.toNat = if 65 ≤ c.toNat ∧ c.toNat ≤ 90 then c.toNat + 32 else c.toNat := by
  by_cases upper : c.val ≥ 'A'.val ∧ c.val ≤ 'Z'.val
  · have lowered := congrArg Char.val (show c.toLower = _ from dif_pos upper)
    rw [ge_iff_le, UInt32.le_iff_toNat_le, UInt32.le_iff_toNat_le] at upper
    rw [Char.toNat, lowered, UInt32.toNat_add]
    change 65 ≤ c.toNat ∧ c.toNat ≤ 90 at upper
    change (c.toNat + 32) % 2 ^ 32 = _
    rw [if_pos upper]
    omega
  · have same : c.toLower = c := dif_neg upper
    rw [ge_iff_le, UInt32.le_iff_toNat_le, UInt32.le_iff_toNat_le] at upper
    rw [same]
    exact (if_neg upper).symm

theorem toNat_toUpper (c : Char) :
    c.toUpper.toNat = if 97 ≤ c.toNat ∧ c.toNat ≤ 122 then c.toNat - 32 else c.toNat := by
  by_cases lower : 'a'.val ≤ c.val ∧ c.val ≤ 'z'.val
  · have raised := congrArg Char.val (show c.toUpper = _ from dif_pos lower)
    rw [UInt32.le_iff_toNat_le, UInt32.le_iff_toNat_le] at lower
    rw [Char.toNat, raised, UInt32.toNat_add]
    change 97 ≤ c.toNat ∧ c.toNat ≤ 122 at lower
    -- What is subtracted is added as its complement.
    change (c.toNat + 4294967264) % 2 ^ 32 = _
    rw [if_pos lower]
    omega
  · have same : c.toUpper = c := dif_neg lower
    rw [UInt32.le_iff_toNat_le, UInt32.le_iff_toNat_le] at lower
    rw [same]
    exact (if_neg lower).symm

theorem toUpper_toLower (c : Char) : c.toLower.toUpper = c.toUpper := by
  rw [← Char.toNat_inj, toNat_toUpper, toNat_toUpper, toNat_toLower]
  grind

theorem toLower_toLower (c : Char) : c.toLower.toLower = c.toLower := by
  rw [← Char.toNat_inj, toNat_toLower, toNat_toLower]
  grind

/-- What is no letter has no other case. -/
theorem toLower_eq_iff (mark : Char) (noUpper : ¬ (65 ≤ mark.toNat ∧ mark.toNat ≤ 90))
    (noLower : ¬ (97 ≤ mark.toNat ∧ mark.toNat ≤ 122)) (c : Char) :
    c.toLower = mark ↔ c = mark := by
  rw [← Char.toNat_inj, ← Char.toNat_inj, toNat_toLower]
  grind

theorem hexValue?_toLower (c : Char) : hexValue? c.toLower = hexValue? c := by
  have byCode (d : Char) :
      hexValue? d =
        if 48 ≤ d.toNat ∧ d.toNat ≤ 57 then some (d.toNat - 48)
        else if 97 ≤ d.toNat ∧ d.toNat ≤ 102 then some (d.toNat - 87)
        else if 65 ≤ d.toNat ∧ d.toNat ≤ 70 then some (d.toNat - 55)
        else none := rfl
  rw [byCode, byCode, toNat_toLower]
  grind

theorem hexValue?_hexDigit {value : Nat} (small : value < 16) :
    hexValue? (hexDigit value) = some value := by
  have all : ∀ v : Fin 16, hexValue? (hexDigit v) = some v.val := by decide
  exact all ⟨value, small⟩

end Text

namespace Ulid

theorem digitValue?_toLower (c : Char) : digitValue? c.toLower = digitValue? c := by
  rw [digitValue?, Text.toUpper_toLower, digitValue?]

/-! ## Case makes no difference -/

theorem ofCrockford?_toLower (cs : List Char) :
    ofCrockford? (cs.map Char.toLower) = ofCrockford? cs := by
  have read : digitValue? ∘ Char.toLower = digitValue? := funext digitValue?_toLower
  rw [ofCrockford?, List.length_map, List.mapM_map, read, ofCrockford?]

theorem ofHex?_toLower (cs : List Char) : ofHex? (cs.map Char.toLower) = ofHex? cs := by
  have read : Text.hexValue? ∘ Char.toLower = Text.hexValue? := funext Text.hexValue?_toLower
  rw [ofHex?, List.length_map, List.mapM_map, read, ofHex?]

theorem joinGroups?_of_hyphen
    {length : Nat} {lengths : List Nat} {cs rest : List Char} (several : lengths ≠ [])
    (hyphen : cs.drop length = '-' :: rest) :
    joinGroups? (length :: lengths) cs =
      (joinGroups? lengths rest).map (cs.take length ++ ·) := by
  rw [joinGroups?, hyphen]
  · rfl
  · exact several

theorem joinGroups?_of_ne_hyphen
    {length : Nat} {lengths : List Nat} {cs : List Char} (several : lengths ≠ [])
    (other : ∀ rest, cs.drop length ≠ '-' :: rest) :
    joinGroups? (length :: lengths) cs = none := by
  rw [joinGroups?]
  · split
    case h_1 rest hyphen => exact absurd hyphen (other rest)
    case h_2 => rfl
  · exact several

theorem joinGroups?_toLower (lengths : List Nat) (cs : List Char) :
    joinGroups? lengths (cs.map Char.toLower) =
      (joinGroups? lengths cs).map (List.map Char.toLower) := by
  fun_induction joinGroups? lengths cs with
  | case1 => rfl
  | case2 => rfl
  | case3 length lengths cs several rest hyphen inductionHypothesis =>
      have lowered : (cs.map Char.toLower).drop length = '-' :: rest.map Char.toLower := by
        rw [← List.map_drop, hyphen]
        rfl
      rw [joinGroups?_of_hyphen several lowered, inductionHypothesis, Option.map_map,
        Option.map_map]
      congr 1
      funext joined
      simp only [Function.comp, List.map_append, List.map_take]
  | case4 length lengths cs several other =>
      refine joinGroups?_of_ne_hyphen several fun rest lowered => ?_
      rw [← List.map_drop, List.map_eq_cons_iff] at lowered
      obtain ⟨c, before, found, hyphen, _⟩ := lowered
      rw [Text.toLower_eq_iff '-' (by decide) (by decide)] at hyphen
      exact other before (hyphen ▸ found)

theorem ofHyphenated?_toLower (cs : List Char) :
    ofHyphenated? (cs.map Char.toLower) = ofHyphenated? cs := by
  rw [ofHyphenated?, List.length_map, joinGroups?_toLower, ofHyphenated?]
  cases joinGroups? groupLengths cs with
  | none => rfl
  | some joined =>
      simp only [Option.map_some, Option.bind_eq_bind, Option.bind_some, ofHex?_toLower]

theorem ofUuid?_toLower (cs : List Char) : ofUuid? (cs.map Char.toLower) = ofUuid? cs := by
  have opens : (cs.map Char.toLower).head? = some '{' ↔ cs.head? = some '{' := by
    simp only [List.head?_map, Option.map_eq_some_iff,
      Text.toLower_eq_iff '{' (by decide) (by decide), exists_eq_right]
  have closes : (cs.map Char.toLower).getLast? = some '}' ↔ cs.getLast? = some '}' := by
    simp only [List.getLast?_map, Option.map_eq_some_iff,
      Text.toLower_eq_iff '}' (by decide) (by decide), exists_eq_right]
  have announces :
      ((cs.map Char.toLower).take 9).map Char.toLower = (cs.take 9).map Char.toLower := by
    rw [← List.map_take, List.map_map]
    exact List.map_congr_left fun c _ => Text.toLower_toLower c
  simp only [ofUuid?, List.length_map, ofHex?_toLower, ofHyphenated?_toLower, opens, closes,
    announces, ← List.map_drop, ← List.map_dropLast]

/-- Reading an identifier never looks at the case of a letter. -/
theorem ofText?_eq_of_toLower {left right : String}
    (same : left.toList.map Char.toLower = right.toList.map Char.toLower) :
    ofText? left = ofText? right := by
  rw [ofText?, ← ofCrockford?_toLower, ← ofUuid?_toLower, same, ofCrockford?_toLower,
    ofUuid?_toLower, ofText?]

/-! ## Groups -/

section Groups

variable {lengths : List Nat} {cs : List Char}

/-- A text has as many characters as its groups. -/
def FillsGroups : (lengths : List Nat) → List Char → Prop
  | [], cs => cs = []
  | length :: lengths, cs => length ≤ cs.length ∧ FillsGroups lengths (cs.drop length)

/-- What is cut into more than one group begins with the first of them and a hyphen. -/
theorem intercalate_cutGroups (length : Nat) (several : lengths ≠ []) (cs : List Char) :
    ['-'].intercalate (cutGroups (length :: lengths) cs) =
      cs.take length ++ '-' :: ['-'].intercalate (cutGroups lengths (cs.drop length)) := by
  cases lengths with
  | nil => exact absurd rfl several
  | cons next lengths =>
      rw [cutGroups, cutGroups, List.intercalate_cons_cons, List.append_assoc,
        List.singleton_append]

theorem intercalate_cutGroups_singleton {length : Nat} (fills : FillsGroups [length] cs) :
    ['-'].intercalate (cutGroups [length] cs) = cs := by
  obtain ⟨_, rest⟩ := fills
  rw [cutGroups, cutGroups, List.intercalate_singleton,
    List.take_of_length_le (List.drop_eq_nil_iff.mp rest)]

theorem joinGroups?_cutGroups (several : lengths ≠ []) (fills : FillsGroups lengths cs) :
    joinGroups? lengths (['-'].intercalate (cutGroups lengths cs)) = some cs := by
  induction lengths generalizing cs with
  | nil => exact absurd rfl several
  | cons length lengths inductionHypothesis =>
      by_cases last : lengths = []
      · subst last
        rw [intercalate_cutGroups_singleton fills, joinGroups?]
      · obtain ⟨enough, rest⟩ := fills
        have long : (cs.take length).length = length := List.length_take_of_le enough
        rw [intercalate_cutGroups length last,
          joinGroups?_of_hyphen last (List.drop_left' long), inductionHypothesis last rest,
          Option.map_some, List.take_left' long, List.take_append_drop]

theorem length_intercalate_cutGroups (length : Nat) (fills : FillsGroups (length :: lengths) cs) :
    (['-'].intercalate (cutGroups (length :: lengths) cs)).length = cs.length + lengths.length := by
  induction lengths generalizing cs length with
  | nil => rw [intercalate_cutGroups_singleton fills, List.length_nil, Nat.add_zero]
  | cons next lengths inductionHypothesis =>
      obtain ⟨enough, rest⟩ := fills
      rw [intercalate_cutGroups length (List.cons_ne_nil _ _), List.length_append, List.length_cons,
        inductionHypothesis next rest, List.length_take_of_le enough, List.length_drop,
        List.length_cons]
      omega

theorem mem_intercalate_cutGroups {c : Char}
    (member : c ∈ ['-'].intercalate (cutGroups lengths cs)) : c = '-' ∨ c ∈ cs := by
  induction lengths generalizing cs with
  | nil => exact absurd member (List.not_mem_nil)
  | cons length lengths inductionHypothesis =>
      by_cases last : lengths = []
      · subst last
        rw [cutGroups, cutGroups, List.intercalate_singleton] at member
        exact Or.inr (List.mem_of_mem_take member)
      · rw [intercalate_cutGroups length last, List.mem_append, List.mem_cons] at member
        rcases member with before | hyphen | behind
        · exact Or.inr (List.mem_of_mem_take before)
        · exact Or.inl hyphen
        · exact (inductionHypothesis behind).imp_right List.mem_of_mem_drop

end Groups

/-! ## Hexadecimal texts -/

/-- The hexadecimal digits of an identifier. -/
def hexDigits (id : Ulid) : List Char :=
  (Text.toDigits 16 32 id.toNat).map Text.hexDigit

theorem length_hexDigits (id : Ulid) : id.hexDigits.length = 32 := by
  rw [hexDigits, List.length_map, Text.length_toDigits]

theorem fillsGroups_hexDigits (id : Ulid) : FillsGroups groupLengths id.hexDigits := by
  simp [groupLengths, FillsGroups, length_hexDigits]

theorem ofHex?_hexDigits (id : Ulid) : ofHex? id.hexDigits = some id := by
  have read : id.hexDigits.mapM Text.hexValue? = some (Text.toDigits 16 32 id.toNat) :=
    mapM_map_eq_some fun digit member =>
      Text.hexValue?_hexDigit (Text.lt_of_mem_toDigits (by decide) member)
  have fits : id.toNat < Nat.pow 16 32 := id.toNat_lt
  rw [ofHex?, (Option.guard_eq_some' ()).mpr id.length_hexDigits, read]
  simp [Text.ofDigits_toDigits, Nat.mod_eq_of_lt fits, ofNat_toNat]

theorem toList_toUuid (id : Ulid) :
    id.toUuid.toList = ['-'].intercalate (cutGroups groupLengths id.hexDigits) := by
  rw [toUuid, String.toList_ofList, hexDigits]

theorem length_toUuid (id : Ulid) : id.toUuid.toList.length = 36 := by
  rw [toList_toUuid]
  exact (length_intercalate_cutGroups 8 id.fillsGroups_hexDigits).trans
    (congrArg (· + 4) id.length_hexDigits)

/-- The characters of hyphenated texts. -/
def uuidAlphabet : List Char :=
  "0123456789abcdef-".toList

theorem mem_uuidAlphabet_of_mem_toUuid {id : Ulid} {c : Char} (member : c ∈ id.toUuid.toList) :
    c ∈ uuidAlphabet := by
  rw [toList_toUuid] at member
  rcases mem_intercalate_cutGroups member with rfl | digit
  · decide
  · rw [hexDigits, List.mem_map] at digit
    obtain ⟨value, digit, rfl⟩ := digit
    have small : value < 16 := Text.lt_of_mem_toDigits (by decide) digit
    have all : ∀ v : Fin 16, Text.hexDigit v ∈ uuidAlphabet := by decide
    exact all ⟨value, small⟩

theorem joinGroups?_toUuid (id : Ulid) :
    joinGroups? groupLengths id.toUuid.toList = some id.hexDigits := by
  rw [toList_toUuid]
  exact joinGroups?_cutGroups (List.cons_ne_nil _ _) id.fillsGroups_hexDigits

/-- Groups of 36 characters are read joined. -/
theorem ofUuid?_of_joinGroups? {cs digits : List Char} (long : cs.length = 36)
    (joined : joinGroups? groupLengths cs = some digits) : ofUuid? cs = ofHex? digits := by
  have longer : cs.length ≠ 32 := by omega
  rw [ofUuid?, if_neg longer, if_pos long, ofHyphenated?, (Option.guard_eq_some' ()).mpr long,
    joined]
  rfl

theorem ofUuid?_toUuid (id : Ulid) : ofUuid? id.toUuid.toList = some id := by
  rw [ofUuid?_of_joinGroups? id.length_toUuid id.joinGroups?_toUuid, ofHex?_hexDigits]

/-! ## Both notations -/

/-- The lengths of the notations set them apart. -/
theorem ofCrockford?_or_ofUuid?_eq_none (cs : List Char) :
    ofCrockford? cs = none ∨ ofUuid? cs = none := by
  by_cases long : cs.length = 26
  · refine Or.inr ?_
    simp [ofUuid?, long]
  · refine Or.inl ?_
    simp [ofCrockford?, long]

theorem ofText?_toText (id : Ulid) : ofText? id.toText = some id := by
  rw [ofText?, ofCrockford?_toText]
  rfl

theorem ofText?_toUuid (id : Ulid) : ofText? id.toUuid = some id := by
  have other : ofCrockford? id.toUuid.toList = none := by
    refine (ofCrockford?_or_ofUuid?_eq_none _).resolve_right ?_
    rw [ofUuid?_toUuid]
    exact Option.some_ne_none id
  rw [ofText?, other, ofUuid?_toUuid]
  rfl

end Ulid

end Reservations
