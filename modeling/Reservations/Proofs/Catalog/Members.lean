import Mathlib.Data.List.Forall2
import Reservations.Catalog.Resource
import Reservations.Proofs.Json.Grammar

namespace Reservations

/-! ## What counts in the description of a resource

A description is decided with by its active and its periods. All else only has to be
such that it can be read: the names of members have to be texts, and the name of the
resource, if there is one, has to be null or a text. -/

namespace Json

/-- Values that differ only in what is never looked at: how their texts are spelled, in
which order members stand, and what their numbers are. -/
inductive Value.Alike : Value → Value → Prop
  | null : Alike .null .null
  | bool (value : Bool) : Alike (.bool value) (.bool value)
  | number (left right : List UInt8) : Alike (.number left) (.number right)
  | text {left right : List UInt8} (same : textOf? left = textOf? right) :
      Alike (.text left) (.text right)
  | array {left right : List Value} (items : List.Forall₂ Alike left right) :
      Alike (.array left) (.array right)
  | object {left middle right : List (List UInt8 × Value)} (order : left.Perm middle)
      (names : List.Forall₂ (fun l r => textOf? l.1 = textOf? r.1) middle right)
      (values : List.Forall₂ (fun l r => Alike l.2 r.2) middle right) :
      Alike (.object left) (.object right)

theorem Value.Alike.refl : ∀ value : Value, Alike value value
  | .null => .null
  | .bool value => .bool value
  | .number written => .number written written
  | .text _ => .text rfl
  | .array items => .array (List.forall₂_same.mpr fun item _ => refl item)
  | .object members =>
      .object (List.Perm.refl members) (List.forall₂_same.mpr fun _ _ => rfl)
        (List.forall₂_same.mpr fun (name, value) listed => by
          -- The recursion is on the size of the value.
          have smaller : sizeOf value < sizeOf members := by
            have bound := List.sizeOf_lt_of_mem listed
            rw [Prod.mk.sizeOf_spec] at bound
            omega
          exact refl value)

/-- The names of all members are texts. -/
def Named (members : List (List UInt8 × Value)) : Prop :=
  ∀ member ∈ members, ∃ name, textOf? member.1 = some name

/-- The values of the members that have a name. -/
def valuesOf (members : List (List UInt8 × Value)) (name : String) : List Value :=
  (members.filter fun member => textOf? member.1 = some name).map Prod.snd

theorem valuesOf_cons
    (first : List UInt8 × Value) (members : List (List UInt8 × Value)) (name : String) :
    valuesOf (first :: members) name =
      if textOf? first.1 = some name then first.2 :: valuesOf members name
      else valuesOf members name := by
  simp only [valuesOf, List.filter_cons, decide_eq_true_eq]
  split <;> rfl

theorem valuesOf_perm
    {left right : List (List UInt8 × Value)} (order : left.Perm right) (name : String) :
    (valuesOf left name).Perm (valuesOf right name) :=
  (order.filter _).map _

section Alike

variable {left right : List (List UInt8 × Value)}
  (names : List.Forall₂ (fun l r => textOf? l.1 = textOf? r.1) left right)

include names

theorem named_iff : Named left ↔ Named right := by
  induction names with
  | nil => exact Iff.rfl
  | cons same _ inductionHypothesis =>
      rw [Named, Named, List.forall_mem_cons, List.forall_mem_cons, same]
      exact and_congr_right fun _ => inductionHypothesis

theorem alike_valuesOf
    (values : List.Forall₂ (fun l r => Value.Alike l.2 r.2) left right) (name : String) :
    List.Forall₂ Value.Alike (valuesOf left name) (valuesOf right name) := by
  induction names with
  | nil => exact .nil
  | cons same _ inductionHypothesis =>
      rw [List.forall₂_cons] at values
      have rest := inductionHypothesis values.2
      rw [valuesOf_cons, valuesOf_cons, same]
      split
      · exact .cons values.1 rest
      · exact rest

end Alike

end Json

namespace Catalog

open Json (Value Named valuesOf)

/-! ### Members by name -/

/-- The only value, if there are not several. -/
def only? : List Value → Option (Option Value)
  | [] => some none
  | [value] => some (some value)
  | _ => none

/-- What has to be there. -/
def required? {α : Type} (read : Value → Option α) (values : List Value) : Option α :=
  (only? values).bind (·.bind read)

/-- What may be null or missing. -/
def optionally? {α : Type} (read : Value → Option α) (values : List Value) :
    Option (Option α) :=
  (only? values).bind (optional? read)

theorem only?_perm {left right : List Value} (order : left.Perm right) :
    only? left = only? right := by
  match left, right, order.length_eq with
  | [], [], _ => rfl
  | [first], [second], _ =>
      rw [List.singleton_perm_singleton.mp order]
  | _ :: _ :: _, _ :: _ :: _, _ => rfl

theorem named?_cons (first : List UInt8 × Value) (members : List (List UInt8 × Value)) :
    named? (first :: members) =
      (Json.textOf? first.1).bind fun name =>
        (named? members).map fun others => (name, first.2) :: others := by
  rw [named?, List.mapM_cons, ← named?]
  simp only [Option.bind_eq_bind]
  cases Json.textOf? first.1 with
  | none => rfl
  | some name => cases named? members <;> rfl

theorem named?_eq_none {members : List (List UInt8 × Value)} (unnamed : ¬ Named members) :
    named? members = none := by
  induction members with
  | nil => exact absurd (List.forall_mem_nil _) unnamed
  | cons first members inductionHypothesis =>
      rw [named?_cons]
      cases resolved : Json.textOf? first.1 with
      | none => rfl
      | some name =>
          have others : ¬ Named members := fun named =>
            unnamed (List.forall_mem_cons.mpr ⟨⟨name, resolved⟩, named⟩)
          rw [inductionHypothesis others]
          rfl

theorem named?_of_named {members : List (List UInt8 × Value)} (named : Named members) :
    ∃ resolved, named? members = some resolved ∧
      ∀ name, (resolved.filter fun member => member.1 = name).map Prod.snd =
        valuesOf members name := by
  induction members with
  | nil => exact ⟨[], rfl, fun _ => rfl⟩
  | cons first members inductionHypothesis =>
      obtain ⟨⟨name, resolved⟩, others⟩ := List.forall_mem_cons.mp named
      obtain ⟨rest, known, values⟩ := inductionHypothesis others
      refine ⟨(name, first.2) :: rest, ?_, ?_⟩
      · rw [named?_cons, resolved, known]
        rfl
      · intro other
        rw [Json.valuesOf_cons, resolved, ← values other]
        by_cases same : name = other
        · simp [same]
        · simp [same]

theorem member?_eq (members : List (String × Value)) (name : String) :
    member? members name = only? ((members.filter fun member => member.1 = name).map Prod.snd) := by
  rw [member?]
  generalize members.filter _ = found
  match found with
  | [] => rfl
  | [_] => rfl
  | _ :: _ :: _ => rfl

/-- What is read off the members of an object. -/
theorem resource?_object {members : List (List UInt8 × Value)} (named : Named members) :
    resource? (.object members) =
      (optionally? text? (valuesOf members "name")).bind fun name =>
        (required? bool? (valuesOf members "active")).bind fun active =>
          (optionally? periods? (valuesOf members "unavailablePeriods")).bind fun periods =>
            some ⟨name, active, periods⟩ := by
  obtain ⟨resolved, known, values⟩ := named?_of_named named
  simp only [resource?, known, member?_eq, values, resourceOfFields?, optionally?, required?,
    Option.bind_eq_bind, Option.bind_some]
  cases only? (valuesOf members "name") with
  | none => rfl
  | some name =>
      cases only? (valuesOf members "active") with
      | none => simp
      | some active =>
          cases only? (valuesOf members "unavailablePeriods") with
          | none => simp
          | some periods => simp only [Option.bind_some, Option.bind_assoc]

theorem period?_object {members : List (List UInt8 × Value)} (named : Named members) :
    period? (.object members) =
      (required? dateTime? (valuesOf members "startTime")).bind fun start =>
        (required? dateTime? (valuesOf members "endTime")).bind fun stop =>
          some ⟨start, stop⟩ := by
  obtain ⟨resolved, known, values⟩ := named?_of_named named
  simp only [period?, known, member?_eq, values, required?, Option.bind_eq_bind,
    Option.bind_some, Option.bind_assoc]

/-! ### Values that are read alike -/

section Alike

variable {α : Type} {read : Value → Option α}

theorem text?_alike {left right : Value} (alike : left.Alike right) :
    text? left = text? right := by
  cases alike with
  | text same => exact same
  | _ => rfl

theorem bool?_alike {left right : Value} (alike : left.Alike right) :
    bool? left = bool? right := by
  cases alike <;> rfl

theorem dateTime?_alike {left right : Value} (alike : left.Alike right) :
    dateTime? left = dateTime? right := by
  rw [dateTime?, dateTime?, text?_alike alike]

variable (same : ∀ left right : Value, left.Alike right → read left = read right)

include same

theorem required?_alike {left right : List Value} (alike : List.Forall₂ Value.Alike left right) :
    required? read left = required? read right := by
  match left, right, alike with
  | [], [], _ => rfl
  | [first], [second], .cons alike .nil => exact same first second alike
  | _ :: _ :: _, _ :: _ :: _, _ => rfl

theorem optional?_alike {left right : Value} (alike : left.Alike right) :
    optional? read (some left) = optional? read (some right) := by
  have read := same left right alike
  cases alike with
  | null => rfl
  | _ => exact congrArg (Option.map some) read

theorem optionally?_alike
    {left right : List Value} (alike : List.Forall₂ Value.Alike left right) :
    optionally? read left = optionally? read right := by
  match left, right, alike with
  | [], [], _ => rfl
  | [_], [_], .cons alike .nil => exact optional?_alike same alike
  | _ :: _ :: _, _ :: _ :: _, _ => rfl

theorem mapM_alike {left right : List Value} (alike : List.Forall₂ Value.Alike left right) :
    left.mapM read = right.mapM read := by
  induction alike with
  | nil => rfl
  | cons first _ inductionHypothesis =>
      rw [List.mapM_cons, List.mapM_cons, same _ _ first, inductionHypothesis]

end Alike

theorem period?_alike {left right : Value} (alike : left.Alike right) :
    period? left = period? right := by
  cases alike with
  | @object left middle right order names values =>
      have namedLeft : Named left ↔ Named middle := by
        simp only [Named, order.mem_iff]
      have field : ∀ name, required? dateTime? (valuesOf left name) =
          required? dateTime? (valuesOf right name) := by
        intro name
        have moved : required? dateTime? (valuesOf left name) =
            required? dateTime? (valuesOf middle name) := by
          rw [required?, only?_perm (Json.valuesOf_perm order name)]
          rfl
        exact moved.trans
          (required?_alike (fun _ _ => dateTime?_alike) (Json.alike_valuesOf names values name))
      by_cases named : Named left
      · have alsoNamed := (Json.named_iff names).mp (namedLeft.mp named)
        rw [period?_object named, period?_object alsoNamed, field, field]
      · have unnamed := mt ((namedLeft.trans (Json.named_iff names)).mpr) named
        simp only [period?, named?_eq_none named, named?_eq_none unnamed]
  | @array left right items =>
      match left, right, items with
      | [], [], _ => rfl
      | [_], [_], _ => rfl
      | [_, _], [_, _], .cons start (.cons stop .nil) =>
          simp only [period?, dateTime?_alike start, dateTime?_alike stop]
      | _ :: _ :: _ :: _, _ :: _ :: _ :: _, _ => rfl
  | _ => rfl

theorem periods?_alike {left right : Value} (alike : left.Alike right) :
    periods? left = periods? right := by
  cases alike with
  | array items => exact mapM_alike (fun _ _ => period?_alike) items
  | _ => rfl

/-! ### What else there is -/

/-- The members can be read, whatever they say: they have texts for names, and at most one
of them is the name of the resource, which is null or a text. -/
structure Legible (members : List (List UInt8 × Value)) : Prop where
  named : Named members
  name : valuesOf members "name" = [] ∨ ∃ value, valuesOf members "name" = [value] ∧
    (value = .null ∨ ∃ name, text? value = some name)

/-- Two objects have the same active and the same periods, or both have none. -/
structure Agree (left right : List (List UInt8 × Value)) : Prop where
  active : List.Forall₂ Value.Alike (valuesOf left "active") (valuesOf right "active")
  periods : List.Forall₂ Value.Alike (valuesOf left "unavailablePeriods")
    (valuesOf right "unavailablePeriods")

theorem Agree.of_eq
    {left right : List (List UInt8 × Value)}
    (active : valuesOf left "active" = valuesOf right "active")
    (periods : valuesOf left "unavailablePeriods" = valuesOf right "unavailablePeriods") :
    Agree left right := by
  constructor
  · rw [active]
    exact List.forall₂_same.mpr fun value _ => Value.Alike.refl value
  · rw [periods]
    exact List.forall₂_same.mpr fun value _ => Value.Alike.refl value

theorem optionally?_text?_eq_some_iff (values : List Value) :
    (∃ name, optionally? text? values = some name) ↔
      values = [] ∨ ∃ value, values = [value] ∧
        (value = .null ∨ ∃ name, text? value = some name) := by
  match values with
  | [] => exact iff_of_true ⟨none, rfl⟩ (Or.inl rfl)
  | [value] =>
      have whole : (∃ name, optional? text? (some value) = some name) ↔
          value = .null ∨ ∃ name, text? value = some name := by
        cases value with
        | null => exact iff_of_true ⟨none, rfl⟩ (Or.inl rfl)
        | _ => simp [optional?]
      constructor
      · intro read
        exact Or.inr ⟨value, rfl, whole.mp read⟩
      · intro either
        rcases either with nothing | ⟨other, single, readable⟩
        · cases nothing
        · cases single
          exact whole.mpr readable
  | _ :: _ :: _ =>
      apply iff_of_false
      · intro ⟨name, read⟩
        cases read
      · intro either
        rcases either with nothing | ⟨other, single, _⟩
        · cases nothing
        · cases single

theorem decode?_of_written
    {members : List (List UInt8 × Value)} {body : List UInt8}
    (written : Json.Written (.value (.object members)) body) :
    decode? body = resource? (.object members) := by
  rw [decode?, Json.parse?_of_written written]
  rfl

theorem decode?_eq_none
    {members : List (List UInt8 × Value)} {body : List UInt8}
    (written : Json.Written (.value (.object members)) body) (illegible : ¬ Legible members) :
    decode? body = none := by
  rw [decode?_of_written written]
  by_cases named : Named members
  · have unread : optionally? text? (valuesOf members "name") = none := by
      cases read : optionally? text? (valuesOf members "name") with
      | none => rfl
      | some name =>
          exact absurd ⟨named, (optionally?_text?_eq_some_iff _).mp ⟨name, read⟩⟩ illegible
    rw [resource?_object named, unread]
    rfl
  · simp only [resource?, named?_eq_none named]
    rfl

/-- What two objects come to, however they are written, if their active and their periods
are alike. Where all other members can be read, both give the same snapshot, or both give
none. Where they cannot be, an object describes no resource. -/
theorem snapshot_eq_of_alike
    {left right : List UInt8} {leftMembers rightMembers : List (List UInt8 × Value)}
    (leftWritten : Json.Written (.value (.object leftMembers)) left)
    (rightWritten : Json.Written (.value (.object rightMembers)) right)
    (agree : Agree leftMembers rightMembers) :
    (Legible leftMembers → Legible rightMembers →
      (decode? left).map Resource.snapshot = (decode? right).map Resource.snapshot) ∧
    (¬ Legible leftMembers → decode? left = none) ∧
    (¬ Legible rightMembers → decode? right = none) := by
  refine ⟨?_, decode?_eq_none leftWritten, decode?_eq_none rightWritten⟩
  intro leftLegible rightLegible
  obtain ⟨leftName, leftRead⟩ := (optionally?_text?_eq_some_iff _).mpr leftLegible.name
  obtain ⟨rightName, rightRead⟩ := (optionally?_text?_eq_some_iff _).mpr rightLegible.name
  rw [decode?_of_written leftWritten, decode?_of_written rightWritten,
    resource?_object leftLegible.named, resource?_object rightLegible.named, leftRead, rightRead,
    required?_alike (fun _ _ => bool?_alike) agree.active,
    optionally?_alike (fun _ _ => periods?_alike) agree.periods]
  simp only [Option.bind_some, Option.map_bind, Function.comp_def, Option.map_some]
  rfl

/-! ### Some descriptions -/

theorem textOf?_active : Json.textOf? (Json.ascii "active") = some "active" := by
  decide +kernel

theorem textOf?_price : Json.textOf? (Json.ascii "price") = some "price" := by
  decide +kernel

theorem isText_of_plain {bytes : List UInt8}
    (plain : (bytes.all fun byte => 32 ≤ byte && byte ≠ 34 && byte ≠ 92) = true) :
    Json.IsText bytes := by
  induction bytes with
  | nil => exact .nil
  | cons byte bytes inductionHypothesis =>
      simp only [List.all_cons, Bool.and_eq_true, decide_eq_true_eq] at plain
      obtain ⟨⟨⟨printable, noQuote⟩, noBackslash⟩, rest⟩ := plain
      exact .plain (UInt8.not_lt.mpr printable) noQuote noBackslash (inductionHypothesis rest)

theorem written_active :
    Json.Written (.member (Json.ascii "active") (.bool true)) (Json.ascii "\"active\":true") :=
  .member (List.forall_mem_nil _) (isText_of_plain (by decide)) (List.forall_mem_nil _) .true

def bookable : List (List UInt8 × Value) :=
  [(Json.ascii "active", .bool true)]

theorem written_bookable :
    Json.Written (.value (.object bookable)) (Json.ascii "\x7b\"active\":true\x7d") :=
  .object (.last written_active)

/-- The price is a list of a huge number and an empty object. -/
def priced : List (List UInt8 × Value) :=
  [(Json.ascii "price", .array [.number (Json.ascii "1e400"), .object []]),
    (Json.ascii "active", .bool true)]

theorem written_priced :
    Json.Written (.value (.object priced))
      (Json.ascii " \x7b\"price\" : [1e400,\x7b\x7d],\"active\":true\x7d") := by
  have space : Json.IsBlank [32] := List.forall_mem_singleton.mpr rfl
  have nothing : Json.IsBlank [] := List.forall_mem_nil _
  have huge : Json.IsNumber (Json.ascii "1e400") :=
    ⟨[], [49], [], [101, 52, 48, 48], rfl, Or.inl rfl,
      .digits rfl (by decide) (List.forall_mem_nil _), .nil,
      .digits (Or.inl rfl) (Or.inl rfl) rfl (by simp [Json.AreDigits, Json.isDigit])⟩
  have list : Json.Written (.value (.array [.number (Json.ascii "1e400"), .object []]))
      (Json.ascii " [1e400,\x7b\x7d]") :=
    .between space (.array (.items (.number huge) (.item (.emptyObject nothing)))) nothing
  have price : Json.Written
      (.member (Json.ascii "price") (.array [.number (Json.ascii "1e400"), .object []]))
      (Json.ascii "\"price\" : [1e400,\x7b\x7d]") :=
    .member nothing (isText_of_plain (by decide)) space list
  exact .between space (.object (.members price (.last written_active))) nothing

theorem snapshot_eq_of_alike_priced :
    Agree bookable priced ∧ Legible bookable ∧ Legible priced ∧
      (decode? (Json.ascii "\x7b\"active\":true\x7d")).map Resource.snapshot =
        (decode? (Json.ascii " \x7b\"price\" : [1e400,\x7b\x7d],\"active\":true\x7d")).map
          Resource.snapshot := by
  have agree : Agree bookable priced := by
    apply Agree.of_eq <;> simp [valuesOf, bookable, priced, textOf?_active, textOf?_price]
  have plain : Legible bookable := by
    constructor
    · simp [Named, bookable, textOf?_active]
    · simp [valuesOf, bookable, textOf?_active]
  have withPrice : Legible priced := by
    constructor
    · simp [Named, priced, textOf?_active, textOf?_price]
    · simp [valuesOf, priced, textOf?_active, textOf?_price]
  obtain ⟨decided, _⟩ := snapshot_eq_of_alike written_bookable written_priced agree
  exact ⟨agree, plain, withPrice, decided plain withPrice⟩

/-- An object that agrees with the one above and names nothing twice, but describes no
resource. -/
structure Undescribed (members : List (List UInt8 × Value)) (body : List UInt8) : Prop where
  written : Json.Written (.value (.object members)) body
  once : (members.map Prod.fst).Nodup
  agree : Agree bookable members
  failed : decode? body = none

def numbered : List (List UInt8 × Value) :=
  [(Json.ascii "active", .bool true), (Json.ascii "name", .number (Json.ascii "5"))]

/-- The name of the resource is the first half of a surrogate pair. -/
def halfNamed : List (List UInt8 × Value) :=
  [(Json.ascii "active", .bool true), (Json.ascii "name", .text (Json.ascii "\\ud800"))]

/-- The name of a member is the first half of a surrogate pair. -/
def halfKeyed : List (List UInt8 × Value) :=
  [(Json.ascii "active", .bool true), (Json.ascii "\\ud800", .null)]

theorem textOf?_name : Json.textOf? (Json.ascii "name") = some "name" := by
  decide +kernel

theorem undescribed_numbered :
    Undescribed numbered (Json.ascii "\x7b\"active\":true,\"name\":5\x7d") where
  written := by
    have five : Json.IsNumber (Json.ascii "5") :=
      ⟨[], [53], [], [], rfl, Or.inl rfl, .digits rfl (by decide) (List.forall_mem_nil _), .nil,
        .nil⟩
    have name : Json.Written (.member (Json.ascii "name") (.number (Json.ascii "5")))
        (Json.ascii "\"name\":5") :=
      .member (List.forall_mem_nil _) (isText_of_plain (by decide)) (List.forall_mem_nil _)
        (.number five)
    exact .object (.members written_active (.last name))
  once := by decide
  agree := by
    apply Agree.of_eq <;> simp [valuesOf, bookable, numbered, textOf?_active, textOf?_name]
  failed := by decide +kernel

theorem undescribed_halfNamed :
    Undescribed halfNamed (Json.ascii "\x7b\"active\":true,\"name\":\"\\ud800\"\x7d") where
  written := by
    have name : Json.Written (.member (Json.ascii "name") (.text (Json.ascii "\\ud800")))
        (Json.ascii "\"name\":\"\\ud800\"") :=
      .member (List.forall_mem_nil _) (isText_of_plain (by decide)) (List.forall_mem_nil _)
        (.text (.unicode rfl .nil))
    exact .object (.members written_active (.last name))
  once := by decide
  agree := by
    apply Agree.of_eq <;> simp [valuesOf, bookable, halfNamed, textOf?_active, textOf?_name]
  failed := by decide +kernel

theorem undescribed_halfKeyed :
    Undescribed halfKeyed (Json.ascii "\x7b\"active\":true,\"\\ud800\":null\x7d") where
  written := by
    have half : Json.Written (.member (Json.ascii "\\ud800") .null)
        (Json.ascii "\"\\ud800\":null") :=
      .member (List.forall_mem_nil _) (.unicode rfl .nil) (List.forall_mem_nil _) .null
    exact .object (.members written_active (.last half))
  once := by decide
  agree := by
    have half : Json.textOf? (Json.ascii "\\ud800") = none := by decide +kernel
    apply Agree.of_eq <;> simp [valuesOf, bookable, halfKeyed, textOf?_active, half]
  failed := by decide +kernel

/-- The same active and no periods, and one of them can be decided with. -/
theorem undescribed_although_alike :
    Json.Written (.value (.object bookable)) (Json.ascii "\x7b\"active\":true\x7d") ∧
      (decode? (Json.ascii "\x7b\"active\":true\x7d")).map Resource.snapshot =
        some (.ok ⟨true, []⟩) ∧
      Undescribed numbered (Json.ascii "\x7b\"active\":true,\"name\":5\x7d") ∧
      Undescribed halfNamed (Json.ascii "\x7b\"active\":true,\"name\":\"\\ud800\"\x7d") ∧
      Undescribed halfKeyed (Json.ascii "\x7b\"active\":true,\"\\ud800\":null\x7d") :=
  ⟨written_bookable, by decide +kernel, undescribed_numbered, undescribed_halfNamed,
    undescribed_halfKeyed⟩

end Catalog

end Reservations
