import Reservations.Proofs.Binding
import Reservations.Session

namespace Reservations

/-! ## Messages

The two ways in which a client sends a statement, and the messages that ask for a
reservation by the text of its identifier or of its resource. -/

/-- A statement as a client sends it. -/
inductive Message where
  | plain (statement : String)
  /-- The statement is prepared, and its values are sent with it. -/
  | prepared (statement : String) (parameters : List Parameter)

namespace Message

/-- The command that a message gives, if it gives any. -/
def command? : Message → Option Command
  | plain statement => if isIdle statement then none else (Command.ofText statement).toOption
  | prepared statement parameters =>
      (Command.ofText (inlineParameters statement parameters)).toOption

end Message

/-- What a client gets for a message. -/
def Desk.answer (desk : Desk) : Message → Option Outcome × Desk
  | .plain statement => desk.query statement
  | .prepared statement parameters =>
      let (outcome, desk) := desk.executeWith statement parameters
      (some outcome, desk)

theorem Desk.execute_of_command
    (desk : Desk) {text : String} {command : Command}
    (read : (Command.ofText text).toOption = some command) :
    desk.execute text = desk.carryOut command := by
  rw [execute]
  cases given : Command.ofText text with
  | error fault =>
      rw [given] at read
      cases read
  | ok other =>
      rw [given] at read
      cases read
      rfl

theorem Desk.execute_of_none
    (desk : Desk) {text : String} (unread : (Command.ofText text).toOption = none) :
    ∃ fault, desk.execute text = (.misread fault, desk) := by
  rw [execute]
  cases given : Command.ofText text with
  | error fault => exact ⟨fault, rfl⟩
  | ok other =>
      rw [given] at unread
      cases unread

/-- A message that gives a command is answered with what comes of it. -/
theorem Desk.answer_of_command
    (desk : Desk) {message : Message} {command : Command}
    (gives : message.command? = some command) :
    desk.answer message = (some (desk.carryOut command).1, (desk.carryOut command).2) := by
  cases message with
  | plain statement =>
      rw [Message.command?] at gives
      split at gives
      case isTrue => cases gives
      case isFalse busy =>
        rw [answer, query, if_neg busy, desk.execute_of_command gives]
  | prepared statement parameters =>
      rw [Message.command?] at gives
      rw [answer, executeWith, desk.execute_of_command gives]

/-- A message that gives no command changes nothing. -/
theorem Desk.answer_of_none
    (desk : Desk) {message : Message} (gives : message.command? = none) :
    (desk.answer message).2 = desk := by
  cases message with
  | plain statement =>
      rw [Message.command?] at gives
      rw [answer, query]
      split at gives
      case isTrue idle => rw [if_pos idle]
      case isFalse busy =>
        obtain ⟨fault, misread⟩ := desk.execute_of_none gives
        rw [if_neg busy, misread]
  | prepared statement parameters =>
      rw [Message.command?] at gives
      obtain ⟨fault, misread⟩ := desk.execute_of_none gives
      rw [answer, executeWith, misread]

/-! ### Values in messages -/

/-- How a value is sent: in quotes within the statement, or for a place in it. -/
inductive Manner where
  | quoted
  | bound

namespace Manner

/-- A statement that ends with a value. -/
def ask (manner : Manner) (head value : String) : Message :=
  match manner with
  | quoted => .plain (head ++ "'" ++ value ++ "'")
  | bound => .prepared (head ++ "$1") [.ofText? (some value)]

/-- Asks for the reservation with an identifier. -/
def finding (manner : Manner) (id : String) : Message :=
  manner.ask "SELECT * FROM reservations WHERE id = " id

/-- Removes the reservation with an identifier. -/
def removal (manner : Manner) (id : String) : Message :=
  manner.ask "DELETE FROM reservations WHERE id = " id

/-- Asks for the reservations of a resource. -/
def listing (manner : Manner) (resource : String) : Message :=
  manner.ask "SELECT * FROM reservations WHERE resource_id = " resource

/-- Asks for all reservations. -/
def listingAll : Manner → Message
  | quoted => .plain "SELECT * FROM reservations"
  | bound => .prepared "SELECT * FROM reservations" []

end Manner

theorem Text.doubled_of_not_mem
    {quote : Char} {cs : List Char} (unquoted : quote ∉ cs) : doubled quote cs = cs := by
  induction cs with
  | nil => rfl
  | cons c cs inductionHypothesis =>
      rw [List.mem_cons, not_or] at unquoted
      rw [doubled, if_neg (Ne.symm unquoted.1), inductionHypothesis unquoted.2]

/-- A statement that begins with a solid character other than a semicolon is not idle. -/
theorem isIdle_of_solid
    {statement : String} {c : Char} {cs : List Char} (begins : statement.toList = c :: cs)
    (solid : Text.isBlank c = false) (other : c ≠ ';') :
    isIdle statement = false := by
  have kept : ∃ rest, Text.trim (c :: cs) = c :: rest := by
    have last : [c].dropWhile Text.isBlank = [c] := by simp [solid]
    rw [Text.trim, Text.trimStart_of_not_isBlank solid, Text.trimEnd, List.reverse_cons,
      List.dropWhile_append, last]
    split
    · exact ⟨[], rfl⟩
    · exact ⟨_, by rw [List.reverse_append, List.reverse_singleton, List.singleton_append]⟩
  obtain ⟨rest, trimmed⟩ := kept
  simp [isIdle, begins, trimmed, other]

/-- A value without a quote says the same in quotes as it does bound to a place. -/
theorem quoted_eq_inlineParameters
    {head value : String} (plain : Stretch.isPlain head.toList = true)
    (unquoted : '\'' ∉ value.toList) :
    head ++ "'" ++ value ++ "'" =
      inlineParameters (head ++ "$1") [.ofText? (some value)] := by
  have split : (head ++ "$1").toList = head.toList ++ ['$', '1'] := by simp
  apply String.toList_inj.mp
  rw [toList_inlineParameters_single split plain, Sql.Lexeme.chars,
    Text.doubled_of_not_mem unquoted]
  simp

theorem Ulid.quote_not_mem_toText (id : Ulid) : '\'' ∉ id.toText.toList := by
  have noQuote : ∀ v : Fin 32, digitChar v ≠ '\'' := by decide
  rw [toText, String.toList_ofList, List.mem_map]
  rintro ⟨digit, member, same⟩
  exact noQuote ⟨digit, Text.lt_of_mem_toDigits (by decide) member⟩ same

theorem Ulid.toText_inj {left right : Ulid} (same : left.toText = right.toText) : left = right := by
  have read := left.ofCrockford?_toText
  rw [same, right.ofCrockford?_toText] at read
  exact (Option.some.inj read).symm

namespace Manner

/-- The command of a statement is the same in both manners. -/
theorem command?_ask
    (manner : Manner) {head : String} {c : Char} {cs : List Char} (id : Ulid) {command : Command}
    (begins : head.toList = c :: cs) (plain : Stretch.isPlain head.toList = true)
    (solid : Text.isBlank c = false) (other : c ≠ ';')
    (bound : Command.ofText (inlineParameters (head ++ "$1") [.ofText? (some id.toText)]) =
      .ok command) :
    (manner.ask head id.toText).command? = some command := by
  cases manner with
  | quoted =>
      have whole : (head ++ "'" ++ id.toText ++ "'").toList =
          c :: (cs ++ '\'' :: (id.toText.toList ++ ['\''])) := by
        simp [begins]
      have busy := isIdle_of_solid whole solid other
      rw [ask, Message.command?, busy, if_neg Bool.false_ne_true,
        quoted_eq_inlineParameters plain id.quote_not_mem_toText, bound]
      rfl
  | bound =>
      rw [ask, Message.command?, bound]
      rfl

theorem command?_finding (manner : Manner) (id : Ulid) :
    (manner.finding id.toText).command? = some (.find id) := by
  refine manner.command?_ask id rfl (by decide) (by decide) (by decide) ?_
  have same : "SELECT * FROM reservations WHERE id = " ++ "$1" = Command.findingText := by
    decide +kernel
  rw [same, Command.ofText_finding, Command.idOfText_toText]
  rfl

theorem command?_removal (manner : Manner) (id : Ulid) :
    (manner.removal id.toText).command? = some (.remove id) := by
  refine manner.command?_ask id rfl (by decide) (by decide) (by decide) ?_
  have same : "DELETE FROM reservations WHERE id = " ++ "$1" = Command.removalText := by
    decide +kernel
  rw [same, Command.ofText_removal, Command.idOfText_toText]
  rfl

theorem command?_listing (manner : Manner) (resource : Ulid) :
    (manner.listing resource.toText).command? = some (.list (some resource)) := by
  refine manner.command?_ask resource rfl (by decide) (by decide) (by decide) ?_
  have same : "SELECT * FROM reservations WHERE resource_id = " ++ "$1" =
      Command.listingText := by
    decide +kernel
  rw [same, Command.ofText_listing, Command.idOfText_toText]
  rfl

theorem command?_listingAll (manner : Manner) :
    manner.listingAll.command? = some (.list none) := by
  have read : Command.ofText "SELECT * FROM reservations" = .ok (.list none) := by
    decide +kernel
  cases manner with
  | quoted =>
      have busy : isIdle "SELECT * FROM reservations" = false := by decide +kernel
      rw [listingAll, Message.command?, busy, if_neg Bool.false_ne_true, read]
      rfl
  | bound =>
      have nothing : inlineParameters "SELECT * FROM reservations" [] =
          "SELECT * FROM reservations" := by
        decide +kernel
      rw [listingAll, Message.command?, nothing, read]
      rfl

end Manner

end Reservations
