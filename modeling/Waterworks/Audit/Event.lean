import Waterworks.Json.Shape
import Waterworks.Text

namespace Waterworks.Audit

open Json Text

/-!
# Stamps and events

* `Stamp` — the time and the identifier of an event.
* `Stamp.ofClock` — the stamp for a reading of the clock and a random number.
* `Event` — the record of one operation on the database.
* `Event.line` — an event as a line of the log.
* `readEvents` — the events in the text of a log.
-/

/-- What tells an event from all others. -/
structure Stamp where
  time : String
  id : String
  deriving DecidableEq, Repr

namespace Stamp

/-- The digits to base 32: no letter among them is easily taken for a digit. -/
def digits : List Char := "0123456789ABCDEFGHJKMNPQRSTVWXYZ".toList

/-- The last `count` digits to base 32 of a number, last digit first. -/
def digitsOf : (count : Nat) → Nat → List Char
  | 0, _ => []
  | count + 1, n => digits.getD (n % 32) '0' :: digitsOf count (n / 32)

/-- The number of digits of an identifier. -/
def idLength : Nat := 26

/-- The bits of an identifier that are random. -/
def randomBits : Nat := 80

/-- The stamp for a time in milliseconds and a random number. Identifiers begin with the time, so
that they are in the order of time. -/
def ofClock (milliseconds random : Nat) : Stamp :=
  let shift := Nat.pow 2 randomBits
  { time := toString (milliseconds / 1000) ++ "Z"
    id := String.ofList (digitsOf idLength (milliseconds * shift + random % shift)).reverse }

end Stamp

/-! ### Events -/

/-- The record of one operation. -/
structure Event where
  time : String
  id : String
  actor : String
  operation : String
  /-- The name of the file of the database. -/
  database : String
  status : String
  deriving DecidableEq, Repr

namespace Event

/-- The word for the outcome of an operation. -/
def statusOf (succeeded : Bool) : String :=
  if succeeded then "success" else "error"

/-- The members of an event, all of them texts and none of them optional. -/
def shape : Shape :=
  .record "BrokerEvent" <|
    .required "ts" .text <|
    .required "event_id" .text <|
    .required "actor" .text <|
    .required "op" .text <|
    .required "db_id" .text <|
    .required "status" .text .nil

/-- An event as the values of its members. -/
def toCarrier (e : Event) : shape.Carrier :=
  (e.time, e.id, e.actor, e.operation, e.database, e.status, ())

/-- The event with these members. -/
def ofCarrier : shape.Carrier → Event
  | (time, id, actor, operation, database, status, _) =>
    ⟨time, id, actor, operation, database, status⟩

/-- The value that is written into the log. -/
def toValue (e : Event) : Value :=
  shape.toValue e.toCarrier

/-- The event that a document spells. -/
def readDocument (document : String) : Except ReadError Event :=
  (shape.readDocument document).map ofCarrier

/-- An event as a line of the log. -/
def line (e : Event) : String :=
  e.toValue.compact ++ "\n"

end Event

/-- The events in the text of a log, oldest first. Blank lines are passed over, and the first line
that is no event makes the whole log unreadable. -/
def readEvents (log : String) : Except ReadError (List Event) :=
  ((lines log).filter fun line => !isAllBlank line).mapM Event.readDocument

end Waterworks.Audit
