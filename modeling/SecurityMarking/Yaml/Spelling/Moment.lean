/-
Spellings of dates and moments.

A date is a year of four digits, a month and a day, with dashes between them.  A
moment goes on with a letter or blanks and the time of day, which has colons between
its parts, and may end with what its clock is ahead of universal time.
-/
import SecurityMarking.Yaml.Spelling.Fraction

namespace SecurityMarking.Yaml

/-- The time of day of a moment, as it is spelled. -/
structure SpelledTime where
  hour : Text
  minute : Text
  second : Text
  fraction : Text
  offset : Option Int

/-- A date, or a moment, as it is spelled. -/
structure SpelledMoment where
  year : Text
  month : Text
  day : Text
  time : Option SpelledTime

/-- The digits that a text begins with, as many as are wanted and there are, and what follows. -/
def takeDigits (most : Nat) (t : Text) : Text × Text :=
  let digits := (t.take most).takeWhile Char.isDigit
  (digits, t.drop digits.length)

/-- What follows a character that a text begins with. -/
def afterChar? (c : Char) : Text → Option Text
  | [] => none
  | d :: t => if c == d then some t else none

/-- The value of a text of digits. -/
def valueOf (t : Text) : Nat := (digits? t).getD 0

/-- The minutes ahead of universal time that the end of a moment says, if it says; blanks may stand
before it. -/
def offset? (t : Text) : Option (Option Int) :=
  match t.dropWhile fun c => c == ' ' || c == '\t' with
  | [] => if t.isEmpty then some none else none
  | ['Z'] => some (some 0)
  | sign :: t => do
    if sign != '+' && sign != '-' then none
    let (hour, t) := takeDigits 2 t
    let minute ←
      if t.isEmpty then some []
      else do
        let (minute, t) := takeDigits 2 (← afterChar? ':' t)
        if minute.length == 2 && t.isEmpty then some minute else none
    if hour.isEmpty then none
    let minutes : Int := 60 * valueOf hour + valueOf minute
    return some (if sign == '-' then -minutes else minutes)

/-- The time of day that a text spells. -/
def spelledTime? (t : Text) : Option SpelledTime := do
  let (hour, t) := takeDigits 2 t
  let (minute, t) := takeDigits 2 (← afterChar? ':' t)
  let (second, t) := takeDigits 2 (← afterChar? ':' t)
  if hour.isEmpty || minute.length != 2 || second.length != 2 then none
  let (fraction, t) :=
    match t with
    | '.' :: t => (t.takeWhile Char.isDigit, t.dropWhile Char.isDigit)
    | t => ([], t)
  return ⟨hour, minute, second, fraction, ← offset? t⟩

/-- The date or the moment that a text spells. -/
def spelledMoment? (t : Text) : Option SpelledMoment := do
  let (year, t) := takeDigits 4 t
  let (month, t) := takeDigits 2 (← afterChar? '-' t)
  let (day, t) := takeDigits 2 (← afterChar? '-' t)
  if year.length != 4 || month.isEmpty || day.isEmpty then none
  match t with
  | [] => return ⟨year, month, day, none⟩
  | c :: t' =>
    let time :=
      if c == 'T' || c == 't' then t' else (c :: t').dropWhile fun c => c == ' ' || c == '\t'
    if time.length == t'.length + 1 then none
    return ⟨year, month, day, some (← spelledTime? time)⟩

/-- Whether a text looks like a date or a moment; a date by itself has two digits for the month and
for the day. -/
def looksLikeMoment (t : Text) : Bool :=
  match spelledMoment? t with
  | none => false
  | some m => m.time.isSome || (m.month.length == 2 && m.day.length == 2)

/-- The millionths that the digits after the point of the seconds say. -/
def microseconds (fraction : Text) : Nat :=
  let digits := fraction.take 6
  valueOf (digits ++ List.replicate (6 - digits.length) '0')

/-- The date or the moment that a text says; a line end may end it. -/
def readMoment (t : Text) : Except Fault Scalar :=
  let orFault {α : Type} (r : Except CalendarFault α) : Except Fault α :=
    r.mapError fun fault => .misuse (.calendar fault)
  match spelledMoment? (withoutLineEnd t) with
  | none => .error (.misuse .notAMoment)
  | some ⟨year, month, day, none⟩ =>
    .date <$> orFault (Date.of (valueOf year) (valueOf month) (valueOf day))
  | some ⟨year, month, day, some time⟩ =>
    .moment <$> orFault (Moment.of (valueOf year) (valueOf month) (valueOf day)
      (valueOf time.hour) (valueOf time.minute) (valueOf time.second)
      (microseconds time.fraction) time.offset)

end SecurityMarking.Yaml
