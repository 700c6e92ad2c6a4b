/- # Timestamps

A date is four, two and two digits. A moment may have shorter months, days and
hours; a `T` or blanks part its date from its time, and a zone may follow. Digits of
a second beyond the sixth are dropped. Where a tag asks for a timestamp a date may be
shorter too. -/
import BlockWire.Config.Setting
import BlockWire.Yaml.Number

namespace BlockWire.Yaml

set_option autoImplicit false

/-- The number of up to `most` digits at the head of a text, of at least `least`. -/
def digits? (least most : Nat) (t : Text) : Option (Nat × Text) :=
  let digits := (t.take most).takeWhile CodePoint.isDigit
  if digits.length < least then none
  else some (Text.digitsValue digits, t.drop digits.length)

def isGap (c : CodePoint) : Bool := c = ' ' || c = '\t'

/-- What parts the date from the time: blanks or one letter. -/
def timeGap? : Text → Option Text
  | [] => none
  | c :: rest =>
      if c = 'T' ∨ c = 't' then some rest
      else if isGap c then some (rest.dropWhile isGap)
      else none

/-- Millionths of a second, from the digits behind the point. -/
def micros (fraction : Text) : Nat :=
  let kept := fraction.take 6
  Text.digitsValue kept * Nat.pow 10 (6 - kept.length)

def fraction (t : Text) : Nat × Text :=
  match Text.after? "." t with
  | none => (0, t)
  | some rest => (micros (Text.leadingDigits rest), rest.dropWhile CodePoint.isDigit)

/-- An offset behind its sign. -/
def offset? (t : Text) : Option (Nat × Text) := do
  let (hours, rest) ← digits? 1 2 t
  match Text.after? ":" rest with
  | none => some (hours * 60, rest)
  | some behind => do
      let (minutes, rest) ← digits? 2 2 behind
      some (hours * 60 + minutes, rest)

/-- A zone that ends the text, or none where the text ends. -/
def zone? (t : Text) : Option (Option Int) :=
  match t.dropWhile isGap with
  | [] => if t.isEmpty then some none else none
  | c :: rest =>
      if c = 'Z' then (if rest.isEmpty then some (some 0) else none)
      else if c = '+' ∨ c = '-' then
        match offset? rest with
        | some (minutes, []) => some (some (if c = '-' then -(minutes : Int) else minutes))
        | _ => none
      else none

def calendarDay? (least : Nat) (t : Text) : Option (Date × Text) := do
  let (year, rest) ← digits? 4 4 t
  let rest ← Text.after? "-" rest
  let (month, rest) ← digits? least 2 rest
  let rest ← Text.after? "-" rest
  let (day, rest) ← digits? least 2 rest
  some (⟨year, month, day⟩, rest)

/-- A date that is the whole text, its month and day of at least `least` digits. -/
def date? (least : Nat) (t : Text) : Option Date :=
  match calendarDay? least t with
  | some (date, []) => some date
  | _ => none

def moment? (t : Text) : Option Moment := do
  let (date, rest) ← calendarDay? 1 t
  let rest ← timeGap? rest
  let (hour, rest) ← digits? 1 2 rest
  let rest ← Text.after? ":" rest
  let (minute, rest) ← digits? 2 2 rest
  let rest ← Text.after? ":" rest
  let (second, rest) ← digits? 2 2 rest
  let (micros, rest) := fraction rest
  let zone ← zone? rest
  some ⟨date, hour, minute, second, micros, zone⟩

/-- What a text shows of its shape: a line feed at its end does not count. -/
def shapeOf (t : Text) : Text :=
  if t.getLast? = some (CodePoint.ofChar '\n') then t.dropLast else t

def isTimestamp (t : Text) : Bool := (date? 2 t).isSome || (moment? t).isSome

def checked {α : Type} (problem : Option CalendarProblem) (value : α) : Except Fault α :=
  match problem with
  | some problem => .error (.calendar problem)
  | none => .ok value

def timestampValue (t : Text) : Except Fault Setting :=
  match date? 1 (shapeOf t), moment? (shapeOf t) with
  | some d, _ => checked d.problem? (.date d)
  | none, some m => checked m.problem? (.moment m)
  | none, none => .error .notTimestamp

end BlockWire.Yaml
