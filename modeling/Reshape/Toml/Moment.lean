import Reshape.Text.Digits

/-!
# Dates and times

The dates and times of TOML texts: a date, a time of day, or both, the latter with or without an
offset from universal time.

* `Moment.reader` takes the written form; a day must exist in its month;
* `Moment.text` writes the one canonical form: a `T` between date and time, `Z` for universal time,
  and no more places of a second than needed, at most nine.
-/

namespace Reshape

structure Date where
  year : Nat
  month : Nat
  day : Nat
deriving DecidableEq

/-- A time of day. A second may be a leap second. -/
structure TimeOfDay where
  hour : Nat
  minute : Nat
  second : Nat
  nanosecond : Nat
deriving DecidableEq

/-- How far local time is from universal time. -/
inductive Offset where
  | universal
  | minutes (ahead : Int)
deriving DecidableEq

/-- A date, a time of day, or both. -/
inductive Moment where
  | date (date : Date)
  | time (time : TimeOfDay)
  | instant (date : Date) (time : TimeOfDay) (offset : Option Offset)
deriving DecidableEq

namespace Date

def isLeapYear (year : Nat) : Bool := year % 4 == 0 && (year % 100 != 0 || year % 400 == 0)

def daysIn (year month : Nat) : Nat :=
  if month == 2 then (if isLeapYear year then 29 else 28)
  else if month == 4 || month == 6 || month == 9 || month == 11 then 30
  else 31

end Date

namespace Moment

open Text (Reader isDecimalDigit valueOf withSign)
open Text.Reader

/-! ## Reading -/

/-- A number of exactly `width` digits between two bounds. -/
def digits (width least greatest : Nat) : Reader Nat := do
  let digits ← take width
  let value := valueOf 10 digits
  if digits.all isDecimalDigit ∧ least ≤ value ∧ value ≤ greatest then pure value else failure

def dateReader : Reader Date := do
  let year ← digits 4 0 9999
  char '-'
  let month ← digits 2 1 12
  char '-'
  let day ← digits 2 1 (Date.daysIn year month)
  pure ⟨year, month, day⟩

/-- The nanoseconds after a point; further places are dropped. -/
def nanoseconds : Reader Nat := do
  if ← char? '.' then
    let places ← takeWhile1 isDecimalDigit
    let kept := places.take 9
    pure (valueOf 10 (kept ++ List.replicate (9 - kept.length) '0'))
  else
    pure 0

def timeReader : Reader TimeOfDay := do
  let hour ← digits 2 0 23
  char ':'
  let minute ← digits 2 0 59
  char ':'
  let second ← digits 2 0 60
  pure ⟨hour, minute, second, ← nanoseconds⟩

/-- An offset: `Z`, or hours and minutes after a sign. -/
def offsetReader : Reader Offset :=
  (do let _ ← satisfying fun c => c == 'Z' || c == 'z'; pure .universal) <|>
  (do
    let negative ← (do char '-'; pure true) <|> (do char '+'; pure false)
    let hours ← digits 2 0 23
    char ':'
    let minutes ← digits 2 0 59
    pure (.minutes (withSign negative (hours * 60 + minutes))))

/-- A date, a time, or a date and a time with a `T` or a space between them. -/
def reader : Reader Moment :=
  (do
    let day ← dateReader
    let rest ← optional? do
      let _ ← satisfying fun c => c == 'T' || c == 't' || c == ' '
      let hour ← timeReader
      pure (hour, ← optional? offsetReader)
    match rest with
    | some (hour, offset) => pure (.instant day hour offset)
    | none => pure (.date day)) <|>
  (Moment.time <$> timeReader)

/-! ## Writing -/

/-- The digits of `n`, with zeros in front up to `width`. -/
def padded (width n : Nat) : List Char :=
  let digits := Nat.toDigits 10 n
  List.replicate (width - digits.length) '0' ++ digits

def dateChars (date : Date) : List Char :=
  padded 4 date.year ++ '-' :: padded 2 date.month ++ '-' :: padded 2 date.day

def timeChars (time : TimeOfDay) : List Char :=
  padded 2 time.hour ++ ':' :: padded 2 time.minute ++ ':' :: padded 2 time.second ++
    if time.nanosecond = 0 then []
    else '.' :: ((padded 9 time.nanosecond).reverse.dropWhile (· == '0')).reverse

def offsetChars : Offset → List Char
  | .universal => ['Z']
  | .minutes ahead =>
    (if ahead < 0 then '-' else '+') :: padded 2 (ahead.natAbs / 60) ++
      ':' :: padded 2 (ahead.natAbs % 60)

def text : Moment → String
  | date d => String.ofList (dateChars d)
  | time t => String.ofList (timeChars t)
  | instant d t offset =>
    String.ofList (dateChars d ++ 'T' :: timeChars t ++ (offset.map offsetChars).getD [])

end Moment

end Reshape
