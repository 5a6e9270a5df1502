import Boilerplate.Number.Notation
import Boilerplate.Text.Blank
import Boilerplate.Time.Calendar

/-!
# Timestamps

A point in time to the nanosecond, written as `2024-01-31T23:59:59.5Z`. On reading, any offset from
universal time is allowed, and white space before any part but the `T`. A leap second is kept as a
59th second with more than a billion nanoseconds.
-/

namespace Boilerplate

/-- Seconds since 1 January 1970, and nanoseconds. -/
structure Timestamp where
  seconds : Int
  nanos : Nat
  deriving DecidableEq, Repr

namespace Timestamp

/-- A billion. -/
def nanosPerSecond : Nat := 1_000_000_000

def padded (width n : Nat) : List Char :=
  let ds := Nat.toDigits 10 n
  List.replicate (width - ds.length) '0' ++ ds

/-- Four digits, or at least four and a sign outside the years 0 to 9999. -/
def yearText (year : Int) : List Char :=
  if 0 ≤ year ∧ year ≤ 9999 then padded 4 year.toNat
  else (if year < 0 then '-' else '+') :: padded 4 year.natAbs

/-- No fraction, or one of three, six or nine digits. -/
def fractionText (nanos : Nat) : List Char :=
  if nanos = 0 then []
  else if nanos % 1000000 = 0 then '.' :: padded 3 (nanos / 1000000)
  else if nanos % 1000 = 0 then '.' :: padded 6 (nanos / 1000)
  else '.' :: padded 9 nanos

def text (t : Timestamp) : String :=
  let date := Date.ofDays (Int.fdiv t.seconds 86400)
  let secondOfDay := (Int.fmod t.seconds 86400).toNat
  let leap := if nanosPerSecond ≤ t.nanos then 1 else 0
  String.ofList <|
    yearText date.year ++ '-' :: padded 2 date.month ++ '-' :: padded 2 date.day
      ++ 'T' :: padded 2 (secondOfDay / 3600) ++ ':' :: padded 2 (secondOfDay / 60 % 60)
      ++ ':' :: padded 2 (secondOfDay % 60 + leap)
      ++ fractionText (t.nanos - leap * nanosPerSecond) ++ ['Z']

/-- A number of at most `width` digits after white space, and what follows it. -/
def field? (width : Nat) (s : List Char) : Option (Nat × List Char) :=
  let s := Text.dropBlank s
  let ds := (s.take width).takeWhile Notation.isDigit
  if ds.isEmpty then none else some (Notation.natOfDigits ds, s.drop ds.length)

/-- A year: four digits at most, or any number of them after a sign. -/
def year? (s : List Char) : Option (Int × List Char) :=
  match Text.dropBlank s with
  | '-' :: rest => if rest.head?.any Notation.isDigit then
      (field? rest.length rest).map fun (n, after) => (-(n : Int), after) else none
  | '+' :: rest => if rest.head?.any Notation.isDigit then
      (field? rest.length rest).map fun (n, after) => ((n : Int), after) else none
  | s => (field? 4 s).map fun (n, after) => ((n : Int), after)

def separator? (c : Char) (s : List Char) : Option (List Char) :=
  match Text.dropBlank s with
  | [] => none
  | d :: rest => if d = c then some rest else none

/-- Nanoseconds: digits after a point, those beyond the ninth ignored. -/
def nanos? (s : List Char) : Option (Nat × List Char) :=
  match s with
  | '.' :: rest =>
    let ds := rest.takeWhile Notation.isDigit
    if ds.isEmpty then none
    else
      let kept := ds.take 9
      some (Notation.natOfDigits kept * Nat.pow 10 (9 - kept.length), rest.drop ds.length)
  | s => some (0, s)

def twoDigits? : List Char → Option (Nat × List Char)
  | a :: b :: rest =>
    if Notation.isDigit a && Notation.isDigit b then some (Notation.natOfDigits [a, b], rest)
    else none
  | _ => none

/-- The offset from universal time in seconds: `Z`, `UTC`, or signed hours and minutes. -/
def zone? (s : List Char) : Option (Int × List Char) :=
  match s with
  | [] => none
  | sign :: rest =>
    if sign = 'Z' ∨ sign = 'z' then some (0, rest)
    else if (s.take 3).map Char.toLower = ['u', 't', 'c'] then some (0, s.drop 3)
    else if sign = '+' ∨ sign = '-' ∨ sign = Char.ofNat 0x2212 then do
      let (hours, rest) ← twoDigits? rest
      let (minutes, rest) ← twoDigits? (rest.dropWhile fun c => c == ':' || Text.isBlank c)
      if 24 ≤ hours ∨ 60 ≤ minutes then none
      else
        let offset : Int := hours * 3600 + minutes * 60
        some (if sign = '+' then offset else -offset, rest)
    else none

/-- The years that are read, in the time as written and in universal time. -/
def isYearInRange (year : Int) : Bool :=
  -262143 ≤ year && year ≤ 262142

def isDateEnd (c : Char) : Bool :=
  c == 'T' || c == 't' || c == ' '

def ofText? (s : List Char) : Option Timestamp := do
  let (year, s) ← year? s
  let s ← separator? '-' s
  let (month, s) ← field? 2 s
  let s ← separator? '-' s
  let (day, s) ← field? 2 s
  let s ← if s.head?.any isDateEnd then some (s.drop 1) else none
  let (hour, s) ← field? 2 s
  let s ← separator? ':' s
  let (minute, s) ← field? 2 s
  let s ← separator? ':' s
  let (second, s) ← field? 2 s
  let (nanos, s) ← nanos? s
  let (offset, s) ← zone? (Text.dropBlank s)
  let date : Date := ⟨year, month, day⟩
  if !(Text.dropBlank s).isEmpty || !isYearInRange year || !date.isValid then none
  else if 24 ≤ hour ∨ 60 ≤ minute ∨ 61 ≤ second then none
  else
    let leap := if second = 60 then 1 else 0
    let secondOfDay : Int := hour * 3600 + minute * 60 + (second - leap : Nat)
    let seconds := date.toDays * 86400 + secondOfDay - offset
    let utcYear := (Date.ofDays (Int.fdiv seconds 86400)).year
    if isYearInRange utcYear then some ⟨seconds, nanos + leap * nanosPerSecond⟩ else none

end Timestamp

end Boilerplate
