import Boilerplate.Time.Timestamp
import Boilerplate.Toml.Text

/-!
# TOML dates and times

A date, a time of day, or both with an optional offset from universal time. In its written form a
`T` stands between date and time, and a fraction has no zeros at its end. Seconds and fraction may
be left out of a time; the written form either fills them in or leaves them out as well.
-/

namespace Boilerplate

namespace DateTime

/-- A time of day. A 60th second is a leap second. -/
structure Clock where
  hour : Nat
  minute : Nat
  second? : Option Nat
  /-- The fraction of the second, if it has one. -/
  nanos? : Option Nat
  deriving DecidableEq, Repr

/-- An offset from universal time: the letter `Z`, or minutes. -/
inductive Offset
  | universal
  | minutes (n : Int)
  deriving DecidableEq, Repr

end DateTime

inductive DateTime
  | date (d : Date)
  | clock (t : DateTime.Clock)
  | both (d : Date) (t : DateTime.Clock) (offset : Option DateTime.Offset)
  deriving DecidableEq, Repr

namespace DateTime

open Timestamp (padded nanos?)
open Toml (char?)

def dateText (d : Date) : List Char :=
  padded 4 d.year.toNat ++ '-' :: padded 2 d.month ++ '-' :: padded 2 d.day

/-- How much of a time is shown. -/
inductive Detail
  /-- Seconds in any case, and a fraction unless it is zero. -/
  | uniform
  /-- Seconds and a fraction where the time has them. -/
  | given
  deriving DecidableEq, Repr

def secondText : Detail → Option Nat → List Char
  | .uniform, second? => ':' :: padded 2 (second?.getD 0)
  | .given, some second => ':' :: padded 2 second
  | .given, none => []

/-- The digits of a fraction without zeros at the end, one digit at least. -/
def fractionDigits (nanos : Nat) : List Char :=
  if nanos = 0 then ['0'] else ((padded 9 nanos).reverse.dropWhile (· == '0')).reverse

def fractionText : Detail → Option Nat → List Char
  | _, none => []
  | detail, some nanos =>
    if nanos = 0 ∧ detail = .uniform then [] else '.' :: fractionDigits nanos

def Clock.text (t : Clock) (detail : Detail) : List Char :=
  padded 2 t.hour ++ ':' :: padded 2 t.minute ++ secondText detail t.second?
    ++ fractionText detail t.nanos?

def Offset.text : Offset → List Char
  | .universal => ['Z']
  | .minutes n =>
    (if n < 0 then '-' else '+') :: padded 2 (n.natAbs / 60) ++ ':' :: padded 2 (n.natAbs % 60)

def text (v : DateTime) (detail : Detail) : String :=
  String.ofList <|
    match v with
    | .date d => dateText d
    | .clock t => t.text detail
    | .both d t offset =>
      dateText d ++ 'T' :: t.text detail ++ (offset.map Offset.text).getD []

/-- `count` digits at the front, with their value at most `limit`. -/
def digits? (count limit : Nat) (s : List Char) : Option (Nat × List Char) :=
  let ds := s.take count
  let n := Notation.natOfDigits ds
  if ds.length = count ∧ ds.all Notation.isDigit ∧ n ≤ limit then some (n, s.drop count) else none

def date? (s : List Char) : Option (Date × List Char) := do
  let (year, s) ← digits? 4 9999 s
  let s ← char? '-' s
  let (month, s) ← digits? 2 12 s
  let s ← char? '-' s
  let (day, s) ← digits? 2 31 s
  let d : Date := ⟨year, month, day⟩
  if d.isValid then some (d, s) else none

/-- A fraction of a second, or nothing. -/
def fraction? (s : List Char) : Option (Option Nat × List Char) :=
  if s.head? = some '.' then (nanos? s).map fun (n, s) => (some n, s) else some (none, s)

def clock? (s : List Char) : Option (Clock × List Char) := do
  let (hour, s) ← digits? 2 23 s
  let s ← char? ':' s
  let (minute, s) ← digits? 2 59 s
  match s with
  | ':' :: rest => do
    let (second, s) ← digits? 2 60 rest
    let (nanos?, s) ← fraction? s
    some (⟨hour, minute, some second, nanos?⟩, s)
  | s => some (⟨hour, minute, none, none⟩, s)

/-- The whole of an offset, or nothing. -/
def offset? (s : List Char) : Option (Option Offset) :=
  match s with
  | [] => some none
  | sign :: rest =>
    if sign = 'Z' ∨ sign = 'z' then (if rest.isEmpty then some (some .universal) else none)
    else if sign = '+' ∨ sign = '-' then do
      let (hours, s) ← digits? 2 23 rest
      let s ← char? ':' s
      let (minutes, s) ← digits? 2 59 s
      let n : Int := hours * 60 + minutes
      if s.isEmpty then some (some (.minutes (if sign = '-' then -n else n))) else none
    else none

/-- What may stand between a date and a time. -/
def isDateEnd (c : Char) : Bool :=
  c == 'T' || c == 't' || c == ' '

def ofText? (s : List Char) : Option DateTime :=
  match date? s with
  | some (d, []) => some (.date d)
  | some (d, c :: rest) =>
    if isDateEnd c then do
      let (t, s) ← clock? rest
      let offset ← offset? s
      some (.both d t offset)
    else none
  | none =>
    match clock? s with
    | some (t, []) => some (.clock t)
    | _ => none

end DateTime

end Boilerplate
