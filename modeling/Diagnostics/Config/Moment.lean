namespace Diagnostics

structure Date where
  year : Nat
  month : Nat
  day : Nat
  deriving DecidableEq, Repr

structure Clock where
  hour : Nat
  minute : Nat
  second : Nat
  micro : Nat
  deriving DecidableEq, Repr

inductive Offset where
  | universal
  | given (negative : Bool) (minutes : Nat)
  deriving DecidableEq, Repr

inductive Moment where
  | date (d : Date)
  | clock (c : Clock)
  | dateTime (d : Date) (c : Clock) (offset : Option Offset)
  deriving DecidableEq, Repr

def zeroFilled (width n : Nat) : String :=
  let ds := Nat.toDigits 10 n
  String.ofList (List.replicate (width - ds.length) '0' ++ ds)

def Date.isLeap (year : Nat) : Bool := year % 4 = 0 && (year % 100 ≠ 0 || year % 400 = 0)

def Date.monthLength (year month : Nat) : Nat :=
  if month = 2 then (if isLeap year then 29 else 28)
  else if month = 4 || month = 6 || month = 9 || month = 11 then 30
  else 31

def Date.valid (d : Date) : Bool :=
  1 ≤ d.year && d.year ≤ 9999 && 1 ≤ d.month && d.month ≤ 12 && 1 ≤ d.day
    && d.day ≤ monthLength d.year d.month

def Clock.valid (c : Clock) : Bool := c.hour < 24 && c.minute < 60 && c.second < 60

namespace Date

def iso (d : Date) : String :=
  zeroFilled 4 d.year ++ "-" ++ zeroFilled 2 d.month ++ "-" ++ zeroFilled 2 d.day

def parts (d : Date) : List String := [toString d.year, toString d.month, toString d.day]

end Date

namespace Clock

def iso (c : Clock) : String :=
  zeroFilled 2 c.hour ++ ":" ++ zeroFilled 2 c.minute ++ ":" ++ zeroFilled 2 c.second
    ++ (if c.micro = 0 then "" else "." ++ zeroFilled 6 c.micro)

def parts (c : Clock) : List String :=
  [toString c.hour, toString c.minute]
    ++ (if c.second = 0 && c.micro = 0 then []
        else toString c.second :: (if c.micro = 0 then [] else [toString c.micro]))

end Clock

namespace Offset

def minutes : Offset → Int
  | universal => 0
  | given negative minutes => if negative then -minutes else minutes

def written (negative : Bool) (minutes : Nat) : String :=
  (if negative then "-" else "+") ++ zeroFilled 2 (minutes / 60) ++ ":" ++ zeroFilled 2 (minutes % 60)

def iso (o : Offset) : String := written (o.minutes < 0) o.minutes.natAbs

def name : Offset → String
  | universal => "UTC"
  | given negative minutes => written negative minutes

def delta (o : Offset) : String :=
  if o.minutes = 0 then "datetime.timedelta(0)"
  else if o.minutes < 0 then
    "datetime.timedelta(days=-1, seconds=" ++ toString (86400 + 60 * o.minutes) ++ ")"
  else "datetime.timedelta(seconds=" ++ toString (60 * o.minutes) ++ ")"

def text (o : Offset) : String := "datetime.timezone(" ++ o.delta ++ ", '" ++ o.name ++ "')"

end Offset

namespace Moment

def iso : Moment → String
  | .date d => d.iso
  | .clock c => c.iso
  | .dateTime d c offset => d.iso ++ "T" ++ c.iso ++ (offset.map Offset.iso).getD ""

def text : Moment → String
  | .date d => "datetime.date(" ++ ", ".intercalate d.parts ++ ")"
  | .clock c => "datetime.time(" ++ ", ".intercalate c.parts ++ ")"
  | .dateTime d c offset =>
      "datetime.datetime(" ++ ", ".intercalate (d.parts ++ c.parts)
        ++ (offset.map fun o => ", tzinfo=" ++ o.text).getD "" ++ ")"

end Moment

end Diagnostics
