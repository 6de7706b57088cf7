import HandshakeAuth.Der.Lenient

/-!
The times of a certificate's validity, as the library `x509-parser` checks them. Only whether a time
exists is of interest: its digits name a day of the calendar and a time of that day.
-/

namespace HandshakeAuth.X509
open Der

def isLeapYear (year : Nat) : Bool :=
  year % 4 = 0 && (year % 100 != 0 || year % 400 = 0)

def daysInMonth (year month : Nat) : Nat :=
  match month with
  | 2 => if isLeapYear year then 29 else 28
  | 4 | 6 | 9 | 11 => 30
  | 1 | 3 | 5 | 7 | 8 | 10 | 12 => 31
  | _ => 0

def isCalendarTime (year month day hour minute second : Nat) : Bool :=
  1 ≤ day && day ≤ daysInMonth year month && hour < 24 && minute < 60 && second < 60

def isDigit (b : UInt8) : Bool :=
  48 ≤ b && b ≤ 57

def readDigit : Read Nat := do
  let b ← Read.octet
  guard (isDigit b)
  return b.toNat - 48

def readTwoDigits : Read Nat := do
  let tens ← readDigit
  return 10 * tens + (← readDigit)

/-- The seconds, which may be left out in front of the last octet. -/
def readSeconds : Read Nat := fun bs =>
  match bs with
  | [_] => some (0, bs)
  | _ => readTwoDigits bs

def readWithinYear (year : Nat) : Read Unit := do
  let month ← readTwoDigits
  let day ← readTwoDigits
  let hour ← readTwoDigits
  let minute ← readTwoDigits
  let second ← readSeconds
  guard (isCalendarTime year month day hour minute second)

def readFraction : Read Unit := fun bs =>
  match bs with
  | 46 :: rest =>
    let digits := rest.takeWhile isDigit
    if digits.length ≤ 3 then some ((), rest.drop digits.length) else none
  | _ => some ((), bs)

def readZulu : Read Unit := do
  guard ((← Read.octet) = 90)

def readOffset : Read Unit := do
  let sign ← Read.octet
  let hours ← readTwoDigits
  let minutes ← readTwoDigits
  guard ((sign = 43 ∨ sign = 45) ∧ hours ≤ 25 ∧ minutes < 60)

/-- A UTCTime, whose two-digit years run from 1950 to 2049. -/
def readUtcTime : Read Unit := do
  let year ← readTwoDigits
  readWithinYear ((if 50 ≤ year then 1900 else 2000) + year)
  readZulu <|> readOffset

def readGeneralizedTime : Read Unit := do
  let century ← readTwoDigits
  let year ← readTwoDigits
  readWithinYear (100 * century + year)
  readFraction
  readZulu

def readTime : Read Unit := do
  let e ← Lenient.element
  if e.tag.number = 23 then
    Read.whole readUtcTime e.content
  else
    guard (e.tag.number = 24)
    Read.whole readGeneralizedTime e.content

end HandshakeAuth.X509
