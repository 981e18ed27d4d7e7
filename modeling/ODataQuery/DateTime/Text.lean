import ODataQuery.DateTime.Basic
import ODataQuery.Text.Blank
import ODataQuery.Text.Letter

/-!
# Written points of time

Points of time are written `2013-12-11T10:11:12.500`, with as many of 0, 3, 6 or 9 fraction digits
as are needed; years outside 0 to 9999 carry a sign.

Reading is more lenient than writing.

* Fields may have fewer digits than they are written with, and may follow blanks.
* `readLiteral?` reads what stands in a filter's `datetime` literal: the seconds, or the whole time
  of day, may be absent.
* `readTimestamp?` reads a point of time in stored data: no field may be absent, and blanks may also
  stand before the marks between the fields and at the end.
-/

set_option autoImplicit false

namespace ODataQuery
namespace DateTime

open Text

/-! ## Writing -/

/-- A number written with at least `width` digits. -/
def padded (width n : Nat) : List Char :=
  let digits := Nat.toDigits 10 n
  List.replicate (width - digits.length) '0' ++ digits

/-- The year: four digits, with a sign if it has more or is negative. -/
def yearText (year : Int) : List Char :=
  if 0 ≤ year ∧ year ≤ 9999 then padded 4 year.toNat
  else (if year < 0 then '-' else '+') :: padded 4 year.natAbs

/-- The fraction of a second, with the fewest groups of three digits that hold it. -/
def fractionText (nanosecond : Nat) : List Char :=
  if nanosecond = 0 then []
  else if nanosecond % 1000000 = 0 then '.' :: padded 3 (nanosecond / 1000000)
  else if nanosecond % 1000 = 0 then '.' :: padded 6 (nanosecond / 1000)
  else '.' :: padded 9 nanosecond

/-- The written form, with `separator` between the day and the time of day. -/
def writeWith (separator : Char) (t : DateTime) : List Char :=
  yearText t.year ++ '-' :: padded 2 t.month ++ '-' :: padded 2 t.day ++ separator ::
    padded 2 t.hour ++ ':' :: padded 2 t.minute ++ ':' :: padded 2 t.second
      ++ fractionText t.nanosecond

/-- The written form of data and literals. -/
def text (t : DateTime) : String :=
  String.ofList (t.writeWith 'T')

/-- The written form of messages, with a space between the day and the time of day. -/
def spacedText (t : DateTime) : String :=
  String.ofList (t.writeWith ' ')

/-! ## Reading -/

/-- Read a number of at most `most` digits. -/
def readNumber? (most : Nat) (text : List Char) : Option (Nat × List Char) :=
  let digits := (text.take most).takeWhile isAsciiDigit
  if digits.isEmpty then none else some (digitsValue digits, text.drop digits.length)

/-- Read a field of at most two digits, after any blanks. -/
def readField? (text : List Char) : Option (Nat × List Char) :=
  readNumber? 2 (trimStart text)

/-- Read a year, after any blanks: four digits at most, or any number of them after a sign. -/
def readYear? (text : List Char) : Option (Int × List Char) :=
  match trimStart text with
  | '-' :: rest => (readNumber? rest.length rest).map fun (n, rest) => (-(n : Int), rest)
  | '+' :: rest => (readNumber? rest.length rest).map fun (n, rest) => ((n : Int), rest)
  | rest => (readNumber? 4 rest).map fun (n, rest) => ((n : Int), rest)

/-- Read a mark, after blanks if these may stand there. -/
def readMark? (blanks : Bool) (mark : Char) (text : List Char) : Option (List Char) :=
  match if blanks then trimStart text else text with
  | [] => none
  | c :: rest => if c = mark then some rest else none

/-- Read an optional fraction of a second in nanoseconds.  Digits after the ninth are ignored. -/
def readFraction? : List Char → Option (Nat × List Char)
  | '.' :: rest =>
    let digits := rest.takeWhile isAsciiDigit
    if digits.isEmpty then none
    else
      let kept := digits.take 9
      some (digitsValue kept * Nat.pow 10 (9 - kept.length), rest.drop digits.length)
  | rest => some (0, rest)

/-- Read a day. -/
def readDate? (blanks : Bool) (text : List Char) : Option ((Int × Nat × Nat) × List Char) := do
  let (year, text) ← readYear? text
  let text ← readMark? blanks '-' text
  let (month, text) ← readField? text
  let text ← readMark? blanks '-' text
  let (day, text) ← readField? text
  some ((year, month, day), text)

/-- Read the hours and minutes of a time of day. -/
def readClock? (blanks : Bool) (text : List Char) : Option ((Nat × Nat) × List Char) := do
  let (hour, text) ← readField? text
  let text ← readMark? blanks ':' text
  let (minute, text) ← readField? text
  some ((hour, minute), text)

/-- Read the seconds of a time of day, and their fraction. -/
def readSeconds? (blanks : Bool) (text : List Char) : Option ((Nat × Nat) × List Char) := do
  let text ← readMark? blanks ':' text
  let (second, text) ← readField? text
  let (nanosecond, text) ← readFraction? text
  some ((second, nanosecond), text)

/-- Read a day with a time of day, the seconds included. -/
def readFull? (blanks : Bool) (text : List Char) : Option (DateTime × List Char) := do
  let ((year, month, day), text) ← readDate? blanks text
  let text ← readMark? blanks 'T' text
  let ((hour, minute), text) ← readClock? blanks text
  let ((second, nanosecond), text) ← readSeconds? blanks text
  let t ← ofFields? year month day hour minute second nanosecond
  some (t, text)

/-- Read a day with a time of day to the minute. -/
def readToMinute? (text : List Char) : Option (DateTime × List Char) := do
  let ((year, month, day), text) ← readDate? false text
  let text ← readMark? false 'T' text
  let ((hour, minute), text) ← readClock? false text
  let t ← ofFields? year month day hour minute 0 0
  some (t, text)

/-- Read a day; its first moment is meant. -/
def readDay? (text : List Char) : Option (DateTime × List Char) := do
  let ((year, month, day), text) ← readDate? false text
  let t ← ofFields? year month day 0 0 0 0
  some (t, text)

/-- The point of time read, if nothing follows it. -/
def atEnd? : Option (DateTime × List Char) → Option DateTime
  | some (t, []) => some t
  | _ => none

/-- Read the text of a `datetime` literal. -/
def readLiteral? (text : List Char) : Option DateTime :=
  (atEnd? (readFull? false text)).or <|
    (atEnd? (readToMinute? text)).or (atEnd? (readDay? text))

/-- Read a point of time in stored data. -/
def readTimestamp? (text : String) : Option DateTime :=
  match readFull? true text.toList with
  | some (t, rest) => if rest.all isBlank then some t else none
  | none => none

end DateTime
end ODataQuery
