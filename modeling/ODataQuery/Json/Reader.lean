import ODataQuery.Json.Basic
import ODataQuery.Number.Integer
import ODataQuery.Number.Reading

/-!
# Reading JSON

A text is read as one JSON value with nothing but blanks around it; at most `maxDepth` arrays and
objects may enclose one another.

Numbers without fraction and exponent are whole as long as they have 64 bits.  Of the digits of any
other number those count that fit 64 bits as one number; that number, as a double, is then multiplied
or divided by a power of ten, and a number that is too large for a double is refused.

The reader of one level is given the reader of the values inside it, as long as levels are left.
-/

set_option autoImplicit false

namespace ODataQuery
namespace Json

/-- A reader takes the characters that are left and returns those it leaves. -/
abbrev Reader (α : Type) := List Char → Option (α × List Char)

/-- How many arrays and objects may enclose one another. -/
def maxDepth : Nat := 127

/-- The characters after any blanks. -/
def skipBlanks (text : List Char) : List Char :=
  text.dropWhile fun c => c == ' ' || c == '\n' || c == '\t' || c == '\r'

/-- Read a given word. -/
def word? (word : String) (text : List Char) : Option (List Char) :=
  let word := word.toList
  if word.isPrefixOf text then some (text.drop word.length) else none

/-! ## Numbers -/

/-- The value of digits that follow a number, as long as it has 64 bits; and how many of the digits
are in it. -/
def absorb (value : Nat) : List Char → Nat × Nat
  | [] => (value, 0)
  | c :: rest =>
    let next := 10 * value + Text.digitValue c
    if next < UInt64.size then
      let (value, count) := absorb next rest
      (value, count + 1)
    else (value, 0)

/-- Scale a double by a power of ten.  What is too large for a double is no number. -/
def scale? (x : Float) (power : Int) : Option Float :=
  let tenTo (n : Nat) : Float := Number.ofDecimal false ⟨1, n⟩
  let finite (x : Float) : Option Float := if x == 1 / 0 then none else some x
  if 0 ≤ power then
    if power ≤ 308 then finite (x * tenTo power.toNat) else if x == 0 then some x else none
  else if -308 ≤ power then some (x / tenTo (-power).toNat)
  else
    let x := x / tenTo 308
    if -616 ≤ power then some (x / tenTo (-power - 308).toNat) else some 0

/-- The digits that an exponent has, with its sign, and what follows it. -/
def readExponent? : List Char → Option (Int × List Char)
  | mark :: rest =>
    if mark = 'e' ∨ mark = 'E' then
      let (negative, rest) := Number.takeSign rest
      let (digits, rest) := Number.spanDigits rest
      if digits.isEmpty then none
      else
        let n : Int := Text.digitsValue digits
        some (if negative then -n else n, rest)
    else some (0, mark :: rest)
  | [] => some (0, [])

/-- The digits after the point of a number, and what follows them. -/
def readFraction? : List Char → Option (List Char × List Char)
  | '.' :: rest =>
    let (digits, rest) := Number.spanDigits rest
    if digits.isEmpty then none else some (digits, rest)
  | rest => some ([], rest)

/-- The number of its digits, its fraction and its exponent. -/
def makeReal? (negative : Bool) (whole fraction : List Char) (exponent : Int) : Option JsonNumber :=
  let (value, used) := absorb 0 whole
  let dropped := whole.length - used
  let (value, decimals) := absorb value fraction
  (scale? (Number.ofInt value) (exponent + dropped - decimals)).map fun x =>
    .real (if negative then -x else x)

/-- The whole number of the digits, or a double if it does not have 64 bits.  A negative zero is a
double. -/
def makeWhole? (negative : Bool) (digits : List Char) : Option JsonNumber :=
  let n := Text.digitsValue digits
  if negative then
    if 0 < n ∧ (Number.integer? (-(n : Int))).isSome then some (.whole (-(n : Int)))
    else makeReal? true digits [] 0
  else if n < UInt64.size then some (.whole n)
  else makeReal? false digits [] 0

/-- Read the digits of a number, without their sign.  A first digit of zero stands alone. -/
def readUnsigned? (negative : Bool) : Reader JsonNumber := fun text =>
  let (whole, rest) := Number.spanDigits text
  if whole.isEmpty ∨ (whole.head? = some '0' ∧ 1 < whole.length) then none
  else do
    let (fraction, afterFraction) ← readFraction? rest
    let (exponent, afterNumber) ← readExponent? afterFraction
    let number ←
      if afterNumber.length = rest.length then makeWhole? negative whole
      else makeReal? negative whole fraction exponent
    some (number, afterNumber)

/-- Read a number. -/
def readNumber? : Reader Json
  | '-' :: rest => (readUnsigned? true rest).map fun (n, rest) => (.number n, rest)
  | rest => (readUnsigned? false rest).map fun (n, rest) => (.number n, rest)

/-! ## Strings -/

/-- The value of a hexadecimal digit. -/
def hexValue? (c : Char) : Option Nat :=
  if '0' ≤ c ∧ c ≤ '9' then some (c.toNat - '0'.toNat)
  else if 'a' ≤ c ∧ c ≤ 'f' then some (c.toNat - 'a'.toNat + 10)
  else if 'A' ≤ c ∧ c ≤ 'F' then some (c.toNat - 'A'.toNat + 10)
  else none

/-- The value of four hexadecimal digits. -/
def hexFour? (a b c d : Char) : Option Nat := do
  let a ← hexValue? a
  let b ← hexValue? b
  let c ← hexValue? c
  let d ← hexValue? d
  some (((a * 16 + b) * 16 + c) * 16 + d)

/-- The character that an escape of one letter stands for. -/
def simpleEscape? (c : Char) : Option Char :=
  if c = '"' ∨ c = '\\' ∨ c = '/' then some c
  else if c = 'b' then some '\x08'
  else if c = 'f' then some '\x0c'
  else if c = 'n' then some '\n'
  else if c = 'r' then some '\r'
  else if c = 't' then some '\t'
  else none

/-- The character of a code that is no half of a surrogate pair. -/
def scalar? (code : Nat) : Option Char :=
  if code < 0xD800 ∨ 0xDFFF < code then some (Char.ofNat code) else none

/-- The character of the two halves of a surrogate pair. -/
def pair? (high low : Nat) : Option Char :=
  if 0xD800 ≤ high ∧ high ≤ 0xDBFF ∧ 0xDC00 ≤ low ∧ low ≤ 0xDFFF then
    some (Char.ofNat (0x10000 + (high - 0xD800) * 0x400 + (low - 0xDC00)))
  else none

/-- Read the characters of a string up to its closing quote. -/
def readChars? : List Char → Option (List Char × List Char)
  | [] => none
  | '"' :: rest => some ([], rest)
  | '\\' :: 'u' :: a :: b :: c :: d :: rest =>
    match hexFour? a b c d with
    | none => none
    | some code =>
      match scalar? code, rest with
      | some c, rest => (readChars? rest).map fun (chars, rest) => (c :: chars, rest)
      | none, '\\' :: 'u' :: a :: b :: c :: d :: rest =>
        match (hexFour? a b c d).bind (pair? code) with
        | some c => (readChars? rest).map fun (chars, rest) => (c :: chars, rest)
        | none => none
      | none, _ => none
  | '\\' :: c :: rest =>
    match simpleEscape? c with
    | some c => (readChars? rest).map fun (chars, rest) => (c :: chars, rest)
    | none => none
  | c :: rest =>
    if c.toNat < 0x20 ∨ c = '\\' then none
    else (readChars? rest).map fun (chars, rest) => (c :: chars, rest)

/-- Read a string. -/
def readString? : Reader String
  | '"' :: rest => (readChars? rest).map fun (chars, rest) => (String.ofList chars, rest)
  | _ => none

/-! ## Values -/

/-- Read one or more items, at most the given number, and the bracket after them. -/
def readItems? (value : Reader Json) : Nat → Reader (List Json)
  | 0, _ => none
  | count + 1, text => do
    let (item, rest) ← value (skipBlanks text)
    match skipBlanks rest with
    | ']' :: rest => some ([item], rest)
    | ',' :: rest => do
      let (items, rest) ← readItems? value count rest
      some (item :: items, rest)
    | _ => none

/-- Read one or more fields, at most the given number, and the brace after them. -/
def readFields? (value : Reader Json) : Nat → Reader (List (String × Json))
  | 0, _ => none
  | count + 1, text => do
    let (name, rest) ← readString? (skipBlanks text)
    match skipBlanks rest with
    | ':' :: rest => do
      let (field, rest) ← value (skipBlanks rest)
      match skipBlanks rest with
      | '\x7d' :: rest => some ([(name, field)], rest)
      | ',' :: rest => do
        let (fields, rest) ← readFields? value count rest
        some ((name, field) :: fields, rest)
      | _ => none
    | _ => none

/-- Read an array after its opening bracket. -/
def readArray? (value : Reader Json) : Reader Json := fun text =>
  match skipBlanks text with
  | ']' :: rest => some (.array [], rest)
  | rest => (readItems? value rest.length rest).map fun (items, rest) => (.array items, rest)

/-- Read an object after its opening brace. -/
def readObject? (value : Reader Json) : Reader Json := fun text =>
  match skipBlanks text with
  | '\x7d' :: rest => some (.object [], rest)
  | rest => (readFields? value rest.length rest).map fun (fields, rest) => (.object fields, rest)

/-- Read a value, given the reader of the values inside it if there may be any. -/
def readValueOf? (inner : Option (Reader Json)) : Reader Json
  | '[' :: rest => inner.bind fun value => readArray? value rest
  | '\x7b' :: rest => inner.bind fun value => readObject? value rest
  | '"' :: rest => (readString? ('"' :: rest)).map fun (s, rest) => (.string s, rest)
  | 'n' :: rest => (word? "null" ('n' :: rest)).map fun rest => (.null, rest)
  | 't' :: rest => (word? "true" ('t' :: rest)).map fun rest => (.bool true, rest)
  | 'f' :: rest => (word? "false" ('f' :: rest)).map fun rest => (.bool false, rest)
  | rest => readNumber? rest

/-- Read a value inside which the given number of levels may be nested. -/
def readValue? : Nat → Reader Json
  | 0 => readValueOf? none
  | levels + 1 => readValueOf? (some (readValue? levels))

/-- The value that a text holds, if at most the given number of levels are nested. -/
def parseWithin? (levels : Nat) (text : String) : Option Json :=
  match readValue? levels (skipBlanks text.toList) with
  | some (value, rest) => if (skipBlanks rest).isEmpty then some value else none
  | none => none

/-- The value that a text holds. -/
def parse? (text : String) : Option Json :=
  parseWithin? maxDepth text

end Json
end ODataQuery
