import HomeTiles.JsonWriter

/-!
# Reading JSON: the value of a text

`Value.read` reads a whole text. Blanks are the space, tab, line feed and
carriage return; a name that comes again in an object takes over the earlier
one's place; the words for NaN and the infinities are read too. A text is
`malformed` or holds an integer of too many digits, whichever is met first from
the left. The reader's functions take the characters still to come and give
back those they leave.

The texts in a value are made of Unicode characters, and half of a surrogate pair
is none. So the escape of a half that stands alone is read as the replacement
character: texts that hold such halves are left out here, and no two of them are
kept apart. What needs them apart is stated for texts that spell no half alone.
-/

namespace HomeTiles

/-- Why a text has no value. -/
inductive ReadFault where
  | malformed
  /-- An integer has more digits than the reader allows. -/
  | tooManyDigits
  deriving DecidableEq, Repr

namespace JsonReader

/-- What a part of the reader gives back: a result and the characters left over. -/
abbrev Step (α : Type) := Except ReadFault (α × List Char)

/-! ## Blanks and digits -/

/-- Whether a character may stand between the parts of a text. -/
def isBlank (c : Char) : Bool := c = ' ' || c = '\t' || c = '\n' || c = '\r'

def skipBlanks (cs : List Char) : List Char := cs.dropWhile isBlank

def hexValue? (c : Char) : Option Nat :=
  if '0' ≤ c ∧ c ≤ '9' then some (c.toNat - 48)
  else if 'a' ≤ c ∧ c ≤ 'f' then some (c.toNat - 87)
  else if 'A' ≤ c ∧ c ≤ 'F' then some (c.toNat - 55)
  else none

/-- The number that four hexadecimal digits stand for. -/
def unit? (a b c d : Char) : Option Nat :=
  match hexValue? a, hexValue? b, hexValue? c, hexValue? d with
  | some a, some b, some c, some d => some (a * 4096 + b * 256 + c * 16 + d)
  | _, _, _, _ => none

/-! ## Texts in quotes -/

/-- The character for a letter after a backslash. -/
def letterEscape? (c : Char) : Option Char :=
  if c = '"' then some '"'
  else if c = '\\' then some '\\'
  else if c = '/' then some '/'
  else if c = 'b' then some '\x08'
  else if c = 'f' then some '\x0c'
  else if c = 'n' then some '\n'
  else if c = 'r' then some '\r'
  else if c = 't' then some '\t'
  else none

def opensPair (n : Nat) : Bool := 0xd800 ≤ n && n < 0xdc00

def closesPair (n : Nat) : Bool := 0xdc00 ≤ n && n < 0xe000

/-- The character of a single unit; half of a pair alone is the replacement character. -/
def unitChar (n : Nat) : Char := if opensPair n || closesPair n then '\ufffd' else Char.ofNat n

def pairChar (first second : Nat) : Char :=
  Char.ofNat (0x10000 + (first - 0xd800) * 0x400 + (second - 0xdc00))

/-- The character that an escape after a backslash stands for. -/
def readEscape : List Char → Step Char
  | 'u' :: a :: b :: c :: d :: rest =>
    match unit? a b c d with
    | none => .error .malformed
    | some first =>
      if opensPair first then
        match rest with
        | '\\' :: 'u' :: e :: f :: g :: h :: more =>
          match unit? e f g h with
          | none => .error .malformed
          | some second =>
            if closesPair second then .ok (pairChar first second, more) else .ok (unitChar first, rest)
        | _ => .ok (unitChar first, rest)
      else .ok (unitChar first, rest)
  | c :: rest => match letterEscape? c with
    | some d => .ok (d, rest)
    | none => .error .malformed
  | [] => .error .malformed

/-- The text up to the closing quote; `seen` holds its characters so far, last first. -/
def readChars : Nat → List Char → List Char → Step String
  | 0, _, _ => .error .malformed
  | fuel + 1, seen, cs => match cs with
    | [] => .error .malformed
    | '"' :: rest => .ok (String.ofList seen.reverse, rest)
    | '\\' :: rest => match readEscape rest with
      | .ok (c, more) => readChars fuel (c :: seen) more
      | .error fault => .error fault
    | c :: rest => if c.toNat < 0x20 then .error .malformed else readChars fuel (c :: seen) rest

def readText (cs : List Char) : Step String := readChars (cs.length + 1) [] cs

/-! ## Numbers -/

/-- The digits that a list of characters begins with, and what follows them. -/
def splitDigits (cs : List Char) : List Char × List Char := (cs.takeWhile Char.isDigit, cs.dropWhile Char.isDigit)

/-- The digits after a point, if a point with a digit comes next. -/
def readFraction : List Char → Option (List Char) × List Char
  | '.' :: rest =>
    let (digits, more) := splitDigits rest
    if digits.isEmpty then (none, '.' :: rest) else (some digits, more)
  | cs => (none, cs)

/-- The exponent, if a mark with at least one digit comes next. -/
def readExponent : List Char → Option Int × List Char
  | [] => (none, [])
  | mark :: rest =>
    if mark = 'e' ∨ mark = 'E' then
      let (negative, unsigned) := match rest with
        | '-' :: more => (true, more)
        | '+' :: more => (false, more)
        | more => (false, more)
      let (digits, more) := splitDigits unsigned
      if digits.isEmpty then (none, mark :: rest)
      else
        let magnitude : Int := Nat.ofDigitChars 10 digits 0
        (some (if negative then -magnitude else magnitude), more)
    else (none, mark :: rest)

/-- The digits before any point: a zero alone, or digits that begin with another one. -/
def readWhole : List Char → Option (List Char × List Char)
  | '0' :: rest => some (['0'], rest)
  | cs =>
    let (digits, more) := splitDigits cs
    if digits.isEmpty then none else some (digits, more)

/-- A number: an integer unless it has a fraction or an exponent. -/
def readNumber (limit : Option Nat) (negative : Bool) (cs : List Char) : Step Value :=
  match readWhole cs with
  | none => .error .malformed
  | some (whole, afterWhole) =>
    let (fraction, afterFraction) := readFraction afterWhole
    let (exponent, rest) := readExponent afterFraction
    if fraction.isNone && exponent.isNone then
      if limit.any (· < whole.length) then .error .tooManyDigits
      else
        let magnitude : Int := Nat.ofDigitChars 10 whole 0
        .ok (.int (if negative then -magnitude else magnitude), rest)
    else
      let places := fraction.getD []
      let digits := Nat.ofDigitChars 10 (whole ++ places) 0
      .ok (.float (Double.ofDecimal negative digits (exponent.getD 0 - places.length)), rest)

/-! ## Values -/

/-- A word that stands for a value, if one comes next. -/
def readWord? : List Char → Option (Value × List Char)
  | 'n' :: 'u' :: 'l' :: 'l' :: rest => some (.null, rest)
  | 't' :: 'r' :: 'u' :: 'e' :: rest => some (.bool true, rest)
  | 'f' :: 'a' :: 'l' :: 's' :: 'e' :: rest => some (.bool false, rest)
  | 'N' :: 'a' :: 'N' :: rest => some (.float (.nan false), rest)
  | 'I' :: 'n' :: 'f' :: 'i' :: 'n' :: 'i' :: 't' :: 'y' :: rest => some (.float (.infinity false), rest)
  | '-' :: 'I' :: 'n' :: 'f' :: 'i' :: 'n' :: 'i' :: 't' :: 'y' :: rest =>
    some (.float (.infinity true), rest)
  | _ => none

/-- A value that holds no other: a text, a word or a number. -/
def readScalar (limit : Option Nat) (cs : List Char) : Step Value :=
  match cs with
  | '"' :: rest => match readText rest with
    | .ok (s, more) => .ok (.text s, more)
    | .error fault => .error fault
  | cs => match readWord? cs with
    | some found => .ok found
    | none => match cs with
      | '-' :: rest => readNumber limit true rest
      | cs => readNumber limit false cs

def readName : List Char → Step String
  | '"' :: rest => match readText rest with
    | .ok (name, more) => match skipBlanks more with
      | ':' :: after => .ok (name, skipBlanks after)
      | _ => .error .malformed
    | .error fault => .error fault
  | _ => .error .malformed

mutual
/-- A value; the fuel bounds how many items and levels are read. -/
def readValue (limit : Option Nat) : Nat → List Char → Step Value
  | 0, _ => .error .malformed
  | fuel + 1, cs => match cs with
    | '[' :: rest => match skipBlanks rest with
      | ']' :: more => .ok (.array [], more)
      | more => readItems limit fuel [] more
    | '\x7b' :: rest => match skipBlanks rest with
      | '\x7d' :: more => .ok (.object [], more)
      | more => readFields limit fuel [] more
    | cs => readScalar limit cs

/-- The items of an array from the next one on; `seen` holds those before it, last first. -/
def readItems (limit : Option Nat) : Nat → List Value → List Char → Step Value
  | 0, _, _ => .error .malformed
  | fuel + 1, seen, cs => match readValue limit fuel cs with
    | .error fault => .error fault
    | .ok (v, rest) => match skipBlanks rest with
      | ']' :: more => .ok (.array (v :: seen).reverse, more)
      | ',' :: more => readItems limit fuel (v :: seen) (skipBlanks more)
      | _ => .error .malformed

/-- The entries of an object from the next one on; `seen` holds those before it. -/
def readFields (limit : Option Nat) : Nat → Fields → List Char → Step Value
  | 0, _, _ => .error .malformed
  | fuel + 1, seen, cs => match readName cs with
    | .error fault => .error fault
    | .ok (name, afterName) => match readValue limit fuel afterName with
      | .error fault => .error fault
      | .ok (v, rest) => match skipBlanks rest with
        | '\x7d' :: more => .ok (.object (seen.put name v), more)
        | ',' :: more => readFields limit fuel (seen.put name v) (skipBlanks more)
        | _ => .error .malformed
end

end JsonReader

open JsonReader in
/-- The value of a text, integers of at most `limit` digits allowed if there is a limit. -/
def Value.readWithin (limit : Option Nat) (s : String) : Except ReadFault Value :=
  let cs := s.toList
  match readValue limit (2 * cs.length + 2) (skipBlanks cs) with
  | .error fault => .error fault
  | .ok (v, rest) => if (skipBlanks rest).isEmpty then .ok v else .error .malformed

/-- The value of a text under the digit limit. -/
def Value.read (s : String) : Except ReadFault Value := Value.readWithin (some digitLimit) s

end HomeTiles
