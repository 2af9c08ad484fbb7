import HomeTiles.Value
import HomeTiles.DecimalText

/-!
# Writing JSON: which values have a text, and which text

`Value.writeFault?` finds the first part of a value that no text stands for;
`Value.render` gives the text of every other value, in ASCII, either on one
line or with one item a line. `Value.write` is both together.
-/

namespace HomeTiles

/-- Why a value has no text. -/
inductive WriteFault where
  | notData
  | tooManyDigits
  deriving DecidableEq, Repr

/-- The greatest number of decimal digits an integer may have in a text. -/
def digitLimit : Nat := 4300

/-- Whether an integer has more decimal digits than a text may hold. -/
def exceedsDigitLimit (n : Int) : Bool := Nat.pow 10 digitLimit ≤ n.natAbs

/-- The words that JSON texts have for the doubles that are not numbers. -/
def jsonWords : SpecialWords := ⟨"NaN", "Infinity"⟩

/-- How the items of arrays and objects are set apart. -/
inductive Layout where
  | compact
  /-- One item a line, indented by so many blanks a level. -/
  | indented (step : Nat)
  deriving DecidableEq, Repr

namespace Layout

/-- The break before an item of a level. -/
def lineBreak : Layout → Nat → List Char
  | .compact, _ => []
  | .indented step, level => '\n' :: List.replicate (step * level) ' '

/-- What stands between two items of a level. -/
def separator : Layout → Nat → List Char
  | .compact, _ => [',', ' ']
  | .indented step, level => ',' :: lineBreak (.indented step) level

end Layout

namespace JsonWriter

/-- An escape by a four-digit hexadecimal number. -/
def unitEscape (n : Nat) : List Char :=
  ['\\', 'u', (n / 4096 % 16).digitChar, (n / 256 % 16).digitChar, (n / 16 % 16).digitChar, (n % 16).digitChar]

/-- The text of one character inside quotes; past the first 2 ^ 16 it is a pair of escapes. -/
def escape (c : Char) : List Char :=
  if c = '"' then ['\\', '"']
  else if c = '\\' then ['\\', '\\']
  else if c = '\n' then ['\\', 'n']
  else if c = '\r' then ['\\', 'r']
  else if c = '\t' then ['\\', 't']
  else if c = '\x0c' then ['\\', 'f']
  else if c = '\x08' then ['\\', 'b']
  else if 0x20 ≤ c.toNat ∧ c.toNat < 0x7f then [c]
  else if c.toNat < 0x10000 then unitEscape c.toNat
  else unitEscape (0xd800 + (c.toNat - 0x10000) / 0x400) ++ unitEscape (0xdc00 + (c.toNat - 0x10000) % 0x400)

def quoted (s : String) : List Char := '"' :: (s.toList.flatMap escape ++ ['"'])

def integer (n : Int) : List Char :=
  if n < 0 then '-' :: Nat.toDigits 10 n.natAbs else Nat.toDigits 10 n.natAbs

end JsonWriter

open JsonWriter

mutual
/-- The first part of a value that no text stands for. -/
def Value.writeFault? : Value → Option WriteFault
  | .int n => if exceedsDigitLimit n then some .tooManyDigits else none
  | .array items => Value.itemsFault? items
  | .object fields => Value.fieldsFault? fields
  | .handle _ => some .notData
  | _ => none

def Value.itemsFault? : List Value → Option WriteFault
  | [] => none
  | x :: rest => match Value.writeFault? x with
    | some fault => some fault
    | none => Value.itemsFault? rest

def Value.fieldsFault? : List (String × Value) → Option WriteFault
  | [] => none
  | (_, v) :: rest => match Value.writeFault? v with
    | some fault => some fault
    | none => Value.fieldsFault? rest
end

mutual
/-- The text of a value, `level` levels deep; a handle is written as null. -/
def Value.render (layout : Layout) (level : Nat) : Value → List Char
  | .null => "null".toList
  | .bool true => "true".toList
  | .bool false => "false".toList
  | .int n => integer n
  | .float x => x.text jsonWords
  | .text s => quoted s
  | .array [] => ['[', ']']
  | .array items =>
    '[' :: (layout.lineBreak (level + 1) ++ Value.renderItems layout (level + 1) items
      ++ layout.lineBreak level ++ [']'])
  | .object [] => ['\x7b', '\x7d']
  | .object fields =>
    '\x7b' :: (layout.lineBreak (level + 1) ++ Value.renderFields layout (level + 1) fields
      ++ layout.lineBreak level ++ ['\x7d'])
  | .handle _ => "null".toList

/-- The items of an array with what stands between them. -/
def Value.renderItems (layout : Layout) (level : Nat) : List Value → List Char
  | [] => []
  | x :: rest => Value.render layout level x
      ++ (if rest.isEmpty then [] else layout.separator level ++ Value.renderItems layout level rest)

/-- The entries of an object with what stands between them. -/
def Value.renderFields (layout : Layout) (level : Nat) : List (String × Value) → List Char
  | [] => []
  | (k, v) :: rest => quoted k ++ [':', ' '] ++ Value.render layout level v
      ++ (if rest.isEmpty then [] else layout.separator level ++ Value.renderFields layout level rest)
end

/-- The text of a value in a layout, or the first reason that it has none. -/
def Value.write (layout : Layout) (v : Value) : Except WriteFault String :=
  match v.writeFault? with
  | some fault => .error fault
  | none => .ok (String.ofList (v.render layout 0))

end HomeTiles
