import HomeTiles.JsonWriter
import HomeTiles.PrintableChars

/-!
# Display: how values appear inside messages

`Value.literal?` spells a value out with every text in quotes, `Value.shown?`
shows a text as it is. Neither can spell an integer that is over the digit
limit: they give nothing then.
-/

namespace HomeTiles

namespace Display

/-- The lowest `width` hexadecimal digits of a number. -/
def hex : Nat → Nat → List Char
  | 0, _ => []
  | width + 1, n => (n / Nat.pow 16 width % 16).digitChar :: hex width n

/-- The quote for a text: the single one, unless the text has single quotes and no double ones. -/
def quoteFor (cs : List Char) : Char := if cs.contains '\'' && !cs.contains '"' then '"' else '\''

def escape (quote c : Char) : List Char :=
  if c = quote ∨ c = '\\' then ['\\', c]
  else if c = '\t' then ['\\', 't']
  else if c = '\n' then ['\\', 'n']
  else if c = '\r' then ['\\', 'r']
  else if isPrintable c then [c]
  else if c.toNat < 0x100 then '\\' :: 'x' :: hex 2 c.toNat
  else if c.toNat < 0x10000 then '\\' :: 'u' :: hex 4 c.toNat
  else '\\' :: 'U' :: hex 8 c.toNat

def quoted (s : String) : List Char :=
  let quote := quoteFor s.toList
  quote :: (s.toList.flatMap (escape quote) ++ [quote])

def number (n : Int) : String := String.ofList (JsonWriter.integer n)

/-- The words that messages have for the doubles that are not numbers. -/
def words : SpecialWords := ⟨"nan", "inf"⟩

def commaSeparated : List (List Char) → List Char
  | [] => []
  | [part] => part
  | part :: rest => part ++ ',' :: ' ' :: commaSeparated rest

end Display

mutual
/-- Whether a value holds an integer that is over the digit limit. -/
def Value.hasLongInteger : Value → Bool
  | .int n => exceedsDigitLimit n
  | .array items => Value.itemsHaveLongInteger items
  | .object fields => Value.fieldsHaveLongInteger fields
  | _ => false

def Value.itemsHaveLongInteger : List Value → Bool
  | [] => false
  | x :: rest => Value.hasLongInteger x || Value.itemsHaveLongInteger rest

def Value.fieldsHaveLongInteger : List (String × Value) → Bool
  | [] => false
  | (_, v) :: rest => Value.hasLongInteger v || Value.fieldsHaveLongInteger rest
end

mutual
def Value.literal : Value → List Char
  | .null => "None".toList
  | .bool true => "True".toList
  | .bool false => "False".toList
  | .int n => JsonWriter.integer n
  | .float x => x.text Display.words
  | .text s => Display.quoted s
  | .array items => '[' :: (Display.commaSeparated (Value.itemLiterals items) ++ [']'])
  | .object fields => '\x7b' :: (Display.commaSeparated (Value.fieldLiterals fields) ++ ['\x7d'])
  | .handle _ => "<handle>".toList

def Value.itemLiterals : List Value → List (List Char)
  | [] => []
  | x :: rest => Value.literal x :: Value.itemLiterals rest

def Value.fieldLiterals : List (String × Value) → List (List Char)
  | [] => []
  | (k, v) :: rest => (Display.quoted k ++ ':' :: ' ' :: Value.literal v) :: Value.fieldLiterals rest
end

/-- A value spelled out, if its integers can be. -/
def Value.literal? (v : Value) : Option String :=
  if v.hasLongInteger then none else some (String.ofList v.literal)

/-- A value as a message shows it: a text as it is, anything else spelled out. -/
def Value.shown? : Value → Option String
  | .text s => some s
  | v => v.literal?

end HomeTiles
