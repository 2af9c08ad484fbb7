import HomeTiles.Faults

/-!
# Widget sizes

A widget is small or large. A value names a size only as one of the two texts.
-/

namespace HomeTiles

/-- How large a widget is shown. -/
inductive WidgetSize where
  | small
  | large
  deriving DecidableEq, Repr

namespace WidgetSize

def all : List WidgetSize := [.small, .large]

def label : WidgetSize → String
  | .small => "small"
  | .large => "large"

def ofLabel? (s : String) : Option WidgetSize := all.find? (·.label == s)

/-- The size that a value names; any other value fails with its spelling. -/
def ofValue (v : Value) : Except Fault WidgetSize :=
  match v.text?.bind ofLabel? with
  | some size => .ok size
  | none => match v.literal? with
    | some shown => .error (.notAChoice shown "WidgetSize")
    | none => .error .tooManyDigits

end WidgetSize
end HomeTiles
