/-!
# Log events

What the construction of array types and the search for runtime classes report on the way, with
the level, the message and the fields of each event.
-/

namespace JvmTypes

namespace Log

inductive Level where
  | trace
  | debug
  | warn
deriving DecidableEq

inductive FieldValue where
  | text (value : String)
  | number (value : Nat)
deriving DecidableEq

inductive Event where
  /-- An anonymous class was refused as a component. -/
  | anonymousComponent (component : String)
  /-- An array type was refused for its number of dimensions. -/
  | tooManyDimensions (requested : Nat)
  /-- An array type was found in its pool. -/
  | arrayFound (component : String)
  /-- An array type was added to its pool. -/
  | arrayInterned (array : String) (dimensions : Nat)
  /-- The innermost element of an array has no runtime class. -/
  | elementNotLoaded (array element : String)
  /-- A runtime class was asked for an array of `void`. -/
  | voidArray
  /-- A runtime array class was asked for with too many dimensions in total. -/
  | runtimeDimensions (total : Nat)
deriving DecidableEq

namespace Event

def level : Event → Level
  | .anonymousComponent _ => .warn
  | .tooManyDimensions _ => .warn
  | .arrayFound _ => .trace
  | .arrayInterned _ _ => .debug
  | .elementNotLoaded _ _ => .trace
  | .voidArray => .debug
  | .runtimeDimensions _ => .debug

def message : Event → String
  | .anonymousComponent _ => "rejecting anonymous class as array component"
  | .tooManyDimensions _ => "rejecting array type beyond the dimension limit"
  | .arrayFound _ => "array symbol cache hit"
  | .arrayInterned _ _ => "interned array symbol"
  | .elementNotLoaded _ _ => "no runtime class for array element"
  | .voidArray => "void has no array class"
  | .runtimeDimensions _ => "array class exceeds the dimension limit"

def fields : Event → List (String × FieldValue)
  | .anonymousComponent component => [("component", .text component)]
  | .tooManyDimensions requested => [("requested", .number requested)]
  | .arrayFound component => [("component", .text component)]
  | .arrayInterned array dimensions =>
    [("array", .text array), ("dimensions", .number dimensions)]
  | .elementNotLoaded array element => [("array", .text array), ("element", .text element)]
  | .voidArray => []
  | .runtimeDimensions total => [("total", .number total)]

end Event

end Log

end JvmTypes
