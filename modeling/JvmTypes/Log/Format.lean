/-!
# Log formats

The layout in which a log is written, read from its name in any mixture of cases.
-/

namespace JvmTypes.Log

inductive Format where
  | text
  | tree
  | json
deriving DecidableEq

namespace Format

def name : Format → String
  | .text => "text"
  | .tree => "tree"
  | .json => "json"

/-- The format that a name stands for; an unknown name stands for plain text. No character beyond
ASCII has a letter of `tree` or `json` as its lower case, so lowering ASCII letters is enough. -/
def ofName (name : String) : Format :=
  let lowered := name.toList.map Char.toLower
  if lowered = "tree".toList then .tree
  else if lowered = "json".toList then .json
  else .text

end Format

end JvmTypes.Log
