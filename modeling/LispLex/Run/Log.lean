-- SUMMARY: Debug log lines of a run.
import LispLex.Run

/-!
# Log lines

What a run leaves in the debug log: how many tokens the file has, or where the input is not matched.
A run that ends at a number or a value leaves nothing.
-/

namespace LispLex

/-- The text of a debug line from the given part of the program. -/
def debugLine (part : String) (text : Text) : Text :=
  "DEBUG minilisp.".toList ++ part.toList ++ [':', ' '] ++ text

/-- The lines that a run over `file` leaves in the log. -/
def Outcome.log (file : Text) : Outcome → List Text
  | .ok tokens =>
    [debugLine "lexer" (file ++ ": produced ".toList ++ decimal tokens.length ++ " tokens".toList)]
  | .error (.unmatched position _ _) =>
    [debugLine "lexer" (file ++ ": no rule matches at ".toList ++ decimal position.line ++ [':'] ++
      decimal position.column)]
  | .error _ => []

end LispLex
