import SourceFacts.Analysis.Parsed
import SourceFacts.Parsing.Display
import SourceFacts.Python.Grammar
import SourceFacts.Python.Layout

namespace SourceFacts.Python

/-!
# Parsing Python
-/

open Grammar Parsing Analysis

/-- The rules of Python. -/
def rules : SyntaxRules LayoutMemory where
  language := Language.ofDefinition grammar
  layout := Layout.scanner

/-- The syntax tree of a text. -/
def tree? (text : String) : Option Syntax.Node := rules.tree? text.toList.toArray

/-- The syntax tree of a text with its errors. Nothing is parsed in no time. -/
def parse (timeout : Nat) (text : String) : Except Failure Parsed :=
  if timeout = 0 then .error (.timeout timeout)
  else
    match tree? text with
    | none => .error (.timeout timeout)
    | some root => Parsed.ofTree root

end SourceFacts.Python
