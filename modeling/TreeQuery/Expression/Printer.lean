/-
The text of a path expression. Printing writes no white space, puts attribute values in
single quotes and escapes only the quote and the backslash in them.
-/
import TreeQuery.Expression.Step

namespace TreeQuery.Expression

/-- How a quoted value writes a character. -/
def escapeValue (c : Char) : List Char :=
  if c = '\\' ∨ c = '\'' then ['\\', c] else [c]

def Axis.print : Axis → List Char
  | .child => ['/']
  | .descendant => ['/', '/']

def NodeTest.print : NodeTest → List Char
  | .any => ['*']
  | .name n => n.toList
  | .type n => n.toList ++ ['(', ')']

def Predicate.print : Predicate → List Char
  | .attribute name value =>
    ['[', '@'] ++ name.toList ++ ['=', '\''] ++ value.toList.flatMap escapeValue ++ ['\'', ']']
  | .hasChild name => '[' :: name.toList ++ [']']
  | .position place => '[' :: Nat.toDigits 10 place ++ [']']

def Step.print (step : Step) : List Char :=
  step.axis.print ++ step.test.print ++ step.predicates.flatMap Predicate.print

def printSteps (steps : List Step) : List Char := steps.flatMap Step.print

/-- The text of one step. -/
def Step.text (step : Step) : String := String.ofList step.print

/-- The canonical text of a program. -/
def Program.text (program : Program) : String := String.ofList (printSteps program.steps)

end TreeQuery.Expression
