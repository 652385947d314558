import TokenSurvey.Text.Quoted

/-! Values described on one line: named fields in braces, lists in brackets. -/
namespace TokenSurvey.Text.Description

def fields (xs : List (String × String)) : List String := xs.map fun (name, value) => name ++ ": " ++ value

def enclosed (name : String) (parts : List String) : String :=
  name ++ " \x7b " ++ ", ".intercalate parts ++ " \x7d"

def record (name : String) (xs : List (String × String)) : String := enclosed name (fields xs)

/-- A record of which some fields are held back. -/
def partialRecord (name : String) (xs : List (String × String)) : String :=
  enclosed name (fields xs ++ [".."])

def list (xs : List String) : String := "[" ++ ", ".intercalate xs ++ "]"

def optional : Option String → String
  | some x => "Some(" ++ x ++ ")"
  | none => "None"

end TokenSurvey.Text.Description
