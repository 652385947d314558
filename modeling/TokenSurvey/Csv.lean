/-! Comma-separated values: rows of fields, quoted where they need it. -/
namespace TokenSurvey.Csv

/-- What is written in one go: a character, or the two quotes for a quote within quotes. -/
inductive Stroke where
  | char (c : Char)
  | quoteTwice
  deriving DecidableEq

def Stroke.chars : Stroke → List Char
  | char c => [c]
  | quoteTwice => ['"', '"']

/-- A comma, a quote or a line break in a field calls for quotes. -/
def needsQuotes (field : List Char) : Bool :=
  field.any fun c => c = ',' || c = '"' || c = '\r' || c = '\n'

/-- Every quote twice. -/
def quotedStroke (c : Char) : Stroke := if c = '"' then .quoteTwice else .char c

def fieldStrokes (field : List Char) : List Stroke :=
  if needsQuotes field then .char '"' :: field.map quotedStroke ++ [.char '"']
  else field.map .char

/-- Commas between fields, a line feed after the last. -/
def rowStrokes : List (List Char) → List Stroke
  | [] => [.char '\n']
  | [field] => fieldStrokes field ++ [.char '\n']
  | field :: fields => fieldStrokes field ++ .char ',' :: rowStrokes fields

def strokes (rows : List (List (List Char))) : List Stroke := rows.flatMap rowStrokes

def write (rows : List (List (List Char))) : List Char := (strokes rows).flatMap Stroke.chars

end TokenSurvey.Csv
