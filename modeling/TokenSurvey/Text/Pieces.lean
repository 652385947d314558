/-! Text in pieces between separators. -/
namespace TokenSurvey.Text

/-- There is one piece more than there are separators. -/
def pieces (separator : Char) : List Char → List (List Char)
  | [] => [[]]
  | c :: s =>
    match pieces separator s with
    | [] => [[c]]
    | first :: others =>
      if c = separator then [] :: first :: others else (c :: first) :: others

end TokenSurvey.Text
