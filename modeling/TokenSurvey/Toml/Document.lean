import TokenSurvey.Toml.Value

/-! Documents: pairs, headers and comments, line by line. -/
namespace TokenSurvey.Toml

/-- What the lines so far have built, and where the latest header leads. -/
structure Draft where
  root : Entries := []
  path : List String := []

inductive Line where
  | blank
  | pair (key : List String) (value : Toml)
  | header (path : List String)
  | arrayHeader (path : List String)

def readPairLine (s : List Char) : Option (Line × List Char) := do
  let ((key, value), s) ← readPair (readValue (nestingBound - 1)) s
  pure (.pair key value, ← endLine s)

def readLine (s : List Char) : Option (Line × List Char) :=
  match skipBlanks s with
  | [] => some (.blank, [])
  | '\n' :: s => some (.blank, s)
  | '\r' :: '\n' :: s => some (.blank, s)
  | '#' :: s => (endLine ('#' :: s)).map fun s => (.blank, s)
  | '[' :: '[' :: s => do
    match ← readKey s with
    | (path, ']' :: ']' :: s) => pure (.arrayHeader path, ← endLine s)
    | _ => none
  | '[' :: s => do
    match ← readKey s with
    | (path, ']' :: s) => pure (.header path, ← endLine s)
    | _ => none
  | s => readPairLine s

def Draft.add (d : Draft) : Line → Option Draft
  | .blank => some d
  | .pair key value => (d.root.within (Entries.put value key) d.path).map fun root => { d with root }
  | .header path =>
    (d.root.within (Entries.openTable (path.getLastD "")) path.dropLast).map fun root => { root, path }
  | .arrayHeader path =>
    (d.root.within (Entries.addTable (path.getLastD "")) path.dropLast).map fun root => { root, path }

def readLines (d : Draft) (s : List Char) : Option Draft :=
  if s = [] then some d
  else
    match readLine s with
    | none => none
    | some (line, rest) =>
      if rest.length < s.length then (d.add line).bind fun d => readLines d rest else none
termination_by s.length

/-- A byte order mark before the text is passed over. -/
def dropMark : List Char → List Char
  | '\uFEFF' :: s => s
  | s => s

/-- The entries of the table that a document is. -/
def read? (text : String) : Option (List (String × Toml)) :=
  (readLines {} (dropMark text.toList)).map fun d => entriesToml d.root

end TokenSurvey.Toml
