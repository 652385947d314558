import TokenSurvey.Toml.Moment
import TokenSurvey.Toml.Number
import TokenSurvey.Toml.Table
import TokenSurvey.Toml.Text

/-! Values: scalars, arrays and inline tables. -/
namespace TokenSurvey.Toml

/-- The parts of a dotted key; blanks may stand around the dots. -/
def readParts (s : List Char) : Option (List String × List Char) :=
  match readPart (skipBlanks s) with
  | none => none
  | some (part, rest) =>
    match skipBlanks rest with
    | '.' :: rest =>
      if rest.length < s.length then
        (readParts rest).map fun (parts, rest) => (part :: parts, rest)
      else none
    | rest => some ([part], rest)
termination_by s.length

/-- Keys and values nest less deep than this. -/
def nestingBound : Nat := 80

def readKey (s : List Char) : Option (List String × List Char) :=
  (readParts s).bind fun (parts, rest) =>
    if parts.length < nestingBound then some (parts, rest) else none

def readScalar (s : List Char) : Option (Toml × List Char) :=
  match s with
  | [] => none
  | c :: _ =>
    if c = '"' || c = '\x27' then (readString s).map fun (t, s) => (.string t, s)
    else if c = 't' || c = 'f' then
      match s with
      | 't' :: 'r' :: 'u' :: 'e' :: s => some (.boolean true, s)
      | 'f' :: 'a' :: 'l' :: 's' :: 'e' :: s => some (.boolean false, s)
      | _ => none
    else (readMoment s).or (readNumber s)

/-- The items of an array after its opening bracket; the last one may have a comma. -/
def readItems (read : Reader Toml) (s : List Char) : Option (List Toml × List Char) :=
  match skipSpace false s with
  | none => none
  | some (']' :: rest) => some ([], rest)
  | some start =>
    match read start with
    | none => none
    | some (item, rest) =>
      match skipSpace false rest with
      | some (']' :: rest) => some ([item], rest)
      | some (',' :: rest) =>
        if rest.length < s.length then
          (readItems read rest).map fun (items, rest) => (item :: items, rest)
        else none
      | _ => none
termination_by s.length

/-- A key, an equals sign and a value. -/
def readPair (read : Reader Toml) (s : List Char) : Option ((List String × Toml) × List Char) := do
  let (key, s) ← readKey s
  match s with
  | '=' :: s =>
    let (value, s) ← read (skipBlanks s)
    pure ((key, value), s)
  | _ => none

/-- The pairs of an inline table, of which there is at least one; no comma follows the last. -/
def readPairs (read : Reader Toml) (s : List Char) :
    Option (List (List String × Toml) × List Char) :=
  match readPair read s with
  | none => none
  | some (pair, rest) =>
    match skipBlanks rest with
    | '\x7d' :: rest => some ([pair], rest)
    | ',' :: rest =>
      if rest.length < s.length then
        (readPairs read rest).map fun (pairs, rest) => (pair :: pairs, rest)
      else none
    | _ => none
termination_by s.length

def readInline (read : Reader Toml) (s : List Char) : Option (Toml × List Char) :=
  match skipBlanks s with
  | '\x7d' :: s => some (.table [], s)
  | s => do
    let (pairs, s) ← readPairs read s
    let entries ← pairs.foldlM (fun es (key, value) => Entries.put value key es) []
    pure (.table (entriesToml entries), s)

/-- A value with so many levels of arrays and inline tables at most. -/
def readValue : Nat → Reader Toml
  | 0, s => readScalar s
  | depth + 1, s =>
    match s with
    | '[' :: s => (readItems (readValue depth) s).map fun (items, s) => (.array items, s)
    | '\x7b' :: s => readInline (readValue depth) s
    | s => readScalar s

end TokenSurvey.Toml
