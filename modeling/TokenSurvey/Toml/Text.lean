import TokenSurvey.Toml.Basic

/-! Strings and keys. -/
namespace TokenSurvey.Toml

/-- The character with a code of so many hexadecimal digits; surrogates are no characters. -/
def readCode (count : Nat) (s : List Char) : Option Char :=
  let ds := s.take count
  let n := ofDigits 16 ds
  if ds.length = count ∧ ds.all isHexDigit ∧ n.isValidChar then some (Char.ofNat n) else none

/-- The character after a backslash, if it stands for another one. -/
def simpleEscape? : Char → Option Char
  | '"' => some '"'
  | '\\' => some '\\'
  | 'b' => some '\x08'
  | 't' => some '\t'
  | 'n' => some '\n'
  | 'f' => some '\x0c'
  | 'r' => some '\r'
  | _ => none

def push (c : Option Char) (rest : Option (List Char × List Char)) : Option (List Char × List Char) :=
  match c, rest with
  | some c, some (t, s) => some (c :: t, s)
  | _, _ => none

/-- A string with escapes on one line, after its opening quote. -/
def readBasic : List Char → Option (List Char × List Char)
  | [] => none
  | '"' :: s => some ([], s)
  | '\\' :: 'u' :: a :: b :: c :: d :: s => push (readCode 4 [a, b, c, d]) (readBasic s)
  | '\\' :: 'U' :: a :: b :: c :: d :: e :: f :: g :: h :: s =>
    push (readCode 8 [a, b, c, d, e, f, g, h]) (readBasic s)
  | '\\' :: c :: s => push (simpleEscape? c) (readBasic s)
  | c :: s => if isPlain c then push (some c) (readBasic s) else none

/-- A string without escapes on one line, after its opening apostrophe. -/
def readLiteral : List Char → Option (List Char × List Char)
  | [] => none
  | '\x27' :: s => some ([], s)
  | c :: s => if isPlain c then push (some c) (readLiteral s) else none

/-- Where a string over several lines stands: in its text, or after a backslash that ends a line,
before the line break or behind it. -/
inductive Trimming where
  | off
  | beforeBreak
  | afterBreak

/-- Of three to five quotes the last three close the string. -/
def closing (quote : Char) : List Char → Option (List Char × List Char)
  | a :: b :: c :: s =>
    if a = quote ∧ b = quote ∧ c = quote then
      match s with
      | d :: e :: s =>
        if d = quote ∧ e = quote then some ([quote, quote], s)
        else if d = quote then some ([quote], e :: s)
        else some ([], d :: e :: s)
      | [d] => if d = quote then some ([quote], []) else some ([], [d])
      | [] => some ([], [])
    else none
  | _ => none

/-- A backslash before a line break takes the white space after it away; a line break of two
characters counts as one. -/
def readBasicLines : Trimming → List Char → Option (List Char × List Char)
  | _, [] => none
  | .afterBreak, '\n' :: s => readBasicLines .afterBreak s
  | .afterBreak, '\r' :: '\n' :: s => readBasicLines .afterBreak s
  | .beforeBreak, '\n' :: s => readBasicLines .afterBreak s
  | .beforeBreak, '\r' :: '\n' :: s => readBasicLines .afterBreak s
  | .beforeBreak, c :: s => if isBlank c then readBasicLines .beforeBreak s else none
  | _, '\n' :: s => push (some '\n') (readBasicLines .off s)
  | _, '\r' :: '\n' :: s => push (some '\n') (readBasicLines .off s)
  | _, '\\' :: 'u' :: a :: b :: c :: d :: s =>
    push (readCode 4 [a, b, c, d]) (readBasicLines .off s)
  | _, '\\' :: 'U' :: a :: b :: c :: d :: e :: f :: g :: h :: s =>
    push (readCode 8 [a, b, c, d, e, f, g, h]) (readBasicLines .off s)
  | _, '\\' :: c :: s =>
    if c = '\n' then readBasicLines .afterBreak s
    else if isBlank c || c = '\r' then readBasicLines .beforeBreak (c :: s)
    else push (simpleEscape? c) (readBasicLines .off s)
  | trimming, c :: s =>
    match closing '"' (c :: s) with
    | some done => some done
    | none =>
      match trimming with
      | .afterBreak =>
        if isBlank c then readBasicLines .afterBreak s
        else if isPlain c then push (some c) (readBasicLines .off s) else none
      | _ => if isPlain c then push (some c) (readBasicLines .off s) else none

def readLiteralLines : List Char → Option (List Char × List Char)
  | [] => none
  | '\n' :: s => push (some '\n') (readLiteralLines s)
  | '\r' :: '\n' :: s => push (some '\n') (readLiteralLines s)
  | c :: s =>
    match closing '\x27' (c :: s) with
    | some done => some done
    | none => if isPlain c then push (some c) (readLiteralLines s) else none

/-- A line break right after the opening quotes does not count. -/
def dropBreak : List Char → List Char
  | '\n' :: s => s
  | '\r' :: '\n' :: s => s
  | s => s

/-- A string of any of the four kinds. -/
def readString : Reader String
  | '"' :: '"' :: '"' :: s =>
    (readBasicLines .off (dropBreak s)).map fun (t, s) => (String.ofList t, s)
  | '"' :: s => (readBasic s).map fun (t, s) => (String.ofList t, s)
  | '\x27' :: '\x27' :: '\x27' :: s =>
    (readLiteralLines (dropBreak s)).map fun (t, s) => (String.ofList t, s)
  | '\x27' :: s => (readLiteral s).map fun (t, s) => (String.ofList t, s)
  | _ => none

def isBare (c : Char) : Bool := c.isAlphanum || c = '_' || c = '-'

/-- One part of a key: bare, or a string on one line. -/
def readPart : Reader String
  | '"' :: s => (readBasic s).map fun (t, s) => (String.ofList t, s)
  | '\x27' :: s => (readLiteral s).map fun (t, s) => (String.ofList t, s)
  | s =>
    match s.takeWhile isBare with
    | [] => none
    | name => some (String.ofList name, s.dropWhile isBare)

end TokenSurvey.Toml
