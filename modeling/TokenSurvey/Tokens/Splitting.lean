import TokenSurvey.Tokens.Pattern
import TokenSurvey.Unicode.Class

/-! How the encodings split a text before merging. -/
namespace TokenSurvey.Tokens.Splitting

open Pattern Unicode

def literal (c : Char) : Pattern := one (· = c)

def isBreak (c : Char) : Bool := c = '\r' || c = '\n'

def notSpace (c : Char) : Bool := !isSpace c

/-- Neither space nor letter nor number. -/
def isMark (c : Char) : Bool := !isSpace c && !isLetter c && !isNumber c

/-- May stand before the letters of a word. -/
def leadsWord (c : Char) : Bool := !isBreak c && !isLetter c && !isNumber c

/-- A letter in any case; the long s counts as an s. -/
def anyCase (letter : Char) : Pattern :=
  one fun c => c.toLower = letter || (letter = 's' && c = 'ſ')

/-- The English endings after an apostrophe, each letter as `of` reads it. -/
def endings (letter : Char → Pattern) : Pattern :=
  seq (literal '\x27') (choice (letter 's') [letter 't', seq (letter 'r') (letter 'e'),
    seq (letter 'v') (letter 'e'), letter 'm', seq (letter 'l') (letter 'l'), letter 'd'])

/-- White space up to its last line break, then white space that leaves one blank to what follows,
then any white space. -/
def spaces : List Pattern := [
  seq (many isSpace) (several isBreak),
  seq (several isSpace) (notBefore notSpace),
  several isSpace]

def upToThreeNumbers : Pattern :=
  seq (one isNumber) (optional (seq (one isNumber) (optional (one isNumber))))

def cl100k : Pattern :=
  choice (endings anyCase) ([
    seq (optional (one leadsWord)) (several isLetter),
    upToThreeNumbers,
    seq (optional (literal ' ')) (seq (several isMark) (many isBreak))] ++ spaces)

def isCombining (c : Char) : Bool := formerClassOf c = .attached || formerClassOf c = .spacing

/-- May stand in the capitals that begin a word. -/
def isCapital (c : Char) : Bool := formerClassOf c = .upper || formerClassOf c = .uncased || isCombining c

/-- May stand in the small letters that end a word. -/
def isSmall (c : Char) : Bool := formerClassOf c = .lower || formerClassOf c = .uncased || isCombining c

/-- A word by case: its capitals, its small letters, and an ending. -/
def casedWord (capitals small : Pattern) : Pattern :=
  seq (optional (one leadsWord)) (seq capitals (seq small (optional (endings anyCase))))

def o200k : Pattern :=
  choice (casedWord (many isCapital) (several isSmall)) ([
    casedWord (several isCapital) (many isSmall),
    upToThreeNumbers,
    seq (optional (literal ' ')) (seq (several isMark) (many fun c => isBreak c || c = '/'))]
    ++ spaces)

def p50k : Pattern :=
  choice (endings literal) [
    seq (optional (literal ' ')) (several isLetter),
    seq (optional (literal ' ')) (several isNumber),
    seq (optional (literal ' ')) (several isMark),
    seq (several isSpace) (notBefore notSpace),
    several isSpace]

end TokenSurvey.Tokens.Splitting
