import TokenSurvey.Unicode.Class

/-! Texts in quotes, as descriptions show them. -/
namespace TokenSurvey.Text

def hexadecimal (n : Nat) : List Char := Nat.toDigits 16 n

/-- The fillers of syllables are letters that leave their place blank. -/
def isFiller (c : Char) : Bool :=
  c.toNat = 0x115F || c.toNat = 0x1160 || c.toNat = 0x3164 || c.toNat = 0xFFA0

/-- Hidden characters, fillers and marks that extend another character are shown by their code. -/
def showsCode (c : Char) : Bool :=
  Unicode.classOf c = .hidden || Unicode.classOf c = .attached || isFiller c

def quotedChar (c : Char) : List Char :=
  if c = '"' then ['\\', '"']
  else if c = '\\' then ['\\', '\\']
  else if c = '\n' then ['\\', 'n']
  else if c = '\r' then ['\\', 'r']
  else if c = '\t' then ['\\', 't']
  else if c.toNat = 0 then ['\\', '0']
  else if showsCode c then ['\\', 'u', '\x7b'] ++ hexadecimal c.toNat ++ ['\x7d']
  else [c]

def quoted (s : String) : String :=
  String.ofList ('"' :: s.toList.flatMap quotedChar ++ ['"'])

end TokenSurvey.Text
