import VideoCapture.Text.Printable
/-!
# Texts in diagnostics

A text between quotes on one line: double quotes, backslashes and whatever does not show by itself
are escaped.
-/
namespace VideoCapture.Text

def quoteChar (c : Char) : List Char :=
  if c = '\x00' then ['\\','0']
  else if c = '\t' then ['\\','t']
  else if c = '\r' then ['\\','r']
  else if c = '\n' then ['\\','n']
  else if c = '"' then ['\\','"']
  else if c = '\\' then ['\\','\\']
  else if isPrintable c then [c]
  else ['\\','u','{'] ++ Nat.toDigits 16 c.toNat ++ ['}']

def quoted (s : String) : String :=
  String.ofList ('"' :: (s.toList.flatMap quoteChar ++ ['"']))

def ifAny : Option String → String
  | some text => "Some(" ++ text ++ ")"
  | none => "None"

def quotedIfAny (s : Option String) : String := ifAny (s.map quoted)

end VideoCapture.Text
