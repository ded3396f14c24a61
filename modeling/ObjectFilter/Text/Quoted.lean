import ObjectFilter.Text.Quoted.Table

/-!
# Quoted texts

A text in double quotes, or a character in single quotes, as a report shows it: the quote, the
backslash and the usual controls are written with a backslash, and a character without a glyph of
its own is written as its code point.
-/

namespace ObjectFilter.Text

/-- whether the character joins the one before it -/
def isJoined (c : Char) : Bool := inSpans graphemeExtendSpans c && !inSpans voicingMarkSpans c

/-- whether a report can show the character as it is -/
def hasGlyph (c : Char) : Bool :=
  !isJoined c && !inSpans unprintableSpans c && !inSpans fillerSpans c

/-- the code point in hexadecimal, in braces -/
def escapedCode (c : Char) : List Char :=
  "\\u\x7b".toList ++ Nat.toDigits 16 c.toNat ++ ['\x7d']

/-- the character as it stands between two `quote` characters -/
def escaped (quote : Char) (c : Char) : List Char :=
  if c = quote || c = '\\' then ['\\', c]
  else if c = '\x00' then "\\0".toList
  else if c = '\t' then "\\t".toList
  else if c = '\r' then "\\r".toList
  else if c = '\n' then "\\n".toList
  else if hasGlyph c then [c]
  else escapedCode c

def quoted (s : String) : String :=
  String.ofList ('"' :: s.toList.flatMap (escaped '"') ++ ['"'])

def quotedChar (c : Char) : String := String.ofList ('\'' :: escaped '\'' c ++ ['\''])

end ObjectFilter.Text
