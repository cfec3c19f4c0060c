import NewsAnalytics.Text.Glyph

/-!
# Quoted texts

A text inside a message stands between double quotes, so that its ends are
seen. Inside, a quote and a backslash take a backslash, the four usual
controls have short names, and every other character without a glyph of
its own is shown by its code point, as in `\u{200b}`.
-/

namespace NewsAnalytics.Text

/-- One character inside the quotes. -/
def quotedChar (c : Char) : List Char :=
  if c = '"' then ['\\', '"']
  else if c = '\\' then ['\\', '\\']
  else if c = '\n' then ['\\', 'n']
  else if c = '\r' then ['\\', 'r']
  else if c = '\t' then ['\\', 't']
  else if c = '\x00' then ['\\', '0']
  else if isHidden c then
    ['\\', 'u', '\x7b'] ++ Nat.toDigits 16 c.toNat ++ ['\x7d']
  else [c]

/-- The text between double quotes. -/
def quoted (s : String) : String :=
  String.ofList ('"' :: s.toList.flatMap quotedChar ++ ['"'])

end NewsAnalytics.Text
