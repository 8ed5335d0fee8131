/-
White space around a value, as Unicode counts it.

`trimmed` drops the white space at both ends of a text and nothing inside it. Environment values are read through
it, so a value pasted with a trailing newline or a no-break space still counts.
-/

namespace BlockProbe.Text

/-- the characters with the Unicode property White_Space -/
def isSpace (c : Char) : Bool :=
  let code := c.toNat
  (9 ≤ code && code ≤ 13) || code == 0x20 || code == 0x85 || code == 0xA0 || code == 0x1680 ||
    (0x2000 ≤ code && code ≤ 0x200A) || code == 0x2028 || code == 0x2029 || code == 0x202F ||
    code == 0x205F || code == 0x3000

/-- the text without the white space at either end -/
def trimmed (text : String) : String :=
  let inner := text.toList.dropWhile isSpace
  String.ofList (inner.reverse.dropWhile isSpace).reverse

end BlockProbe.Text
