/-
Decimal numbers as they are spelled.

A number is digits with an optional point among, before or behind them and an optional exponent, or one of the words
`inf`, `infinity` and `nan` in letters of either case; it may have a sign.
-/

namespace BlockProbe.Decimal

def skipSign : List Char → List Char
  | '+' :: rest => rest
  | '-' :: rest => rest
  | text => text

/-- an exponent, or nothing -/
def isExponent : List Char → Bool
  | [] => true
  | c :: rest =>
    let digits := skipSign rest
    (c == 'e' || c == 'E') && !digits.isEmpty && digits.all Char.isDigit

/-- digits with a point, and an exponent -/
def isUnsignedNumeral (text : List Char) : Bool :=
  let whole := text.takeWhile Char.isDigit
  match text.drop whole.length with
  | '.' :: rest =>
    let places := rest.takeWhile Char.isDigit
    !(whole.isEmpty && places.isEmpty) && isExponent (rest.drop places.length)
  | rest => !whole.isEmpty && isExponent rest

def isNumeral (text : String) : Bool :=
  let body := skipSign text.toList
  isUnsignedNumeral body || ["inf", "infinity", "nan"].contains (String.ofList body).toLower

end BlockProbe.Decimal
