import HostBridge.Number.Decimal
import HostBridge.Text.Reader
import HostBridge.Toml.Value

/-!
# Scalars

Strings in double or single quotes, on one line or on several; whole numbers in four
bases that fit 64 bits; floats, of which the positive ones must not overflow; dates and
times that exist; and the two truth values.
-/
namespace HostBridge.Toml

open Reader

def apostrophe : Char := '\u0027'

def isTab (c : Char) : Bool := c = '\t'

def isSpace (c : Char) : Bool := c = ' ' || isTab c

def isTextChar (c : Char) : Bool := isTab c || (' ' ≤ c && c.toNat != 127)

def spaces : Reader Unit := skip (takeWhile isSpace)

def lineEnd : Reader Unit := char '\n' <|> text ['\r', '\n']

def comment : Reader Unit := char '#' *> skip (takeWhile isTextChar)

def escaped : Reader Char := do
  match ← satisfy fun _ => true with
  | 'b' => return '\x08'
  | 't' => return '\t'
  | 'n' => return '\n'
  | 'f' => return '\x0c'
  | 'r' => return '\r'
  | '"' => return '"'
  | '\\' => return '\\'
  | 'u' => codePoint 4 (pure ())
  | 'U' => codePoint 8 (pure ())
  | _ => failure

def escape : Reader (List Char) := do
  char '\\'
  return [← escaped]

def isBasicChar (c : Char) : Bool := isTextChar c && c != '"' && c != '\\'

def isLiteralChar (c : Char) : Bool := isTextChar c && c != apostrophe

def basicString : Reader (List Char) := do
  char '"'
  let pieces ← many (takeSome isBasicChar <|> escape)
  char '"'
  return pieces.flatten

def literalString : Reader (List Char) := do
  char apostrophe
  let chars ← takeWhile isLiteralChar
  char apostrophe
  return chars

def innerQuotes (quote : Char) : Reader (List Char) := do
  let quotes ← takeSome (· == quote)
  if quotes.length < 3 then return quotes else failure

def closingQuotes (quote : Char) : Reader (List Char) := do
  let quotes ← takeSome (· == quote)
  if 3 ≤ quotes.length && quotes.length ≤ 5 then return quotes.drop 3 else failure

def newLine : Reader (List Char) := lineEnd *> pure ['\n']

def joinedLines : Reader (List Char) := do
  char '\\'
  spaces
  lineEnd
  skip (many (lineEnd <|> skip (takeSome isSpace)))
  return []

/-- A string of several lines from its pieces; a line end right after the opening quotes
is not part of it. -/
def linesString (quote : Char) (piece : Reader (List Char)) : Reader (List Char) := do
  text [quote, quote, quote]
  skip (optionally lineEnd)
  let pieces ← many (piece <|> newLine <|> innerQuotes quote)
  return pieces.flatten ++ (← closingQuotes quote)

def basicLines : Reader (List Char) :=
  linesString '"' (takeSome isBasicChar <|> joinedLines <|> escape)

def literalLines : Reader (List Char) := linesString apostrophe (takeSome isLiteralChar)

def string : Reader Value := do
  let chars ← basicLines <|> basicString <|> literalLines <|> literalString
  return .string (String.ofList chars)

def digits (isDigit : Char → Bool) : Reader (List Char) := do
  let first ← satisfy isDigit
  return first :: (← many (satisfy isDigit <|> char '_' *> satisfy isDigit))

def wholeDigits : Reader (List Char) := do
  if ← isAt ['0'] then
    char '0'
    return ['0']
  else digits Char.isDigit

def inRange (i : Int) : Reader Value :=
  if -(Nat.pow 2 63 : Int) ≤ i && i < Nat.pow 2 63 then return .integer i else failure

def basedInteger (mark : Char) (base : Nat) (isDigit : Char → Bool) : Reader Value := do
  text ['0', mark]
  inRange (numberOf base (← digits isDigit))

def integer : Reader Value :=
  basedInteger 'x' 16 isHexDigit <|>
  basedInteger 'o' 8 (fun c => '0' ≤ c && c ≤ '7') <|>
  basedInteger 'b' 2 (fun c => c == '0' || c == '1') <|> do
    let negative ← sign
    let magnitude : Int := numberOf 10 (← wholeDigits)
    inRange (if negative then -magnitude else magnitude)

def exponent : Reader Int := do
  skip (satisfy fun c => c == 'e' || c == 'E')
  let negative ← sign
  let magnitude : Int := numberOf 10 (← digits Char.isDigit)
  return if negative then -magnitude else magnitude

def fraction : Reader (List Char) := char '.' *> digits Char.isDigit

def decimalFloat : Reader Value := do
  let negative ← sign
  let whole ← wholeDigits
  let places ← optionally fraction
  let power ← optionally exponent
  if places.isNone && power.isNone then failure
  let places := places.getD []
  let decimal : Decimal := ⟨numberOf 10 (whole ++ places), power.getD 0 - places.length⟩
  let x := Double.nearest negative decimal
  if x = Double.infinity false then failure else return .float x

def specialFloat : Reader Value := do
  let negative ← sign
  (text ['i', 'n', 'f'] *> pure (.float (.infinity negative))) <|>
    (text ['n', 'a', 'n'] *> pure (.float .nan))

def float : Reader Value := decimalFloat <|> specialFloat

def field (count least most : Nat) : Reader (Nat × List Char) := do
  let digits ← (List.range count).mapM fun _ => satisfy Char.isDigit
  let n := numberOf 10 digits
  if least ≤ n && n ≤ most then return (n, digits) else failure

def isLeapYear (year : Nat) : Bool := year % 4 == 0 && (year % 100 != 0 || year % 400 == 0)

def daysIn (year month : Nat) : Nat :=
  if month = 2 then if isLeapYear year then 29 else 28
  else if month = 4 || month = 6 || month = 9 || month = 11 then 30
  else 31

def date : Reader (List Char) := do
  let (year, ys) ← field 4 0 9999
  char '-'
  let (month, ms) ← field 2 1 12
  char '-'
  let (_, ds) ← field 2 1 (daysIn year month)
  return ys ++ '-' :: ms ++ '-' :: ds

def time : Reader (List Char) := do
  let (_, hs) ← field 2 0 23
  char ':'
  let (_, ms) ← field 2 0 59
  char ':'
  let (_, ss) ← field 2 0 60
  let fs ← optionally (char '.' *> takeSome Char.isDigit)
  return hs ++ ':' :: ms ++ ':' :: ss ++ (fs.map ('.' :: ·)).getD []

def timeOffset : Reader (List Char) := do
  let mark ← satisfy fun c => c == 'Z' || c == 'z' || c == '+' || c == '-'
  if mark = 'Z' || mark = 'z' then return [mark]
  let (_, hs) ← field 2 0 23
  char ':'
  let (_, ms) ← field 2 0 59
  return mark :: hs ++ ':' :: ms

def timeOfDay : Reader (List Char) := do
  let mark ← satisfy fun c => c == 'T' || c == 't' || c == ' '
  let clock ← time
  return mark :: clock ++ (← optionally timeOffset).getD []

def dateTime : Reader Value := do
  let chars ← (do return (← date) ++ (← optionally timeOfDay).getD []) <|> time
  return .dateTime (String.ofList chars)

def boolean : Reader Value :=
  (text ['t', 'r', 'u', 'e'] *> pure (.boolean true)) <|>
    (text ['f', 'a', 'l', 's', 'e'] *> pure (.boolean false))

def scalar : Reader Value := string <|> dateTime <|> float <|> integer <|> boolean

end HostBridge.Toml
