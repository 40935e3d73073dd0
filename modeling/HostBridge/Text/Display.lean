import HostBridge.Text.Classes

/-!
# Displays

Whole numbers are written in base ten and words in hexadecimal, filled with zeros. A quoted text has
its quotes, backslashes and unprintable characters escaped.

What a value writes under a format may obey it or be written as it is. A format cuts a text to a
number of characters and then fills it up to a width; the filling goes to the right unless the
alignment says otherwise, and around a centred text an odd character goes to the right. A number is
filled up on its left and never cut. What is put together from several displays has them write
under the plain format, so the format of the whole reaches none.
-/
namespace HostBridge

def natChars (n : Nat) : List Char := Nat.toDigits 10 n

def intChars (i : Int) : List Char :=
  if i < 0 then '-' :: natChars i.natAbs else natChars i.natAbs

def natText (n : Nat) : String := String.ofList (natChars n)

def intText (i : Int) : String := String.ofList (intChars i)

def hexChars (width n : Nat) : List Char :=
  let digits := Nat.toDigits 16 n
  List.replicate (width - digits.length) '0' ++ digits

def hexText (width n : Nat) : String := String.ofList (hexChars width n)

def boolText : Bool → String
  | true => "true"
  | false => "false"

def escapeChar (c : Char) : List Char :=
  if c = '"' then ['\\', '"']
  else if c = '\\' then ['\\', '\\']
  else if c = '\n' then ['\\', 'n']
  else if c = '\r' then ['\\', 'r']
  else if c = '\t' then ['\\', 't']
  else if c.toNat = 0 then ['\\', '0']
  else if isPrintable c then [c]
  else '\\' :: 'u' :: '\x7b' :: (hexChars 1 c.toNat ++ ['\x7d'])

def quotedChars (text : List Char) : List Char :=
  '"' :: (text.flatMap escapeChar ++ ['"'])

def quoted (text : String) : String := String.ofList (quotedChars text.toList)

inductive Alignment
  | left | right | centre
  deriving DecidableEq, Repr

structure Padding where
  fill : Char
  alignment : Alignment
  width : Option UInt16
  precision : Option UInt16
  deriving DecidableEq, Repr

namespace Padding

def rangeMessage : String := "Formatting argument out of range"

def fits (size : Option Nat) : Bool := size.all (· < UInt16.size)

def cut (p : Padding) (text : List Char) : List Char :=
  match p.precision with
  | some most => text.take most.toNat
  | none => text

def margins (p : Padding) (length : Nat) : Nat × Nat :=
  let missing := (p.width.getD 0).toNat - length
  match p.alignment with
  | .left => (0, missing)
  | .right => (missing, 0)
  | .centre => (missing / 2, missing - missing / 2)

def applyChars (p : Padding) (text : List Char) : List Char :=
  let kept := p.cut text
  let (before, after) := p.margins kept.length
  List.replicate before p.fill ++ kept ++ List.replicate after p.fill

def apply (p : Padding) (text : String) : String := String.ofList (p.applyChars text.toList)

end Padding

/-- A format that names no alignment leaves it to what is displayed. -/
structure TextFormat where
  fill : Char
  alignment : Option Alignment
  width : Option UInt16
  precision : Option UInt16
  deriving DecidableEq, Repr

namespace TextFormat

def plain : TextFormat := ⟨' ', none, none, none⟩

def padding (f : TextFormat) (usual : Alignment) : Padding :=
  ⟨f.fill, f.alignment.getD usual, f.width, f.precision⟩

def ofSizes? (fill : Char) (alignment : Option Alignment) (width precision : Option Nat) :
    Option TextFormat :=
  if Padding.fits width && Padding.fits precision then
    some ⟨fill, alignment, width.map UInt16.ofNat, precision.map UInt16.ofNat⟩
  else none

theorem apply_padding_plain (usual : Alignment) (text : String) :
    (plain.padding usual).apply text = text := by
  cases usual <;> simp [Padding.apply, Padding.applyChars, Padding.cut, Padding.margins, padding,
    plain]

end TextFormat

inductive Display
  | padded (text : String)
  | verbatim (text : String)
  | number (i : Int)
  | joined (parts : List Display)

namespace Display

mutual

def text (f : TextFormat) : Display → String
  | padded text => (f.padding .left).apply text
  | verbatim text => text
  | number i => { f.padding .right with precision := none }.apply (intText i)
  | joined parts => textOfAll parts

def textOfAll : List Display → String
  | [] => ""
  | part :: rest => part.text .plain ++ textOfAll rest

end

@[simp]
theorem text_verbatim (f : TextFormat) (s : String) : (verbatim s).text f = s := by rw [text]

@[simp]
theorem text_plain_padded (s : String) : (padded s).text .plain = s := by
  rw [text, TextFormat.apply_padding_plain]

@[simp]
theorem text_plain_number (i : Int) : (number i).text .plain = intText i := by
  rw [text]
  exact TextFormat.apply_padding_plain .right (intText i)

end Display
end HostBridge
