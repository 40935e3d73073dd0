import HostBridge.Text.Display
import HostBridge.Total

/-!
# Reading and cutting texts

A reader takes characters from the front of a text and yields a value, or fails and takes nothing.
It knows how many bytes it has passed, so that a span of the text can be told by its first byte and
the first byte after it. Repetition is defined for every monad that reads in this way, so that a
reader may carry more along.

A place in a text is the number of bytes before it. A text can be cut between two characters only; a
place inside a character is an error that names the character and its bytes.
-/
namespace HostBridge

structure Cursor where
  offset : Nat
  rest : List Char
  deriving Repr

structure Span where
  start : Nat
  stop : Nat
  deriving DecidableEq, Repr

abbrev Reader (α : Type) := StateT Cursor Option α

def byteCount (chars : List Char) : Nat := totalOf Char.utf8Size chars

namespace Reader

variable {m : Type → Type} [Monad m] [∀ α, OrElse (m α)] [MonadStateOf Cursor m] {α β : Type}

def skip (p : m α) : m Unit := do
  let _ ← p
  return ()

def optionally (p : m α) : m (Option α) := some <$> p <|> pure none

def repeatFor (p : m α) : Nat → m (List α)
  | 0 => pure []
  | count + 1 => do
    match ← optionally p with
    | some a => return a :: (← repeatFor p count)
    | none => return []

def many (p : m α) : m (List α) := do repeatFor p (← getThe Cursor).rest.length

def separated (p : m α) (separator : m β) : m (List α) := do
  let first ← p
  return first :: (← many (separator *> p))

def satisfy (p : Char → Bool) : Reader Char := fun cursor =>
  match cursor.rest with
  | c :: rest => if p c then some (c, ⟨cursor.offset + c.utf8Size, rest⟩) else none
  | [] => none

def char (c : Char) : Reader Unit := skip (satisfy (· == c))

def text : List Char → Reader Unit
  | [] => pure ()
  | c :: rest => do
    char c
    text rest

def takeWhile (p : Char → Bool) : Reader (List Char) := fun cursor =>
  let taken := cursor.rest.takeWhile p
  some (taken, ⟨cursor.offset + byteCount taken, cursor.rest.drop taken.length⟩)

def takeSome (p : Char → Bool) : Reader (List Char) := do
  let taken ← takeWhile p
  if taken.isEmpty then failure else return taken

def atEnd : Reader Bool := do return (← get).rest.isEmpty

def endOfInput : Reader Unit := do
  if ← atEnd then return () else failure

def isAt (chars : List Char) : Reader Bool := do return chars.isPrefixOf (← get).rest

def spanned (p : Reader α) : Reader (α × Span) := do
  let start := (← get).offset
  let a ← p
  return (a, ⟨start, (← get).offset⟩)

def runChars? (p : Reader α) (text : List Char) : Option α :=
  (StateT.run (p <* endOfInput) ⟨0, text⟩).map (·.1)

def run? (p : Reader α) (text : String) : Option α := p.runChars? text.toList

end Reader

def isHexDigit (c : Char) : Bool := c.isDigit || ('a' ≤ c && c ≤ 'f') || ('A' ≤ c && c ≤ 'F')

def digitValue (c : Char) : Nat :=
  if c.isDigit then c.toNat - '0'.toNat
  else if 'a' ≤ c then c.toNat - 'a'.toNat + 10
  else c.toNat - 'A'.toNat + 10

def numberOf (base : Nat) (digits : List Char) : Nat :=
  digits.foldl (fun n c => base * n + digitValue c) 0

namespace Reader

def codePoint (count : Nat) (before : Reader Unit) : Reader Char := do
  let digits ← (List.range count).mapM fun _ => before *> satisfy isHexDigit
  let n := numberOf 16 digits
  if n.isValidChar then return Char.ofNat n else failure

def sign : Reader Bool := do
  match ← optionally (satisfy fun c => c == '+' || c == '-') with
  | some c => return c == '-'
  | none => return false

def wholeNumber : Reader Nat := numberOf 10 <$> takeSome Char.isDigit

end Reader

inductive Edge
  | start | stop
  deriving DecidableEq, Repr

def Edge.name : Edge → String
  | start => "start"
  | stop => "end"

structure CutError where
  edge : Edge
  place : Nat
  char : Char
  first : Nat
  deriving DecidableEq, Repr

def CutError.message (e : CutError) : String :=
  e.edge.name ++ " byte index " ++ natText e.place ++
    " is not a char boundary; it is inside '" ++ String.ofList (escapeChar e.char) ++
    "' (bytes " ++ natText e.first ++ ".." ++ natText (e.first + e.char.utf8Size) ++
    " of string)"

/-- So many bytes of a text, or all of it if it is shorter. A character across the end is
an error, together with the number of its bytes before the end. -/
def takeBytes (count : Nat) : List Char → Except (Char × Nat) (List Char)
  | [] => .ok []
  | c :: rest =>
    if count = 0 then .ok []
    else if count < c.utf8Size then .error (c, count)
    else (c :: ·) <$> takeBytes (count - c.utf8Size) rest

def upTo (edge : Edge) (place : Nat) (text : List Char) : Except CutError (List Char) :=
  (takeBytes place text).mapError fun (c, begun) => ⟨edge, place, c, place - begun⟩

def piece (text : List Char) (first last : Nat) : Except CutError (List Char) := do
  let before ← upTo .start first text
  let whole ← upTo .stop last text
  return whole.drop before.length

def pieceFrom (text : List Char) (first : Nat) : Except CutError (List Char) := do
  return text.drop (← upTo .start first text).length

theorem takeBytes_byteCount (front back : List Char) :
    takeBytes (byteCount front) (front ++ back) = .ok front := by
  induction front with
  | nil => cases back <;> rfl
  | cons c front ih =>
    have size := c.utf8Size_pos
    have whole : byteCount (c :: front) = c.utf8Size + byteCount front := rfl
    rw [List.cons_append, takeBytes, if_neg (by omega), if_neg (by omega), whole,
      Nat.add_sub_cancel_left, ih]
    rfl

end HostBridge
