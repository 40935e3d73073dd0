import HostBridge.Text.Classes
import HostBridge.Text.Reader

/-!
# Patterns

The form of the regular expressions that a field's value can be compared with. No value is
ever compared, so a pattern is read only to tell whether it is well-formed and supported.

Flags decide what is supported from where they are set to the end of their group. While
Unicode is on, there are no properties of characters to draw on: neither letters in either
case nor classes of letters and digits, and the edges of words are understood but cannot be
looked for. While it is off, nothing may match a part of a character.
-/
namespace HostBridge.Log

open Reader

inductive PatternError
  | malformed | wordEdge
  deriving DecidableEq, Repr

def PatternError.message : PatternError → String
  | .malformed => "error building NFA"
  | .wordEdge =>
    "unsupported regex feature for DFAs: cannot build DFAs for regexes with Unicode word " ++
      "boundaries; switch to ASCII word boundaries, or heuristically enable Unicode word " ++
      "boundaries or use a different regex engine"

namespace Pattern

structure Mode where
  unicode : Bool
  ignoreCase : Bool
  ignoreBlanks : Bool
  names : List (List Char)
  deriving DecidableEq, Repr

def Mode.standard : Mode := ⟨true, false, false, []⟩

structure FlagChange where
  set : List Char
  cleared : List Char
  deriving DecidableEq, Repr

def FlagChange.isEmpty (change : FlagChange) : Bool := change.set.isEmpty && change.cleared.isEmpty

def FlagChange.flag (change : FlagChange) (letter : Char) (before : Bool) : Bool :=
  change.set.contains letter || (before && !change.cleared.contains letter)

def Mode.change (mode : Mode) (change : FlagChange) : Mode :=
  ⟨change.flag 'u' mode.unicode, change.flag 'i' mode.ignoreCase,
    change.flag 'x' mode.ignoreBlanks, mode.names⟩

structure Shape where
  depth : Nat
  seeksWordEdge : Bool
  deriving DecidableEq, Repr

namespace Shape

def flat : Shape := ⟨0, false⟩

def deepen (s : Shape) (levels : Nat) : Shape := { s with depth := s.depth + levels }

def ofList : List Shape → Shape
  | [] => flat
  | [s] => s
  | shapes => ⟨(shapes.map depth).foldl max 0 + 1, shapes.any seeksWordEdge⟩

end Shape

def depthLimit : Nat := 250

abbrev Scanner := StateT Mode Reader

def require (condition : Bool) : Scanner Unit := if condition then pure () else failure

def comment : Reader Unit := do
  char '#'
  skip (takeWhile (· != '\n'))
  skip (optionally (char '\n'))

def blanks (mode : Mode) : Reader Unit :=
  if mode.ignoreBlanks then skip (many (skip (takeSome isBlank) <|> comment)) else pure ()

def skipBlanks : Scanner Unit := do blanks (← get)

structure Literal where
  char : Char
  isByte : Bool
  deriving DecidableEq, Repr

def escaped (mode : Mode) : Reader Literal := do
  char '\\'
  match ← satisfy fun c => c.toNat < 128 with
  | 'a' => return ⟨'\x07', false⟩
  | 'f' => return ⟨'\x0c', false⟩
  | 't' => return ⟨'\t', false⟩
  | 'n' => return ⟨'\n', false⟩
  | 'r' => return ⟨'\r', false⟩
  | 'v' => return ⟨'\x0b', false⟩
  | 'x' => return ⟨← codePoint 2 (blanks mode), true⟩
  | 'u' => return ⟨← codePoint 4 (blanks mode), false⟩
  | 'U' => return ⟨← codePoint 8 (blanks mode), false⟩
  | c => if c.isAlphanum || c = '<' || c = '>' then failure else return ⟨c, false⟩

def literal (standsForItself : Char → Bool) : Scanner Literal := do
  let mode ← get
  escaped mode <|> (Literal.mk · false) <$> satisfy fun c => c != '\\' && standsForItself c

def letterClass : Scanner Unit := do
  require (!(← get).unicode)
  char '\\'
  skip (satisfy fun c => c == 'd' || c == 's' || c == 'w')

def isFlag (c : Char) : Bool := ['i', 'm', 's', 'U', 'u', 'x', 'R'].contains c

def flags : Scanner FlagChange := do
  let set ← takeWhile isFlag
  let cleared := (← optionally (char '-' *> takeSome isFlag)).getD []
  require (decide (set ++ cleared).Nodup)
  return ⟨set, cleared⟩

def afterDash (mode : Mode) (rest : List Char) : Option Char :=
  if mode.ignoreBlanks then
    match rest.dropWhile isBlank with
    | '#' :: rest => (rest.dropWhile isBlank).head?
    | rest => rest.head?
  else rest.head?

def rangeFollows : Scanner Bool := do
  skipBlanks
  match (← getThe Cursor).rest with
  | '-' :: rest =>
    let next := afterDash (← get) rest
    return next != some ']' && next != some '-'
  | _ => return false

def allowInSet (c : Literal) : Scanner Unit := do
  let mode ← get
  require (if mode.unicode then !mode.ignoreCase else c.char.toNat < 128)

def range : Scanner Unit := do
  let low ← literal fun c => c != '[' && c != ']'
  allowInSet low
  if ← rangeFollows then
    char '-'
    skipBlanks
    let high ← literal fun _ => true
    allowInSet high
    require (low.char ≤ high.char)

def classInSet : Scanner Unit := do
  letterClass
  require !(← rangeFollows)

def classNames : List String :=
  ["alnum", "alpha", "ascii", "blank", "cntrl", "digit", "graph", "lower", "print", "punct",
    "space", "upper", "word", "xdigit"]

def namedClass : Reader Bool := do
  text ['[', ':']
  let complement ← optionally (char '^')
  let name ← takeWhile (· != ':')
  text [':', ']']
  if classNames.contains (String.ofList name) then return complement.isSome else failure

def setOperator : Reader Unit := text ['&', '&'] <|> text ['-', '-'] <|> text ['~', '~']

def setOpening : Scanner (List Shape) := do
  let dashes ← many (char '-' *> skipBlanks)
  let bracket ← if dashes.isEmpty then optionally (char ']') else pure none
  let first := dashes ++ bracket.toList
  let mode ← get
  require (first.isEmpty || !(mode.unicode && mode.ignoreCase))
  return first.map fun _ => .flat

def setMember (inner : Scanner Shape) : Scanner Shape := do
  skipBlanks
  match ← optionally namedClass with
  | some complement =>
    let mode ← get
    require (if mode.unicode then !mode.ignoreCase else !complement)
    return .flat
  | none =>
    inner <|> do
      require (← optionally setOperator).isNone
      classInSet <|> range
      return .flat

def setOperands : List Shape → Shape
  | [] => .flat
  | first :: rest => rest.foldl (fun left right => .ofList [left, right]) first

def setWithin : Nat → Scanner Shape
  | 0 => failure
  | levels + 1 => do
    char '['
    skipBlanks
    let complement ← optionally (char '^')
    require (complement.isNone || (← get).unicode)
    skipBlanks
    let opening ← setOpening
    let member := setMember (setWithin levels)
    let first ← many member
    let others ← many (skipBlanks *> setOperator *> many member)
    skipBlanks
    char ']'
    return (setOperands (Shape.ofList (opening ++ first) :: others.map .ofList)).deepen 1

def flagGroup : Scanner Unit := do
  char '('
  skipBlanks
  char '?'
  let change ← flags
  require !change.isEmpty
  char ')'
  modify (·.change change)

def groupName : Reader (List Char) := do
  let first ← satisfy fun c => c == '_' || isAlphabetic c
  return first :: (← takeWhile fun c => isAlphanumeric c || ['_', '.', '[', ']'].contains c)

def groupHeadName : Scanner Unit := do
  char '?'
  skip (optionally (char 'P'))
  char '<'
  let name ← groupName
  char '>'
  require !(← get).names.contains name
  modify fun mode => { mode with names := name :: mode.names }

def groupHeadFlags : Scanner Unit := do
  char '?'
  let change ← flags
  char ':'
  modify (·.change change)

def group (alternatives : Scanner Shape) : Scanner Shape := do
  char '('
  let before ← get
  skipBlanks
  skip (optionally (groupHeadName <|> groupHeadFlags))
  let inner ← alternatives
  char ')'
  modify fun mode => { before with names := mode.names }
  return inner.deepen 1

def isRepetition (c : Char) : Bool := ['*', '+', '?'].contains c

def isPlain (c : Char) : Bool :=
  !isRepetition c && !(['(', ')', '[', '|', '\x7b', '.', '^', '$'].contains c)

def assertion : Scanner Shape :=
  (do
    skip (satisfy fun c => c == '^' || c == '$')
    return .flat) <|> do
    char '\\'
    match ← satisfy fun _ => true with
    | 'A' | 'z' => return .flat
    | 'b' | 'B' | '<' | '>' => return ⟨0, (← get).unicode⟩
    | _ => failure

def single : Scanner Unit := do
  let c ← literal isPlain
  let mode ← get
  require (if mode.unicode then !mode.ignoreCase else !(c.isByte && 127 < c.char.toNat))

def anyChar : Scanner Unit := do
  char '.'
  require (← get).unicode

def repetition : Scanner Unit := do
  skipBlanks
  skip (satisfy isRepetition)
  skip (optionally (char '?'))

def repeated (piece : Scanner Shape) : Scanner Shape := do
  let shape ← piece
  return shape.deepen (← many repetition).length

def alternativesWithin : Nat → Scanner Shape
  | 0 => failure
  | levels + 1 =>
    let flat (piece : Scanner Unit) : Scanner Shape := piece *> pure .flat
    let atom := group (alternativesWithin levels) <|> setWithin (depthLimit + 1) <|> assertion <|>
      flat (letterClass <|> anyChar <|> single)
    let item := skipBlanks *> (flat flagGroup <|> repeated atom)
    let row := Shape.ofList <$> (many item <* skipBlanks)
    Shape.ofList <$> separated row (char '|')

def check (text : List Char) : Except PatternError Unit :=
  match ((alternativesWithin (depthLimit + 1)).run' .standard).runChars? text with
  | none => .error .malformed
  | some shape =>
    if depthLimit < shape.depth then .error .malformed
    else if shape.seeksWordEdge then .error .wordEdge
    else .ok ()

end Pattern
end HostBridge.Log
