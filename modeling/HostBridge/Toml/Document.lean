import HostBridge.Toml.Scalar

/-!
# Documents

A document is read line by line into headers and key-value pairs, and the sections that
the headers open are then put in their places. Arrays and inline tables nest up to a
limit, and so many parts a dotted key may have.
-/
namespace HostBridge.Toml

open Reader

def nestingLimit : Nat := 80

def isKeyChar (c : Char) : Bool := c.isAlphanum || c = '_' || c = '-'

def key : Reader Key := do
  let (chars, span) ← spanned (basicString <|> literalString <|> takeSome isKeyChar)
  return ⟨String.ofList chars, span⟩

def keyPath : Reader (List Key × Key) := do
  let keys ← separated (spaces *> key <* spaces) (char '.')
  match keys.getLast? with
  | some last => if keys.length < nestingLimit then return (keys.dropLast, last) else failure
  | none => failure

def blankLines : Reader Unit :=
  skip (many (skip (takeSome isSpace) <|> lineEnd <|> comment *> lineEnd))

def arrayOf (element : Reader Value) : Reader Value := do
  char '['
  let elements ← optionally (separated (blankLines *> element <* blankLines) (char ','))
  if elements.isSome then skip (optionally (char ','))
  blankLines
  char ']'
  return .array (elements.getD [])

def pairOf (value : Reader Value) : Reader (List Key × Key × Item) := do
  let (path, key) ← keyPath
  char '='
  spaces
  let (value, span) ← spanned value
  return (path, key, .value value span)

def inlineOf (value : Reader Value) : Reader Value := do
  char '\x7b'
  let pairs ← optionally (separated (pairOf value <* spaces) (char ','))
  spaces
  char '\x7d'
  let table ← (pairs.getD []).foldlM (fun table (path, key, item) => table.define path key item)
    (Table.empty .written)
  return .inline table

def valueWithin : Nat → Reader Value
  | 0 => scalar
  | depth + 1 => scalar <|> arrayOf (valueWithin depth) <|> inlineOf (valueWithin depth)

def value : Reader Value := valueWithin (nestingLimit - 1)

def lineTrailing : Reader Unit := do
  spaces
  skip (optionally comment)
  if ← atEnd then return () else lineEnd

inductive Line
  | blank
  | header (isRow : Bool) (path : List Key) (key : Key) (span : Span)
  | pair (path : List Key) (key : Key) (item : Item)

def header : Reader Line := do
  let isRow ← isAt ['[', '[']
  let brackets (c : Char) := text (if isRow then [c, c] else [c])
  let ((path, key), span) ← spanned (brackets '[' *> keyPath <* brackets ']')
  return .header isRow path key span

def line : Reader Line := do
  let content ← optionally (header <|> do
    let (path, key, item) ← pairOf value
    return .pair path key item)
  lineTrailing
  return content.getD .blank

def lines : Reader (List Line) := do
  skip (optionally (char '\ufeff'))
  many (do
    if ← atEnd then failure
    spaces
    line)

structure Section where
  isRow : Bool
  path : List Key
  key : Key
  span : Span
  pairs : List (List Key × Key × Item)

def sections (lines : List Line) : List (List Key × Key × Item) × List Section :=
  lines.foldr (fun line (pairs, later) =>
    match line with
    | .blank => (pairs, later)
    | .pair path key item => ((path, key, item) :: pairs, later)
    | .header isRow path key span => ([], ⟨isRow, path, key, span, pairs⟩ :: later)) ([], [])

def fill (table : Table) (pairs : List (List Key × Key × Item)) : Option Table :=
  pairs.foldlM (fun table (path, key, item) => table.define path key item) table

namespace Section

def extent (s : Section) : Span :=
  s.pairs.foldl (fun span (_, _, item) =>
    match item.span with
    | some own => { span with stop := own.stop }
    | none => span) s.span

def table? (s : Section) (before : List (Key × Item)) : Option Table :=
  fill (.mk .written (some s.extent) before) s.pairs

/-- Puts a section into its parent. A row grows by one; a table must be new there, or have
been implied by an earlier header, in which case it moves to the end. -/
def insertInto (s : Section) (parent : Table) : Option Table :=
  if s.isRow then do
    let table ← s.table? []
    match parent.get? s.key with
    | none => some (parent.append s.key (.tables [table]))
    | some (.tables row) => some (parent.replace s.key (.tables (row ++ [table])))
    | some _ => none
  else
    match parent.get? s.key with
    | none => do return parent.append s.key (.table (← s.table? []))
    | some (.table (.mk .implied _ before)) => do
      return (parent.erase s.key).append s.key (.table (← s.table? before))
    | some _ => none

end Section

def assemble (lines : List Line) : Option Table := do
  let (pairs, sections) := sections lines
  let root ← fill (.empty .written) pairs
  sections.foldlM (fun root s => root.changeAt .implied s.insertInto s.path) root

def parse? (text : String) : Option Table := do assemble (← lines.run? text)

end HostBridge.Toml
