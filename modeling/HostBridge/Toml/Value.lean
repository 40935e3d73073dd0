import HostBridge.Number.Binary64
import HostBridge.Text.Reader

/-!
# Tables and values

A document is a table of keys, in the order in which they were brought in. An entry is a
value, a table of its own, or a row of tables that share a key. A table that only lies on
the way to another one is implicit, and dotted if a dotted key led there; such a table may
be added to later, while one that was written out is closed.
-/
namespace HostBridge.Toml

structure Key where
  text : String
  span : Span
  deriving DecidableEq, Repr

/-- A table has been written by a header or braces, or implied on the way of a header or of a dotted
key. -/
inductive Origin
  | written
  | implied
  | dotted
  deriving DecidableEq, Repr

mutual

inductive Value
  | string (text : String)
  | integer (i : Int)
  | float (x : Double)
  | boolean (b : Bool)
  | dateTime (text : String)
  | array (elements : List Value)
  | inline (table : Table)

inductive Item
  | value (value : Value) (span : Span)
  | table (table : Table)
  | tables (tables : List Table)

inductive Table
  | mk (origin : Origin) (span : Option Span) (entries : List (Key × Item))

end

namespace Table

def origin : Table → Origin
  | mk origin .. => origin

def span : Table → Option Span
  | mk _ span _ => span

def entries : Table → List (Key × Item)
  | mk _ _ entries => entries

def empty (origin : Origin) : Table := mk origin none []

def get? (table : Table) (key : Key) : Option Item :=
  (table.entries.find? fun entry => entry.1.text == key.text).map (·.2)

def append (table : Table) (key : Key) (item : Item) : Table :=
  mk table.origin table.span (table.entries ++ [(key, item)])

def replace (table : Table) (key : Key) (item : Item) : Table :=
  mk table.origin table.span
    (table.entries.map fun entry => if entry.1.text = key.text then (entry.1, item) else entry)

def erase (table : Table) (key : Key) : Table :=
  mk table.origin table.span (table.entries.filter fun entry => entry.1.text != key.text)

/-- Changes the table at the end of a path. Tables that are missing on the way come into
being; a dotted path does not lead into a table that was written out, and no path leads
into a value. Of a row of tables the last one is meant. -/
def changeAt (way : Origin) (change : Table → Option Table) :
    List Key → Table → Option Table
  | [], table => change table
  | key :: path, table =>
    match table.get? key with
    | none => do return table.append key (.table (← changeAt way change path (empty way)))
    | some (.value ..) => none
    | some (.table child) =>
      if way == .dotted && child.origin == .written then none
      else do return table.replace key (.table (← changeAt way change path child))
    | some (.tables row) => do
      let last ← row.getLast?
      return table.replace key (.tables (row.dropLast ++ [← changeAt way change path last]))

/-- Sets a key, or a dotted key, to a value. The key must be new, and its table be one
that this kind of key may add to. -/
def define (path : List Key) (key : Key) (item : Item) : Table → Option Table :=
  changeAt .dotted (fun table =>
    if (table.origin == .dotted) == path.isEmpty then none
    else if (table.get? key).isSome then none
    else some (table.append key item)) path

end Table

def Item.span : Item → Option Span
  | .value _ span => some span
  | .table t => t.span
  | .tables row => do return ⟨(← (← row.head?).span).start, (← (← row.getLast?).span).stop⟩

end HostBridge.Toml
