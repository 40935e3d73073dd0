import HostBridge.Log.FieldMatch
import HostBridge.Log.Record
import HostBridge.Text.Classes
import HostBridge.Text.Reader

/-!
# Log filters

A directive sets how verbose some records may be. It may name their target, a span in which they
were made, and a field they have: `target[span{field=value}]=level`, where every part may be
missing. Without brackets a lone word is a level, or else a target. Places are counted from the
first character that is not blank, and are then used in the text with the blanks around it. Such a
place can be inside a character, and the directive then cannot be cut out.

A filter is a set of directives, at most one for each subject. A record is decided by the most
specific rule that concerns it; a record that no rule concerns is dropped. The scopes are about
spans. The bridge opens none, so they are kept, but let no record through.

Directives are written one after another with commas between them. Empty parts mean nothing. A text
with a malformed part yields no filter at all, and the bridge then falls back to the records of its
own modules from level info up.
-/
namespace HostBridge.Log

inductive DirectiveError
  | badDirective | badLevel
  | badField (e : PatternError)
  deriving DecidableEq, Repr

def DirectiveError.message : DirectiveError → String
  | badDirective => "invalid filter directive"
  | badLevel =>
    "error parsing level filter: expected one of \"off\", \"error\", \"warn\", \"info\", " ++
      "\"debug\", \"trace\", or a number 0-5"
  | badField e => "invalid field filter: " ++ e.message

inductive DirectiveFault
  | invalid (e : DirectiveError)
  | cut (e : CutError)
  deriving DecidableEq, Repr

/-- The targets that are meant are those that begin with `target`, and all of them without one. -/
structure Directive where
  target : Option String
  span : Option String
  field : Option FieldMatch
  threshold : Threshold
  deriving DecidableEq, Repr

namespace Directive

def refuse {α : Type} (e : DirectiveError) : Except DirectiveFault α := .error (.invalid e)

def nextMark? (isMark : Char → Bool) (cursor : Cursor) : Option (Nat × Char × Cursor) :=
  let skipped := cursor.rest.takeWhile (!isMark ·)
  let place := cursor.offset + byteCount skipped
  match cursor.rest.drop skipped.length with
  | [] => none
  | mark :: rest => some (place, mark, ⟨place + mark.utf8Size, rest⟩)

def textBetween (part : List Char) (first last : Nat) : Except DirectiveFault (List Char) :=
  (piece part first last).mapError .cut

def levelFrom (part : List Char) (place : Nat) : Except DirectiveFault Threshold := do
  let text ← (pieceFrom part place).mapError .cut
  if text.isEmpty then return .level .trace
  match Threshold.ofChars? text with
  | some threshold => return threshold
  | none => refuse .badLevel

def levelAfter (part : List Char) (cursor : Cursor) : Except DirectiveFault Threshold :=
  match cursor.rest with
  | [] => .ok (.level .trace)
  | '=' :: _ => levelFrom part (cursor.offset + 1)
  | _ => refuse .badDirective

def fieldAt (part : List Char) (cursor : Cursor) : Except DirectiveFault (FieldMatch × Cursor) := do
  match nextMark? (· == '\x7d') cursor with
  | none => refuse .badDirective
  | some (place, _, after) =>
    let text ← textBetween part cursor.offset place
    if text.isEmpty then refuse .badDirective
    let field ← (FieldMatch.ofChars text).mapError fun e => .invalid (.badField e)
    match after.rest with
    | ']' :: rest => return (field, ⟨after.offset + 1, rest⟩)
    | _ => refuse .badDirective

def bracketed (part : List Char) (target : Option String) (cursor : Cursor) :
    Except DirectiveFault Directive := do
  match nextMark? (fun c => c == ']' || c == '\x7b') cursor with
  | none => refuse .badDirective
  | some (place, mark, after) =>
    let span := String.ofList (← textBetween part cursor.offset place)
    if mark = ']' then return ⟨target, some span, none, ← levelAfter part after⟩
    let (field, after) ← fieldAt part after
    return ⟨target, if span.isEmpty then none else some span, some field,
      ← levelAfter part after⟩

def ofWord (part : List Char) : Directive :=
  match Threshold.ofChars? part with
  | some threshold => ⟨none, none, none, threshold⟩
  | none => ⟨some (String.ofList part), none, none, .level .trace⟩

def beginsTarget (c : Char) : Bool := isAlphanumeric c || c = '-' || c = ':' || c = '_'

def ofChars (part : List Char) : Except DirectiveFault Directive := do
  match trimBlanks part with
  | [] => refuse .badDirective
  | '[' :: rest => bracketed part none ⟨1, rest⟩
  | first :: rest =>
    if !beginsTarget first then refuse .badDirective
    match nextMark? (fun c => c == '=' || c == '[') ⟨0, first :: rest⟩ with
    | none => return ofWord part
    | some (place, mark, after) =>
      let target := some (String.ofList (← textBetween part 0 place))
      if mark = '=' then return ⟨target, none, none, ← levelFrom part after.offset⟩
      bracketed part target after

/-- How specific a directive is: by the length of its target, then by whether it names a
span and a field; equally specific ones by what they name. -/
def specificity (a b : Directive) : Ordering :=
  (compare (a.target.map String.utf8ByteSize) (b.target.map String.utf8ByteSize)).then <|
    (compare a.span.isSome b.span.isSome).then <|
    (compare a.field.isSome b.field.isSome).then <|
    (compare a.target b.target).then <|
    (compare a.span b.span).then (compare a.field b.field)

def isScope (d : Directive) : Bool := d.span.isSome || d.field.isSome

def isRule (d : Directive) : Bool := d.span.isNone && (d.field.bind (·.value)).isNone

/-- Whether a record has the target and the field that the directive names. Its message
counts as a field. -/
def concerns (d : Directive) (r : Record) : Bool :=
  d.target.all (fun target => target.toList.isPrefixOf r.target.toList) &&
    d.field.all fun field => ("message" :: r.fields.map (·.name)).contains field.name

def bracketText (d : Directive) : String :=
  if d.isScope then
    "[" ++ d.span.getD "" ++ (d.field.map fun m => "\x7b" ++ m.text ++ "\x7d").getD "" ++ "]"
  else ""

def text (d : Directive) : String :=
  let subject := d.target.getD "" ++ d.bracketText
  if d.target.isSome || d.isScope then subject ++ "=" ++ d.threshold.name else d.threshold.name

end Directive

structure Filter where
  rules : List Directive
  scopes : List Directive
  deriving DecidableEq, Repr

namespace Filter

def insert (d : Directive) : List Directive → List Directive
  | [] => [d]
  | e :: rest =>
    match d.specificity e with
    | .eq => d :: rest
    | .gt => d :: e :: rest
    | .lt => e :: insert d rest

def sorted (ds : List Directive) : List Directive := ds.foldl (fun sorted d => insert d sorted) []

def empty : Filter := ⟨[], []⟩

def ofDirectives (ds : List Directive) : Filter :=
  ⟨sorted (ds.filter (·.isRule)), sorted (ds.filter (·.isScope))⟩

def parts (text : List Char) : List (List Char) := (text.splitOn ',').filter (!·.isEmpty)

def parse (text : String) : Except DirectiveFault Filter :=
  ofDirectives <$> (parts text.toList).mapM Directive.ofChars

def standardText : String := "plugbridge=info"

def standard : Filter := ⟨[⟨some "plugbridge", none, none, .level .info⟩], []⟩

def complaint (text : String) (e : DirectiveError) : String :=
  "plugbridge: invalid log filter " ++ quoted text ++ " (" ++ e.message ++ "), using " ++
    quoted standardText ++ "\n"

/-- The filter a text asks for, and the complaint when it falls back to the standard one.
There is no filter when the text cannot be cut into its directives. -/
def build (text : String) : Except CutError (Filter × Option String) :=
  match parse text with
  | .ok filter => .ok (filter, none)
  | .error (.invalid e) => .ok (standard, some (complaint text e))
  | .error (.cut e) => .error e

def ruleFor? (f : Filter) (r : Record) : Option Directive := f.rules.find? (·.concerns r)

def admits (f : Filter) (r : Record) : Bool :=
  match f.ruleFor? r with
  | some d => d.threshold.admits r.level
  | none => false

def text (f : Filter) : String :=
  ",".intercalate ((f.rules ++ f.scopes).map Directive.text)

end Filter
end HostBridge.Log
