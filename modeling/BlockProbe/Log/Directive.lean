/-
Directives: which records they speak of, and how much of those they let through.

A directive is written `module[span{field}]=level`, and every part may be missing:

- `level` alone is for all modules, `module` alone lets everything through, and so does an empty level;
- `module` is the beginning of a module's name;
- `[span]` is for records inside a span of that name, `[{field}]` for records with a field of that name, and
  `[{field=value}]` for records inside a span with a field of that value.

A level is one of the five names or `off`, in letters of either case, or its number from 0 to 5. What is not a level is
a module's name when it stands alone, and an error behind `=`.

The marks are looked for in the text without the white space around it, but what stands between them is taken from the
same places, counted in bytes, of the text as it is given. So white space in front displaces every part, and a directive
behind it finds no module that it means; one that would cut a character is none.
-/
import BlockProbe.Decimal.Natural
import BlockProbe.Decimal.Spelling
import BlockProbe.Log.Record
import BlockProbe.Pattern.Read
import BlockProbe.Text.Blank
import BlockProbe.Text.Split
import BlockProbe.Text.Utf8

namespace BlockProbe.Log

/-- a field that must be there, and perhaps the value it must have -/
structure Condition where
  name : String
  value : Option String
deriving DecidableEq, Repr

/-- a greatest level for some records; `none` lets nothing through -/
structure Directive where
  modules : Option String := none
  span : Option String := none
  field : Option Condition := none
  greatest : Option Level
deriving DecidableEq, Repr

/-- does a record speak of the field? -/
def Record.mentions (record : Record) (name : String) : Bool :=
  name == "message" || name == "component" || record.fields.any fun field => field.1 == name

/-- does a module have a name that begins so? -/
def Origin.isAmong (origin : Origin) : Option String → Bool
  | none => true
  | some modules => modules.toList.isPrefixOf origin.name.toList

/-- is the condition met? A value can only be that of a span, and records stand in none. -/
def Record.meets (record : Record) : Option Condition → Bool
  | none => true
  | some { name, value := none } => record.mentions name
  | some { value := some _, .. } => false

/-- does the directive speak of the record? -/
def Directive.covers (directive : Directive) (record : Record) : Bool :=
  directive.span.isNone && record.origin.isAmong directive.modules && record.meets directive.field

/-- the number of a level as a directive gives it -/
def ofNumber? (number : UInt64) : Option (Option Level) :=
  match number.toNat with
  | 0 => some none
  | 1 => some (some .error)
  | 2 => some (some .warn)
  | 3 => some (some .info)
  | 4 => some (some .debug)
  | 5 => some (some .trace)
  | _ => none

/-- the greatest level a word gives; the inner `none` is `off` -/
def greatest? (word : String) : Option (Option Level) :=
  match Decimal.readUnsigned word with
  | .ok number => ofNumber? number
  | .error _ =>
    let name := word.toLower
    if name = "off" then some none else (Level.ofName? name).map some

/-- may a module's name begin so? -/
def beginsModule (c : Char) : Bool := c == '-' || c == ':' || c == '_' || Text.isWordChar c

def Condition.parse (text : String) : Option Condition :=
  match Text.split '=' text with
  | name :: value :: _ =>
    if Decimal.isNumeral value || Pattern.isPattern value then some { name, value := some value } else none
  | _ => if text.isEmpty then none else some { name := text, value := none }

inductive Part where
  | opening
  | subject
  | span (start : Nat)
  | field (start : Nat)
  | fieldEnd
  | scopeEnd
  | level (start : Nat)
deriving DecidableEq, Repr

/-- a directive read so far -/
structure Draft where
  part : Part := .opening
  modules : Option String := none
  span : Option String := none
  field : Option Condition := none
deriving DecidableEq, Repr

/-- the text between two places, if no character is cut there -/
def between (bytes : List UInt8) (first last : Nat) : Option String := Text.decode? ((bytes.take last).drop first)

/-- characters with their places, the first having the place `start` -/
def placed (start : Nat) : List Char → List (Char × Nat)
  | [] => []
  | c :: rest => (c, start) :: placed (start + c.utf8Size) rest

/-- take the next character, which has its place in the trimmed text; the parts are cut from `bytes` -/
def Draft.take (bytes : List UInt8) (draft : Draft) (next : Char × Nat) : Option Draft := do
  let (c, place) := next
  match draft.part with
  | .opening =>
    if c == '[' then some { draft with part := .span (place + 1) }
    else if beginsModule c then some { draft with part := .subject }
    else none
  | .subject =>
    if c == '=' then
      let modules ← between bytes 0 place
      some { draft with part := .level (place + 1), modules := some modules }
    else if c == '[' then
      let modules ← between bytes 0 place
      some { draft with part := .span (place + 1), modules := some modules }
    else some draft
  | .span start =>
    if c == ']' then
      let name ← between bytes start place
      some { draft with part := .scopeEnd, span := some name }
    else if c == '\x7b' then
      let name ← between bytes start place
      some { draft with part := .field (place + 1), span := if name.isEmpty then none else some name }
    else some draft
  | .field start =>
    if c == '\x7d' then
      let condition ← between bytes start place
      let field ← Condition.parse condition
      some { draft with part := .fieldEnd, field := some field }
    else some draft
  | .fieldEnd => if c == ']' then some { draft with part := .scopeEnd } else none
  | .scopeEnd => if c == '=' then some { draft with part := .level (place + 1) } else none
  | .level _ => some draft

def Draft.finish (text : String) (draft : Draft) : Option Directive := do
  let directive (greatest : Option Level) : Directive :=
    { modules := draft.modules, span := draft.span, field := draft.field, greatest }
  match draft.part with
  | .subject =>
    match greatest? text with
    | some greatest => some { greatest }
    | none => some { modules := some text, greatest := some .trace }
  | .scopeEnd => some (directive (some .trace))
  | .level start =>
    let word ← between (Text.encode text) start text.utf8ByteSize
    if word.isEmpty then some (directive (some .trace)) else (greatest? word).map directive
  | _ => none

def Directive.parse (text : String) : Option Directive := do
  let draft ← (placed 0 (Text.trimmed text).toList).foldlM (Draft.take (Text.encode text)) {}
  draft.finish text

end BlockProbe.Log
