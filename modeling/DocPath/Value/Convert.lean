import DocPath.Value.Order

/-!
Conversion of values to typed results. Whole numbers narrow by keeping their low bits; every
other scalar goes through the trimmed text of the value. Lists convert item by item and maps
entry by entry.
-/

namespace DocPath

structure CoercionError where
  value : String
  target : String
  deriving DecidableEq, Repr

def CoercionError.message (e : CoercionError) : String :=
  "cannot convert " ++ e.value ++ " to " ++ e.target

inductive Target where
  | byte
  | short
  | int
  | long
  | float
  | double
  | decimal
  | bool
  | char
  | string
  | value
  | node
  | option (t : Target)
  | list (t : Target)
  | map (t : Target)
  deriving DecidableEq, Repr

/-- The name of a type in messages; an optional type has the name of its content. -/
def Target.text : Target → String
  | .byte => "byte"
  | .short => "short"
  | .int => "int"
  | .long => "long"
  | .float => "float"
  | .double => "double"
  | .decimal => "decimal"
  | .bool => "boolean"
  | .char => "char"
  | .string => "string"
  | .value => "value"
  | .node => "node"
  | .option t => t.text
  | .list _ => "list"
  | .map _ => "map"

/-- Whether null is a result of the type, and not a sign that nothing was found. -/
def Target.acceptsNull : Target → Bool
  | .value | .option _ => true
  | _ => false

inductive Typed where
  | byte (n : Int8)
  | short (n : Int16)
  | int (n : Int32)
  | long (n : Int64)
  | float (x : Binary32)
  | double (x : Binary64)
  | decimal (d : Decimal)
  | bool (b : Bool)
  | char (c : Char)
  | string (s : String)
  | value (v : Value)
  | node (e : Element)
  | option (t : Option Typed)
  | list (ts : List Typed)
  | map (ts : List (String × Typed))
  deriving Inhabited

namespace Value

def textError (v : Value) (t : Target) : CoercionError := ⟨v.text, t.text⟩

def shownError (v : Value) (t : Target) : CoercionError := ⟨v.display, t.text⟩

/-- The low bits of a whole number, or the whole number that the text denotes. -/
def toWord (t : Target) (bits : Nat) (v : Value) : Except CoercionError Int :=
  let ofText : Except CoercionError Int :=
    match readWord? bits (trimChars v.text.toList) with
    | some n => .ok n
    | none => .error (v.textError t)
  match v with
  | .number n => if n.isIntegral then .ok n.toInt64.toInt else ofText
  | _ => ofText

def toInt8 (v : Value) : Except CoercionError Int8 := (v.toWord .byte 8).map Int8.ofInt

def toInt16 (v : Value) : Except CoercionError Int16 := (v.toWord .short 16).map Int16.ofInt

def toInt32 (v : Value) : Except CoercionError Int32 := (v.toWord .int 32).map Int32.ofInt

def toInt64 (v : Value) : Except CoercionError Int64 := (v.toWord .long 64).map Int64.ofInt

def toBinary32 (v : Value) : Except CoercionError Binary32 :=
  match v with
  | .number (.float x) => .ok x
  | .number n => .ok (n.toBinary64.convert .single)
  | _ =>
    match Binary.read? (trim v.text) with
    | some x => .ok x
    | none => .error (v.textError .float)

def toBinary64 (v : Value) : Except CoercionError Binary64 :=
  match v with
  | .number n => .ok n.toBinary64
  | _ =>
    match Binary.read? (trim v.text) with
    | some x => .ok x
    | none => .error (v.textError .double)

def toDecimal (v : Value) : Except CoercionError Decimal :=
  match v with
  | .number n =>
    match n.toDecimal? with
    | some d => .ok d
    | none => .error (v.shownError .decimal)
  | _ =>
    match Decimal.read? (trim v.text) with
    | some d => .ok d
    | none => .error (v.textError .decimal)

/-- A boolean is itself; anything else is true when its text is `true` in any case. -/
def toBool (v : Value) : Bool :=
  match v with
  | .bool b => b
  | _ => v.text.toList.map Char.toLower == "true".toList

def toChar (v : Value) : Except CoercionError Char :=
  match v.text.toList with
  | [c] => .ok c
  | _ => .error (v.textError .char)

def toElement (v : Value) : Except CoercionError Element :=
  match v with
  | .node e => .ok e
  | .list [.node e] => .ok e
  | _ => .error (v.shownError .node)

def toEntries (v : Value) (t : Target) : Except CoercionError (List (String × Value)) :=
  match v with
  | .map m => .ok m
  | .node e => .ok (e.attributes.map fun p => (p.1, .string p.2))
  | _ => .error (v.shownError (.map t))

/-- A value as a type; null is only special where the type accepts it. -/
def convert : Target → Value → Except CoercionError Typed
  | .byte, v => v.toInt8.map .byte
  | .short, v => v.toInt16.map .short
  | .int, v => v.toInt32.map .int
  | .long, v => v.toInt64.map .long
  | .float, v => v.toBinary32.map .float
  | .double, v => v.toBinary64.map .double
  | .decimal, v => v.toDecimal.map .decimal
  | .bool, v => .ok (.bool v.toBool)
  | .char, v => v.toChar.map .char
  | .string, v => .ok (.string v.display)
  | .value, v => .ok (.value v)
  | .node, v => v.toElement.map .node
  | .option t, v =>
    if v.isNull then .ok (.option none) else (convert t v).map fun r => .option (some r)
  | .list t, v => (v.items.mapM (convert t)).map .list
  | .map t, v => do
    let entries ← v.toEntries t
    let typed ← entries.mapM fun p => (convert t p.2).map fun r => (p.1, r)
    .ok (.map typed)

end Value
end DocPath
