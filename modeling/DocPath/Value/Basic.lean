import DocPath.Element
import DocPath.Json.Basic
import DocPath.Number.Arithmetic
import DocPath.Text.Basic

/-!
The values that documents hold and expressions compute. The kinds have names for messages;
every value has a text, a truth and a document form.
-/

namespace DocPath

inductive Value where
  | null
  | bool (b : Bool)
  | number (n : Number)
  | string (s : String)
  | list (items : List Value)
  | map (entries : List (String × Value))
  | node (e : Element)
  deriving Inhabited

inductive Kind where
  | null
  | boolean
  | number
  | string
  | list
  | map
  | node
  deriving DecidableEq, Repr

def Kind.text : Kind → String
  | .null => "null"
  | .boolean => "boolean"
  | .number => "number"
  | .string => "string"
  | .list => "list"
  | .map => "map"
  | .node => "node"

namespace Value

def kind : Value → Kind
  | .null => .null
  | .bool _ => .boolean
  | .number _ => .number
  | .string _ => .string
  | .list _ => .list
  | .map _ => .map
  | .node _ => .node

def isNull : Value → Bool
  | .null => true
  | _ => false

def isNode : Value → Bool
  | .node _ => true
  | _ => false

/-- Elements and nonempty lists of elements. -/
def isNodeLike : Value → Bool
  | .node _ => true
  | .list vs => !vs.isEmpty && vs.all isNode
  | _ => false

/-- The items of a list; null has none and anything else is its own only item. -/
def items : Value → List Value
  | .list vs => vs
  | .null => []
  | v => [v]

/-- Null, false, zero and empty texts, lists and maps are false. -/
def truthy : Value → Bool
  | .null => false
  | .bool b => b
  | .number n => n.compare (.int 0) != .eq
  | .string s => !s.isEmpty
  | .list vs => !vs.isEmpty
  | .map m => !m.isEmpty
  | .node _ => true

mutual
def ofJson (policy : NumberPolicy) : Json → Value
  | .null => .null
  | .bool b => .bool b
  | .number t => .number (.ofDocument policy t)
  | .string s => .string s
  | .array js => .list (itemsOfJson policy js)
  | .object fs => .map (entriesOfJson policy fs)
def itemsOfJson (policy : NumberPolicy) : List Json → List Value
  | [] => []
  | j :: js => ofJson policy j :: itemsOfJson policy js
def entriesOfJson (policy : NumberPolicy) : List (String × Json) → List (String × Value)
  | [] => []
  | (k, j) :: fs => (k, ofJson policy j) :: entriesOfJson policy fs
end

mutual
def toJson : Value → Json
  | .null => .null
  | .bool b => .bool b
  | .number n => n.toJson
  | .string s => .string s
  | .list vs => .array (itemsToJson vs)
  | .map m => .object (entriesToJson m)
  | .node e => e.toJson
def itemsToJson : List Value → List Json
  | [] => []
  | v :: vs => v.toJson :: itemsToJson vs
def entriesToJson : List (String × Value) → List (String × Json)
  | [] => []
  | (k, v) :: m => (k, v.toJson) :: entriesToJson m
end

/-- How a value is shown: strings as they are, elements by their text, the rest as documents. -/
def display : Value → String
  | .null => "null"
  | .bool b => if b then "true" else "false"
  | .number n => n.toText
  | .string s => s
  | .node e => e.text
  | v => v.toJson.compact

/-- The text of a value; a list of elements is their joined text. -/
def text (v : Value) : String :=
  match v with
  | .list vs => if v.isNodeLike then String.join (vs.map display) else v.display
  | _ => v.display

def readNumber? (s : String) : Option Number :=
  let t := trim s
  match Number.ofIntegerText? t with
  | some n => some n
  | none =>
    match Decimal.read? t with
    | some d => some (.bigDecimal d)
    | none => (Binary.read? t).map .double

def toNumber? (v : Value) : Option Number :=
  match v with
  | .number n => some n
  | .string s => readNumber? s
  | .node e => readNumber? e.text
  | .list _ => if v.isNodeLike then readNumber? v.text else none
  | _ => none

end Value
end DocPath
