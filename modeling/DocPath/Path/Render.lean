import DocPath.Path.Syntax
import DocPath.Text.Letter

/-!
The text of paths and expressions. Compound operands are put in parentheses; a field name that
is not bare is put in quotes as it is.
-/

namespace DocPath

def UnaryOp.chars : UnaryOp → List Char
  | .not => ['!']
  | .neg => ['-']

def BinaryOp.text : BinaryOp → String
  | .or => "||"
  | .and => "&&"
  | .eq => "=="
  | .ne => "!="
  | .lt => "<"
  | .le => "<="
  | .gt => ">"
  | .ge => ">="
  | .find => "=~"
  | .matches => "==~"
  | .isIn => "in"
  | .add => "+"
  | .sub => "-"
  | .mul => "*"
  | .div => "/"
  | .rem => "%"

def BinaryOp.chars (op : BinaryOp) : List Char := op.text.toList

def singleQuoted (s : String) : List Char := '\'' :: (s.toList ++ ['\''])

def isBare (name : String) : Bool :=
  match name.toList with
  | c :: cs =>
    (isAlphanumeric c || c = '_' || c = '@' || c = '$') &&
      cs.all fun c => isAlphanumeric c || c = '_' || c = '-' || c = '$'
  | [] => false

def Selector.chars : Selector → List Char
  | .single i => '[' :: (integerChars i.toInt ++ [']'])
  | .range a b inclusive =>
    '[' :: (integerChars a.toInt ++ (if inclusive then ['.', '.'] else ['.', '.', '<']) ++
      integerChars b.toInt ++ [']'])
  | .key k => '[' :: (singleQuoted k ++ [']'])

def literalChars : Value → List Char
  | .string s => singleQuoted s
  | v => v.display.toList

def Expr.isCompound : Expr → Bool
  | .unary .. | .binary .. | .ternary .. | .elvis .. => true
  | _ => false

def Segment.isAttached : Segment → Bool
  | .index _ | .spread _ => true
  | _ => false

def parenthesize (b : Bool) (cs : List Char) : List Char :=
  if b then '(' :: (cs ++ [')']) else cs

mutual
def Expr.chars : Expr → List Char
  | .literal v => literalChars v
  | .list items => '[' :: (commaSeparated items ++ [']'])
  | .ident name => name.toList
  | .path base segments => base.chars ++ pointed segments
  | .unary op operand => op.chars ++ parenthesize operand.isCompound operand.chars
  | .binary op left right =>
    parenthesize left.isCompound left.chars ++ ' ' :: (op.chars ++
      ' ' :: parenthesize right.isCompound right.chars)
  | .ternary condition yes no =>
    parenthesize condition.isCompound condition.chars ++ ' ' :: '?' :: ' ' :: (yes.chars ++
      ' ' :: ':' :: ' ' :: no.chars)
  | .elvis value fallback =>
    parenthesize value.isCompound value.chars ++ ' ' :: '?' :: ':' :: ' ' :: fallback.chars
  | .closure c => c.chars
def Closure.chars : Closure → List Char
  | .mk params locals body =>
    '{' :: ' ' :: ((if params.isEmpty then [] else (", ".intercalate params ++ " -> ").toList) ++
      localChars locals ++ body.chars ++ [' ', '}'])
def Segment.chars : Segment → List Char
  | .field name => if isBare name then name.toList else singleQuoted name
  | .index selector => selector.chars
  | .wildcard => ['*']
  | .descent => ['*', '*']
  | .call name args => name.toList ++ '(' :: (commaSeparated args ++ [')'])
  | .spread inner => '*' :: '.' :: inner.chars
def commaSeparated : List Expr → List Char
  | [] => []
  | [e] => e.chars
  | e :: es => e.chars ++ ',' :: ' ' :: commaSeparated es
def localChars : List (String × Expr) → List Char
  | [] => []
  | (name, e) :: ls =>
    'd' :: 'e' :: 'f' :: ' ' :: (name.toList ++ ' ' :: '=' :: ' ' :: (e.chars ++
      ';' :: ' ' :: localChars ls))
/-- Segments after a base, each with the point that it needs. -/
def pointed : List Segment → List Char
  | [] => []
  | s :: ss => (if s.isAttached then s.chars else '.' :: s.chars) ++ pointed ss
end

namespace Path

def chars (p : Path) : List Char :=
  match p.segments with
  | [] => []
  | s :: ss => s.chars ++ pointed ss

def render (p : Path) : String := String.ofList p.chars

end Path

def Segment.text (s : Segment) : String := String.ofList s.chars

def Selector.text (s : Selector) : String := String.ofList s.chars

def Closure.text (c : Closure) : String := String.ofList c.chars

end DocPath
