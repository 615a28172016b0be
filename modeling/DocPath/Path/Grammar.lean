import DocPath.Path.Literal

/-!
The grammar of paths. Operators bind, loosest first: the choices, or, and, equality and
patterns, order and membership, sums, products, prefix operators. Every reader of the grammar
is given the reader of the expressions nested in it and a bound on its repetitions; the knot is
tied by depth in `expression`.
-/

namespace DocPath.Reader

def padded {α : Type} (p : Reader α) : Reader α := do
  blanks
  let a ← p
  blanks
  pure a

def itemList (close : Char) (item : Reader Expr) (n : Nat) : Reader (List Expr) :=
  commit do
    let items ← padded (separated (padded (char ',')) item n)
    let _ ← char close
    pure items

def leftOperators (operator : Reader BinaryOp) (operand : Reader Expr) (n : Nat) : Reader Expr := do
  let first ← operand
  let rest ← many (do
    blanks
    let op ← operator
    blanks
    let right ← commit operand
    pure (op, right)) n
  pure (rest.foldl (fun left p => .binary p.1 left p.2) first)

def operatorWord (w : String) (op : BinaryOp) : Reader BinaryOp := do
  word w
  pure op

/-- A product sign is not followed by a point. -/
def multiplicativeOperator : Reader BinaryOp :=
  (do word "*"; notAhead (char '.'); pure .mul) <|> operatorWord "/" .div <|> operatorWord "%" .rem

/-- A minus sign is not the start of an arrow. -/
def additiveOperator : Reader BinaryOp :=
  operatorWord "+" .add <|> (do word "-"; notAhead (char '>'); pure .sub)

def relationalOperator : Reader BinaryOp :=
  operatorWord "<=" .le <|> operatorWord ">=" .ge <|> operatorWord "<" .lt <|>
    operatorWord ">" .gt <|> (do keyword "in"; pure .isIn)

def equalityOperator : Reader BinaryOp :=
  operatorWord "==~" .matches <|> operatorWord "==" .eq <|> operatorWord "!=" .ne <|>
    operatorWord "=~" .find

def andOperator : Reader BinaryOp := operatorWord "&&" .and

def orOperator : Reader BinaryOp := operatorWord "||" .or

def parameters (n : Nat) : Reader (List String) := do
  let names ← separated (padded (char ',')) binder n
  blanks
  word "->"
  pure names

section
variable (expr : Reader Expr) (n : Nat)

def localDefinition : Reader (String × Expr) := do
  keyword "def"
  blanks1
  let name ← commit binder
  blanks
  let _ ← commit (char '=')
  blanks
  let e ← commit expr
  blanks
  let _ ← optional (char ';')
  pure (name, e)

def closureBody : Reader Closure := do
  let params ← optional (do
    let names ← parameters n
    blanks
    pure names)
  let locals ← many (do
    let l ← localDefinition expr
    blanks
    pure l) n
  let _ ← optional (do keyword "return"; blanks1)
  let body ← expr
  blanks
  let _ ← optional (char ';')
  blanks
  let _ ← char '}'
  pure (.mk (params.getD []) locals body)

def closure : Reader Closure :=
  within .closure do
    let _ ← char '{'
    blanks
    commit (closureBody expr n)

def argument : Reader Expr :=
  (do let c ← closure expr n; pure (.closure c)) <|> expr

def parenthesizedArguments : Reader (List Expr) :=
  within .methodArguments do
    let _ ← char '('
    itemList ')' (argument expr n) n

/-- Arguments in parentheses, a closure after them, or a closure alone. -/
def callArguments : Reader (List Expr) :=
  (do
    let args ← parenthesizedArguments expr n
    let trailing ← optional (do blanks; closure expr n)
    pure (args ++ (trailing.map Expr.closure).toList)) <|>
  (do
    blanks
    let c ← closure expr n
    pure [.closure c])

/-- An identifier that is followed by a parenthesis or a closure. -/
def methodName : Reader String := do
  let name ← identifier
  ahead ((do let _ ← char '('; pure ()) <|> (do blanks; let _ ← char '{'; pure ()))
  pure name

/-- A method call; its name and the number of its arguments are checked. -/
def call : Reader Segment := fun s =>
  match methodName s with
  | .miss e => .miss e
  | .halt e => .halt e
  | .done name rest =>
    match Method.named? name with
    | none => .halt ⟨s, .undefinedMethod name, none⟩
    | some method =>
      match callArguments expr n rest with
      | .miss e => .miss e
      | .halt e => .halt e
      | .done args rest =>
        if method.accepts args.length then .done (.call name args) rest
        else .halt ⟨s, .arity method args.length, none⟩

def rangeSelector : Reader Selector := do
  let first ← index
  blanks
  word ".."
  let exclusive ← optional (char '<')
  blanks
  let last ← commit index
  pure (.range first last exclusive.isNone)

def selector : Reader Selector :=
  rangeSelector <|> (do let i ← index; pure (.single i)) <|>
    (do let k ← stringLiteral; pure (.key k))

def subscript : Reader Segment :=
  within .subscript do
    let _ ← char '['
    blanks
    let s ← commit selector
    commit (do blanks; let _ ← char ']'; pure ())
    pure (.index s)

def segment (hyphens : Bool) : Reader Segment :=
  (do word "**"; pure .descent) <|> (do word "*"; pure .wildcard) <|> call expr n <|>
    (do let k ← stringLiteral; pure (.field k)) <|> (do let k ← bareKey hyphens; pure (.field k))

def subsequent (hyphens : Bool) : Reader Segment :=
  (do
    word "*."
    let s ← commit (within .spreadSegment (segment expr n hyphens))
    pure (.spread s)) <|>
  (do
    word "?." <|> word "."
    commit (within .segment (segment expr n hyphens))) <|>
  subscript

def segments : Reader (List Segment) := do
  let first ← subscript <|> segment expr n true
  let rest ← many (subsequent expr n true) n
  pure (first :: rest)

def literal : Reader Expr :=
  (do let s ← stringLiteral; pure (.literal (.string s))) <|>
  (do let x ← number; pure (.literal (.number x))) <|>
  (do let b ← boolean; pure (.literal (.bool b))) <|>
  (do keyword "null"; pure (.literal .null))

def listLiteral : Reader Expr :=
  within .listLiteral do
    let _ ← char '['
    let items ← itemList ']' expr n
    pure (.list items)

def parenthesized : Reader Expr := do
  let _ ← char '('
  commit do
    let e ← padded expr
    let _ ← char ')'
    pure e

def primary : Reader Expr :=
  parenthesized expr <|> literal <|> listLiteral expr n <|>
    (do let name ← binder; pure (.ident name))

def postfixed : Reader Expr := do
  let base ← primary expr n
  let rest ← many (subsequent expr n false) n
  pure (if rest.isEmpty then base else .path base rest)

def prefixOperator : Reader UnaryOp :=
  (do let _ ← char '!'; notAhead (char '='); pure .not) <|> (do let _ ← char '-'; pure .neg)

/-- An expression after at most `depth` prefix operators. -/
def unary : Nat → Reader Expr
  | 0 => postfixed expr n
  | depth + 1 =>
    (do
      let op ← prefixOperator
      blanks
      let operand ← commit (unary depth)
      pure (.unary op operand)) <|> postfixed expr n

def multiplicative : Reader Expr := leftOperators multiplicativeOperator (unary expr n n) n

def additive : Reader Expr := leftOperators additiveOperator (multiplicative expr n) n

def relational : Reader Expr := leftOperators relationalOperator (additive expr n) n

def equality : Reader Expr := leftOperators equalityOperator (relational expr n) n

def conjunction : Reader Expr := leftOperators andOperator (equality expr n) n

def disjunction : Reader Expr := leftOperators orOperator (conjunction expr n) n

def choice : Reader (Expr → Expr) := do
  blanks
  (do
    word "?:"
    blanks
    let fallback ← commit expr
    pure fun value => .elvis value fallback) <|>
  (do
    let _ ← char '?'
    commit do
      blanks
      let yes ← expr
      blanks
      let _ ← char ':'
      blanks
      let no ← expr
      pure fun condition => .ternary condition yes no)

def expressionWith : Reader Expr := do
  let first ← disjunction expr n
  let tail ← optional (choice expr)
  pure (match tail with
    | some f => f first
    | none => first)

end

/-- Expressions that nest less than `n` deep, in a text of less than `n` characters. -/
def expression : Nat → Reader Expr
  | 0 => fail .unexpected
  | n + 1 => expressionWith (expression n) n

def root : Reader Path :=
  (do
    let _ ← char '$'
    ahead (do blanks; atEnd)
    pure ⟨[]⟩) <|> (do atEnd; pure ⟨[]⟩)

def path (n : Nat) : Reader Path :=
  root <|> (do let ss ← segments (expression n) n; pure ⟨ss⟩)

def wholePath (n : Nat) : Reader Path := do
  let p ← padded (path n)
  atEnd
  pure p

end DocPath.Reader

namespace DocPath

structure SyntaxError where
  position : Nat
  message : String
  deriving DecidableEq, Repr

def SyntaxError.text (e : SyntaxError) : String :=
  "at position " ++ toString e.position ++ ", " ++ e.message

def byteLength : List Char → Nat
  | [] => 0
  | c :: cs => c.utf8Size + byteLength cs

def Fault.toError (whole : List Char) (f : Fault) : SyntaxError :=
  ⟨byteLength whole - byteLength f.rest + 1, f.message⟩

/-- Reads a path; the empty text and `$` address the whole value. -/
def Path.readChars (s : List Char) : Except SyntaxError Path :=
  match Reader.wholePath (s.length + 1) s with
  | .done p _ => .ok p
  | .miss f => .error (f.toError s)
  | .halt f => .error (f.toError s)

def Path.read (text : String) : Except SyntaxError Path := Path.readChars text.toList

end DocPath
