import DocPath.Path.Scanner
import DocPath.Path.Syntax
import DocPath.Text.Letter

/-!
Readers of the words of path text: quoted strings with escapes, numbers, identifiers and keys.
-/

namespace DocPath.Reader

open scoped NatPower

inductive Quote where
  | single
  | double
  deriving DecidableEq, Repr

def Quote.char : Quote → Char
  | .single => '\''
  | .double => '"'

def isHexDigit (c : Char) : Bool :=
  isDigit c || (97 ≤ c.toNat && c.toNat ≤ 102) || (65 ≤ c.toNat && c.toNat ≤ 70)

def hexNumber (cs : List Char) : Nat :=
  cs.foldl (fun n c =>
    16 * n +
      if isDigit c then c.toNat - 48 else if 97 ≤ c.toNat then c.toNat - 87 else c.toNat - 55) 0

def scalar? (n : Nat) : Option Char :=
  if h : n.isValidChar then some (Char.ofNatAux n h) else none

def fourHex : Reader (List Char)
  | a :: b :: c :: d :: rest =>
    if isHexDigit a && isHexDigit b && isHexDigit c && isHexDigit d then .done [a, b, c, d] rest
    else .miss ⟨a :: b :: c :: d :: rest, .unexpected, none⟩
  | s => .miss ⟨s, .unexpected, none⟩

def unicodeSequence : Reader Char :=
  within .unicodeSequence do
    let _ ← char 'u'
    check fourHex fun ds =>
      match scalar? (hexNumber ds) with
      | some c => .ok c
      | none => .error .unexpected

def escapeOf? (q : Quote) (c : Char) : Option Char :=
  if c = 'b' then some '\x08'
  else if c = 't' then some '\t'
  else if c = 'n' then some '\n'
  else if c = 'f' then some '\x0c'
  else if c = 'r' then some '\r'
  else if c = '/' then some '/'
  else if c = '\\' then some '\\'
  else if c = '$' then some '$'
  else if c = q.char then some c
  else none

def simpleEscape (q : Quote) : Reader Char
  | c :: rest =>
    match escapeOf? q c with
    | some e => .done e rest
    | none => .miss ⟨c :: rest, .unexpected, none⟩
  | [] => .miss ⟨[], .unexpected, none⟩

def escapedChar (q : Quote) : Reader Char :=
  within .escapedCharacter do
    let _ ← char '\\'
    simpleEscape q <|> unicodeSequence

def plainChar (q : Quote) : Reader Char := satisfy fun c => c ≠ q.char && c ≠ '\\'

def quotedChar (q : Quote) : Reader Char := plainChar q <|> escapedChar q

def quotedWith (q : Quote) : Reader String := fun s =>
  (do
    let _ ← char q.char
    let cs ← many (quotedChar q) s.length
    let _ ← commitWith .openQuote (char q.char)
    pure (String.ofList cs) : Reader String) s

def stringLiteral : Reader String :=
  within .stringLiteral (quotedWith .single <|> quotedWith .double)

def isIdentChar (c : Char) : Bool := isAlphanumeric c || c = '_' || c = '$'

def isIdentStart (c : Char) : Bool := isAlphabetic c || c = '_' || c = '$'

def isKeyStart (c : Char) : Bool := isIdentChar c || c = '@'

/-- Bare keys of a top level path may hold hyphens. -/
def isKeyChar (hyphens : Bool) (c : Char) : Bool := isIdentChar c || (hyphens && c = '-')

def firstAndRun (start : Char → Bool) (continues : Char → Bool) : Reader String := do
  let c ← satisfy start
  let cs ← takeWhile continues
  pure (String.ofList (c :: cs))

def bareKey (hyphens : Bool) : Reader String := firstAndRun isKeyStart (isKeyChar hyphens)

def identifier : Reader String := firstAndRun isIdentStart isIdentChar

/-- A word that is not the start of a longer identifier. -/
def keyword (w : String) : Reader Unit := do
  word w
  notAhead (satisfy isIdentChar)

def reserved : List String := ["true", "false", "null", "in", "def", "return"]

def binder : Reader String :=
  check identifier fun name => if name ∈ reserved then .error .unexpected else .ok name

def digits1 : Reader (List Char) := takeWhile1 isDigit

def signedDigits : Reader (List Char) := do
  let sign ← optional (char '-')
  let ds ← digits1
  pure (sign.toList ++ ds)

def index : Reader Int64 :=
  check signedDigits fun cs =>
    match readInteger? cs with
    | none => .error .unexpected
    | some n =>
      if (2 ^ (63 : Nat) : Int) ≤ n then .error .numberTooLarge
      else if n < -(2 ^ (63 : Nat) : Int) then .error .numberTooSmall
      else .ok (Int64.ofInt n)

def fraction : Reader (List Char) := do
  let _ ← char '.'
  let ds ← digits1
  pure ('.' :: ds)

def exponent : Reader (List Char) := do
  let e ← satisfy fun c => c = 'e' || c = 'E'
  let sign ← optional (satisfy fun c => c = '-' || c = '+')
  let ds ← digits1
  pure (e :: (sign.toList ++ ds))

/-- The number of a mantissa and an exponent.
With an exponent it is a double, with a fraction a decimal, otherwise a whole number. -/
def numberOf (mantissa : List Char) (exponent? : Option (List Char)) : Except Cause Number :=
  let text := String.ofList (mantissa ++ exponent?.getD [])
  let number? :=
    if exponent?.isSome then (Binary.read? text).map .double
    else if '.' ∈ mantissa then (Decimal.read? text).map .bigDecimal
    else Number.ofIntegerText? text
  match number? with
  | some n => .ok n
  | none => .error (.invalidNumber text)

/-- A number literal, which has no sign. -/
def number : Reader Number :=
  check (do
    let whole ← digits1
    let part ← optional fraction
    let e ← optional exponent
    pure (whole ++ part.getD [], e)) fun p => numberOf p.1 p.2

def boolean : Reader Bool :=
  (do keyword "true"; pure true) <|> (do keyword "false"; pure false)

end DocPath.Reader
