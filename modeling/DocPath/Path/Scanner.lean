import DocPath.Path.Method
import DocPath.Text.Basic

/-!
Readers of path text. A reader takes characters off the front of a text; where it cannot, it
either misses, so that another alternative may be tried, or halts the whole reading. A fault
names the place where the innermost reader gave up.
-/

namespace DocPath

inductive Context where
  | listLiteral
  | methodArguments
  | subscript
  | spreadSegment
  | segment
  | closure
  | stringLiteral
  | escapedCharacter
  | unicodeSequence
  deriving DecidableEq, Repr

def Context.text : Context → String
  | .listLiteral => "list literal"
  | .methodArguments => "method arguments"
  | .subscript => "index"
  | .spreadSegment => "spread segment"
  | .segment => "segment"
  | .closure => "closure"
  | .stringLiteral => "string literal"
  | .escapedCharacter => "escaped character"
  | .unicodeSequence => "unicode sequence"

inductive Cause where
  /-- The next character cannot start or continue what is read. -/
  | unexpected
  /-- Characters are left after a complete path. -/
  | trailing
  | undefinedMethod (name : String)
  | arity (method : Method) (count : Nat)
  | openQuote
  | numberTooLarge
  | numberTooSmall
  | invalidNumber (text : String)
  deriving DecidableEq, Repr

/-- A failure with the text that was left and the innermost thing that was being read. -/
structure Fault where
  rest : List Char
  cause : Cause
  context : Option Context
  deriving DecidableEq, Repr

/-- A cause with a message of its own comes before the context. -/
def Fault.message (f : Fault) : String :=
  let general (text : String) : String :=
    match f.context with
    | some c => "invalid " ++ c.text
    | none => text
  match f.cause with
  | .undefinedMethod name => "method " ++ name ++ "() is not defined"
  | .arity method count => method.arityMessage count
  | .openQuote => "expected an ending quote"
  | .numberTooLarge => "number too large to fit in target type"
  | .numberTooSmall => "number too small to fit in target type"
  | .invalidNumber text => "invalid number literal " ++ text
  | .trailing => general "unexpected trailing characters"
  | .unexpected => general "parser error: Satisfy"

inductive Outcome (α : Type) where
  | done (value : α) (rest : List Char)
  | miss (fault : Fault)
  | halt (fault : Fault)

def Reader (α : Type) := List Char → Outcome α

namespace Reader
variable {α β : Type}

def pure (a : α) : Reader α := fun s => .done a s

def bind (p : Reader α) (f : α → Reader β) : Reader β := fun s =>
  match p s with
  | .done a rest => f a rest
  | .miss e => .miss e
  | .halt e => .halt e

instance : Monad Reader where
  pure := pure
  bind := bind

def fail (cause : Cause) : Reader α := fun s => .miss ⟨s, cause, none⟩

def orElse (p q : Reader α) : Reader α := fun s =>
  match p s with
  | .miss _ => q s
  | r => r

/-- No alternative is tried after a miss of this reader. -/
def commit (p : Reader α) : Reader α := fun s =>
  match p s with
  | .miss e => .halt e
  | r => r

/-- Halts with a cause at the start of this reader where it misses. -/
def commitWith (cause : Cause) (p : Reader α) : Reader α := fun s =>
  match p s with
  | .miss _ => .halt ⟨s, cause, none⟩
  | r => r

def Fault.within (c : Context) (f : Fault) : Fault := { f with context := f.context.or (some c) }

/-- Names what is being read for faults that have no name yet. -/
def within (c : Context) (p : Reader α) : Reader α := fun s =>
  match p s with
  | .miss e => .miss (Fault.within c e)
  | .halt e => .halt (Fault.within c e)
  | r => r

/-- Turns a read value into a result or a miss at the start. -/
def check (p : Reader α) (f : α → Except Cause β) : Reader β := fun s =>
  match p s with
  | .done a rest =>
    match f a with
    | .ok b => .done b rest
    | .error cause => .miss ⟨s, cause, none⟩
  | .miss e => .miss e
  | .halt e => .halt e

def optional (p : Reader α) : Reader (Option α) := fun s =>
  match p s with
  | .done a rest => .done (some a) rest
  | .miss _ => .done none s
  | .halt e => .halt e

def ahead (p : Reader α) : Reader Unit := fun s =>
  match p s with
  | .done _ _ => .done () s
  | .miss e => .miss e
  | .halt e => .halt e

def notAhead (p : Reader α) : Reader Unit := fun s =>
  match p s with
  | .done _ _ => .miss ⟨s, .unexpected, none⟩
  | .miss _ => .done () s
  | .halt e => .halt e

/-- Repeats a reader until it misses, at most `n` times. -/
def many (p : Reader α) : Nat → Reader (List α)
  | 0 => pure []
  | n + 1 => fun s =>
    match p s with
    | .done a rest =>
      match many p n rest with
      | .done as rest => .done (a :: as) rest
      | r => r
    | .miss _ => .done [] s
    | .halt e => .halt e

def manyAfter (separator : Reader β) (item : Reader α) (n : Nat) : Reader (List α) :=
  many (bind separator fun _ => item) n

def separated (separator : Reader β) (item : Reader α) (n : Nat) : Reader (List α) := fun s =>
  match item s with
  | .done a rest =>
    match manyAfter separator item n rest with
    | .done as rest => .done (a :: as) rest
    | r => r
  | .miss _ => .done [] s
  | .halt e => .halt e

def satisfy (p : Char → Bool) : Reader Char
  | c :: cs => if p c then .done c cs else .miss ⟨c :: cs, .unexpected, none⟩
  | [] => .miss ⟨[], .unexpected, none⟩

def char (c : Char) : Reader Char := satisfy (· = c)

def takeWhile (p : Char → Bool) : Reader (List Char) := fun s =>
  .done (s.takeWhile p) (s.dropWhile p)

def takeWhile1 (p : Char → Bool) : Reader (List Char) := fun s =>
  if (s.takeWhile p).isEmpty then .miss ⟨s, .unexpected, none⟩
  else .done (s.takeWhile p) (s.dropWhile p)

/-- The characters of a word; a miss leaves the whole word unread. -/
def word (w : String) : Reader Unit := fun s =>
  if w.toList.isPrefixOf s then .done () (s.drop w.toList.length)
  else .miss ⟨s, .unexpected, none⟩

def blanks : Reader Unit := fun s => .done () (s.dropWhile isBlank)

def blanks1 : Reader Unit := fun s =>
  match s with
  | c :: _ => if isBlank c then .done () (s.dropWhile isBlank) else .miss ⟨s, .unexpected, none⟩
  | [] => .miss ⟨s, .unexpected, none⟩

def atEnd : Reader Unit
  | [] => .done () []
  | s => .miss ⟨s, .trailing, none⟩

instance : HOrElse (Reader α) (Reader α) (Reader α) where
  hOrElse p q := orElse p (q ())

end Reader
end DocPath
