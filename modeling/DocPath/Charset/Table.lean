import DocPath.Charset.Unicode
import DocPath.Text.Basic

/-!
Tables of the characters that two bytes stand for, and the reading of bytes one at a time. A cell of
a table has the number of its two bytes. Tables are written as pieces of text, each with its first
cell: a run of characters is its first and its last one with a hyphen between them, and blanks do
not count.
-/

namespace DocPath.Charset

abbrev CharTable := Array (Option Char)

def span (first last : Nat) : List Nat := List.range' first (last + 1 - first)

def charsOf (codes : List Nat) : List Char :=
  (codes.filter fun n => decide n.isValidChar).map Char.ofNat

def pushRuns (out : Array Char) : List Char → Array Char
  | a :: '-' :: b :: cs => pushRuns (out ++ charsOf (span a.toNat b.toNat)) cs
  | c :: cs => pushRuns (if isBlank c then out else out.push c) cs
  | [] => out

def cellsOf (firstBytes secondBytes : List Nat) : List Nat :=
  firstBytes.flatMap fun a => secondBytes.map (256 * a + ·)

def squareCells : List Nat := cellsOf (span 0xA1 0xFE) (span 0xA1 0xFE)

namespace CharTable

def empty : CharTable := Array.replicate 0x10000 none

def char? (table : CharTable) (a b : Nat) : Option Char := table.getD (256 * a + b) none

def fill (table : CharTable) (cells : List Nat) (chars : List Char) : CharTable :=
  (cells.zip chars).foldl (fun table p => table.setIfInBounds p.1 (some p.2)) table

/-- Pieces of text written into cells; a piece goes on from its first cell. -/
def write (table : CharTable) (cells : List Nat) (pieces : List (Nat × String)) : CharTable :=
  pieces.foldl (fun table piece =>
    table.fill (cells.dropWhile (· < piece.1)) (pushRuns #[] piece.2.toList).toList) table

def absent (table : CharTable) (first last : Nat) : List Char :=
  let held := table.foldl (fun held c? => c?.elim held fun c => held.setIfInBounds c.toNat true)
    (Array.replicate (last + 1) false)
  charsOf ((span first last).filter fun n => !held.getD n false)

end CharTable

/-- Bytes read one at a time: each gives some characters and the next state, and so does the end. -/
def readBytes {σ : Type} (step : σ → Nat → List Char × σ) (atEnd : σ → List Char) :
    σ → List UInt8 → List Char
  | s, [] => atEnd s
  | s, b :: bs =>
    let (cs, next) := step s b.toNat
    cs ++ readBytes step atEnd next bs

/-- A byte that does not go on with what is open: that becomes a replacement character, and the
byte is a character when it is one without others. -/
def interrupt (b : Nat) : List Char :=
  if b < 0x80 then [replacement, Char.ofNat b] else [replacement]

/-- A byte alone or behind an open first byte. A byte for which `single` has no character opens a
pair; a pair without characters is no pair. -/
def pairStep (single : Nat → Option Char) (pair : Nat → Nat → List Char) :
    Option Nat → Nat → List Char × Option Nat
  | none, b =>
    match single b with
    | some c => ([c], none)
    | none => ([], some b)
  | some a, b =>
    match pair a b with
    | [] => (interrupt b, none)
    | cs => (cs, none)

def openAtEnd (open? : Option Nat) : List Char := if open?.isSome then [replacement] else []

def asciiOrFirst (b : Nat) : Option Char :=
  if b < 0x80 then some (Char.ofNat b)
  else if 0x81 ≤ b && b ≤ 0xFE then none
  else some replacement

end DocPath.Charset
