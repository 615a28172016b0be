/-!
Characters and texts: white space and trimming by it, decimal and hexadecimal numerals, reading from
the front of a text, sets of code points, which are kept as ascending ranges and written as
hexadecimal text, and entries under text keys, which are kept in the order in which the keys were
first put in. Each key occurs once in what `insertEntry` builds.
-/

namespace DocPath

namespace NatPower

/- Powers are the ones of numbers, whatever other powers are in scope. -/
attribute [scoped instance (2000)] instPowNat

end NatPower

def isSpace (c : Char) : Bool :=
  let n := c.toNat
  (9 ≤ n && n ≤ 13) || n = 0x20 || n = 0x85 || n = 0xA0 || n = 0x1680 ||
    (0x2000 ≤ n && n ≤ 0x200A) || n = 0x2028 || n = 0x2029 || n = 0x202F || n = 0x205F || n = 0x3000

/-- Space, tab, line feed and carriage return. -/
def isBlank (c : Char) : Bool := c = ' ' || c = '\n' || c = '\t' || c = '\r'

def skipBlanks (cs : List Char) : List Char := cs.dropWhile isBlank

def dropLastBlanks (cs : List Char) : List Char := (cs.reverse.dropWhile isBlank).reverse

def trimChars (cs : List Char) : List Char :=
  (((cs.dropWhile isSpace).reverse).dropWhile isSpace).reverse

def trim (s : String) : String := String.ofList (trimChars s.toList)

def isDigit (c : Char) : Bool := 48 ≤ c.toNat && c.toNat ≤ 57

def digitValue (c : Char) : Nat := c.toNat - 48

def numeral (cs : List Char) : Nat :=
  cs.foldl (fun n c => 10 * n + digitValue c) 0

def decimalDigits (n : Nat) : List Char := Nat.toDigits 10 n

def integerChars (n : Int) : List Char :=
  if n < 0 then '-' :: decimalDigits n.natAbs else decimalDigits n.natAbs

def integerText (n : Int) : String := String.ofList (integerChars n)

@[simp] theorem numeral_nil : numeral [] = 0 := rfl

theorem numeral_concat (cs : List Char) (c : Char) :
    numeral (cs ++ [c]) = 10 * numeral cs + digitValue c := by
  simp [numeral]

abbrev Scan (α : Type) := List Char → Option (α × List Char)

namespace Scan

def word (w : List Char) : Scan Unit := fun cs =>
  if w.isPrefixOf cs then some ((), cs.drop w.length) else none

@[simp] theorem word_append (w rest : List Char) : word w (w ++ rest) = some ((), rest) := by
  simp [word]

end Scan

def hexValue? (c : Char) : Option Nat :=
  if isDigit c then some (c.toNat - 48)
  else if 97 ≤ c.toNat && c.toNat ≤ 102 then some (c.toNat - 87)
  else if 65 ≤ c.toNat && c.toNat ≤ 70 then some (c.toNat - 55)
  else none

/-- The number that a run of hexadecimal digits denotes; a run has at least one digit. -/
def hexNumeral? (cs : List Char) : Option Nat :=
  if cs.isEmpty then none
  else cs.foldlM (fun n c => (hexValue? c).map (16 * n + ·)) 0

def numeral? (cs : List Char) : Option Nat :=
  if cs.isEmpty || !cs.all isDigit then none else some (numeral cs)

def hexNumeral (cs : List Char) : Nat :=
  cs.foldl (fun n c => 16 * n + if c.toNat < 58 then c.toNat - 48 else c.toNat - 87) 0

def wordsOf (text : String) : List String :=
  ((text.splitOn "\n").flatMap (·.splitOn " ")).filter (· != "")

structure CodeSet where
  ranges : Array (Nat × Nat)

namespace CodeSet

/-- A range is one code point or two with a hyphen between them; blanks separate ranges. -/
def ofText (text : String) : CodeSet :=
  ⟨((wordsOf text).map fun r =>
    match r.splitOn "-" with
    | [a, b] => (hexNumeral a.toList, hexNumeral b.toList)
    | _ => (hexNumeral r.toList, hexNumeral r.toList)).toArray⟩

def contains (s : CodeSet) (c : Char) : Bool :=
  s.ranges.any fun r => r.1 ≤ c.toNat && c.toNat ≤ r.2

end CodeSet

/-- Puts a value under a key: an old key keeps its place, a new one goes to the end. -/
def insertEntry {α : Type} (key : String) (value : α) : List (String × α) → List (String × α)
  | [] => [(key, value)]
  | (k, v) :: rest => if k = key then (k, value) :: rest else (k, v) :: insertEntry key value rest

/-- The entries of a list of pairs in which later values replace earlier ones. -/
def entriesOf {α : Type} (pairs : List (String × α)) : List (String × α) :=
  pairs.foldl (fun m p => insertEntry p.1 p.2 m) []

theorem map_fst_insertEntry {α : Type} (key : String) (value : α) (m : List (String × α)) :
    (insertEntry key value m).map Prod.fst =
      if key ∈ m.map Prod.fst then m.map Prod.fst else m.map Prod.fst ++ [key] := by
  induction m with
  | nil => simp [insertEntry]
  | cons p rest ih =>
    obtain ⟨k, v⟩ := p
    by_cases h : k = key
    · simp [insertEntry, h]
    · have h' : key ≠ k := fun e => h e.symm
      simp only [insertEntry, h, if_false, List.map_cons, ih, List.mem_cons, h', false_or]
      split <;> simp

theorem lookup_insertEntry {α : Type} (key : String) (value : α) (m : List (String × α))
    (other : String) :
    (insertEntry key value m).lookup other =
      if other = key then some value else m.lookup other := by
  induction m with
  | nil => simp only [insertEntry, List.lookup_cons]; grind
  | cons p rest ih =>
    obtain ⟨k, v⟩ := p
    by_cases h : k = key <;>
      simp only [insertEntry, h, if_true, if_false, List.lookup_cons, ih] <;> grind

end DocPath
