import DocPath.Regex.Property
import DocPath.Text.Basic

/-!
Sets of characters as patterns write them: ranges and properties under the set operations, and
sets in which the case of a character does not matter.
-/

namespace DocPath.Regex

inductive CharSet where
  | any
  | range (first last : Nat)
  | codes (s : CodeSet)
  | union (a b : CharSet)
  | inter (a b : CharSet)
  | diff (a b : CharSet)
  | complement (a : CharSet)
  /-- The characters of which a variant in case is in the set. -/
  | folded (a : CharSet)

namespace CharSet

def nothing : CharSet := .complement .any

def single (c : Char) : CharSet := .range c.toNat c.toNat

def ofRanges (rs : List (Char × Char)) : CharSet :=
  rs.foldl (fun s r => .union s (.range r.1.toNat r.2.toNat)) nothing

def unionAll (ss : List CharSet) : CharSet := ss.foldl .union nothing

def exclusive (a b : CharSet) : CharSet := .union (.diff a b) (.diff b a)

def foldPairs : List (Nat × Nat) :=
  foldRuns.flatMap fun r =>
    (List.range ((r.last - r.first) / max r.step 1 + 1)).map fun i =>
      (r.first + i * r.step, (((r.first + i * r.step : Nat) : Int) + r.shift).toNat)

def fold (n : Nat) : Nat := (foldPairs.lookup n).getD n

def variants (c : Char) : List Char :=
  if c.toNat < 128 && !isAsciiLetter c then [c]
  else
    let f := fold c.toNat
    Char.ofNat f :: ((foldPairs.filter fun p => p.2 == f).map fun p => Char.ofNat p.1)

def contains : CharSet → Char → Bool
  | .any, _ => true
  | .range a b, c => a ≤ c.toNat && c.toNat ≤ b
  | .codes s, c => s.contains c
  | .union a b, c => a.contains c || b.contains c
  | .inter a b, c => a.contains c && b.contains c
  | .diff a b, c => a.contains c && !b.contains c
  | .complement a, c => !a.contains c
  | .folded a, c => (variants c).any a.contains

/-- The bytes that a set takes as states of an automaton over encoded characters: exact for one
character below 80, an estimate for sets of others. -/
def size : CharSet → Nat
  | .any => 424
  | .range a b => if b < 128 then 32 else if a = b then 96 else 128
  | .codes s => 26 * s.ranges.size + 64
  | .union a b | .inter a b | .diff a b => a.size + b.size
  | .complement a => a.size + 424
  | .folded a => 2 * a.size

end CharSet

/-- The name of a property without case, blanks, hyphens and low lines, and without the word `is`
before it; `isc` is a name of its own. -/
def canonicalName (cs : List Char) : String :=
  let isPrefixed := (cs.take 2).map Char.toLower = ['i', 's']
  let kept := (if isPrefixed then cs.drop 2 else cs).filter fun c =>
    c != '_' && c != '-' && c != ' ' && c.toNat < 128
  let name := String.ofList (kept.map Char.toLower)
  if isPrefixed && name = "c" then "isc" else name

def category? (name : String) : Option CharSet :=
  let one (n : String) : Option CharSet :=
    (categories.find? (·.1.contains n)).map fun p => .codes p.2
  match one name with
  | some s => some s
  | none => (categoryGroups.find? (·.1.contains name)).map fun g => .unionAll (g.2.filterMap one)

def script? (name : String) : Option CharSet :=
  (scripts.find? (·.1.contains name)).map fun p => .codes p.2

def binaryProperty? (name : String) : Option CharSet :=
  (binaryProperties.find? (·.1.contains name)).map fun p => .codes p.2

def property? (name : String) : Option CharSet :=
  if name = "any" then some .any
  else if name = "ascii" then some (.range 0 127)
  else if name = "assigned" then (category? "cn").map .complement
  else (binaryProperty? name).or ((category? name).or (script? name))

def propertyValue? (name value : String) : Option CharSet :=
  if name = "gc" || name = "generalcategory" then
    if value = "any" then some .any
    else if value = "ascii" then some (.range 0 127)
    else if value = "assigned" then (category? "cn").map .complement
    else category? value
  else if name = "sc" || name = "script" || name = "scx" || name = "scriptextensions" then
    script? value
  else none

def digitSet : CharSet := (category? "nd").getD (.range 48 57)

def spaceSet : CharSet := (binaryProperty? "whitespace").getD (.range 32 32)

def wordSet : CharSet :=
  .union (.codes alphabeticSet)
    (.unionAll [(category? "m").getD .nothing, digitSet, (category? "pc").getD .nothing,
      .range 0x200C 0x200D])

def asciiWordSet : CharSet :=
  .ofRanges [('0', '9'), ('A', 'Z'), ('a', 'z'), ('_', '_')]

def isWordChar (ascii : Bool) (c : Char) : Bool :=
  if ascii || c.toNat < 128 then isAsciiLetter c || isDigit c || c = '_'
  else wordSet.contains c

def asciiClass? (name : String) : Option CharSet :=
  match name with
  | "alnum" => some (.ofRanges [('0', '9'), ('A', 'Z'), ('a', 'z')])
  | "alpha" => some (.ofRanges [('A', 'Z'), ('a', 'z')])
  | "ascii" => some (.range 0 127)
  | "blank" => some (.ofRanges [('\t', '\t'), (' ', ' ')])
  | "cntrl" => some (.union (.range 0 31) (.range 127 127))
  | "digit" => some (.ofRanges [('0', '9')])
  | "graph" => some (.ofRanges [('!', '~')])
  | "lower" => some (.ofRanges [('a', 'z')])
  | "print" => some (.ofRanges [(' ', '~')])
  | "punct" => some (.ofRanges [('!', '/'), (':', '@'), ('[', '\x60'), ('\x7b', '~')])
  | "space" => some (.union (.range 9 13) (.range 32 32))
  | "upper" => some (.ofRanges [('A', 'Z')])
  | "word" => some asciiWordSet
  | "xdigit" => some (.ofRanges [('0', '9'), ('A', 'F'), ('a', 'f')])
  | _ => none

end DocPath.Regex
