import DocPath.Regex.CharSet

/-!
Regular expressions and the texts that they match. A pattern takes a set of positions in a text
to the set of positions where its matches from there can end; the positions of a set are the
bits of a number.
-/

namespace DocPath.Regex

open scoped NatPower

inductive Assertion where
  | startOfText
  | endOfText
  | startOfLine (crlf : Bool)
  | endOfLine (crlf : Bool)
  | wordBoundary (ascii : Bool)
  | notWordBoundary (ascii : Bool)
  | wordStart (ascii : Bool)
  | wordEnd (ascii : Bool)
  | wordStartHalf (ascii : Bool)
  | wordEndHalf (ascii : Bool)
  deriving DecidableEq, Repr

inductive Pattern where
  | empty
  | set (s : CharSet)
  | assertion (a : Assertion)
  | concat (a b : Pattern)
  | either (a b : Pattern)
  | repeated (p : Pattern) (least : Nat) (most : Option Nat)

def Assertion.holds (a : Assertion) (before after : Option Char) : Bool :=
  let word (ascii : Bool) (c : Option Char) : Bool := (c.map (isWordChar ascii)).getD false
  match a with
  | .startOfText => before.isNone
  | .endOfText => after.isNone
  | .startOfLine crlf =>
    before.isNone || before == some '\n' || (crlf && before == some '\r' && after != some '\n')
  | .endOfLine crlf =>
    if crlf then
      after.isNone || after == some '\r' || (after == some '\n' && before != some '\r')
    else after.isNone || after == some '\n'
  | .wordBoundary ascii => word ascii before != word ascii after
  | .notWordBoundary ascii => word ascii before == word ascii after
  | .wordStart ascii => !word ascii before && word ascii after
  | .wordEnd ascii => word ascii before && !word ascii after
  | .wordStartHalf ascii => !word ascii before
  | .wordEndHalf ascii => !word ascii after

def setMask (s : CharSet) : List Char → Nat
  | [] => 0
  | c :: cs => 2 * setMask s cs + if s.contains c then 1 else 0

def assertionMask (a : Assertion) (before : Option Char) : List Char → Nat
  | [] => if a.holds before none then 1 else 0
  | c :: cs => 2 * assertionMask a (some c) cs + if a.holds before (some c) then 1 else 0

/-- A pattern with its sets and assertions replaced by their positions in one text. -/
inductive Placed where
  | empty
  | step (mask : Nat)
  | stay (mask : Nat)
  | concat (a b : Placed)
  | either (a b : Placed)
  | repeated (p : Placed) (least : Nat) (most : Option Nat)

def Pattern.place (text : List Char) : Pattern → Placed
  | .empty => .empty
  | .set s => .step (setMask s text)
  | .assertion a => .stay (assertionMask a none text)
  | .concat a b => .concat (a.place text) (b.place text)
  | .either a b => .either (a.place text) (b.place text)
  | .repeated p least most => .repeated (p.place text) least most

/-- Applies a function `n` times, or until nothing is left. -/
def iterate (f : Nat → Nat) : Nat → Nat → Nat
  | 0, s => s
  | n + 1, s => if s = 0 then 0 else iterate f n (f s)

/-- Adds what a function reaches, at most `n` times, until nothing is new. -/
def saturate (f : Nat → Nat) : Nat → Nat → Nat
  | 0, s => s
  | n + 1, s =>
    let t := s ||| f s
    if t = s then s else saturate f n t

/-- The positions that matches from the positions in `s` reach; a text has fewer than `n`
characters. -/
def Placed.reach (n : Nat) : Placed → Nat → Nat
  | .empty, s => s
  | .step mask, s => 2 * (s &&& mask)
  | .stay mask, s => s &&& mask
  | .concat a b, s => b.reach n (a.reach n s)
  | .either a b, s => a.reach n s ||| b.reach n s
  | .repeated p least most, s =>
    let start := iterate (p.reach n) least s
    match most with
    | none => saturate (p.reach n) n start
    | some m => saturate (p.reach n) (min (m - least) n) start

def Pattern.isMatch (p : Pattern) (text : List Char) : Bool :=
  (p.place text).reach (text.length + 1) (2 ^ (text.length + 1) - 1) != 0

/-- The bytes that a pattern takes as states of an automaton, at 32 for each state and 4 for each
way on from a choice. A repeated pattern is copied, with a choice before each copy that may be left
out. Groups are not counted. -/
def Pattern.size : Pattern → Nat
  | .empty => 32
  | .set s => s.size
  | .assertion _ => 32
  | .concat a b => a.size + b.size
  | .either a b => a.size + b.size + 40
  | .repeated p least none => p.size * max 1 least + 40
  | .repeated p least (some most) => p.size * most + 40 * (most - least) + 32

end DocPath.Regex
