import DocPath.Regex.Pattern

/-!
Reading regular expressions. Flags hold to the end of the group in which they are set; a group
nests at most 250 deep, and a pattern that grows too large is refused. There are no references
back to groups and no conditions on the surrounding text other than boundaries.
-/

namespace DocPath.Regex

open scoped NatPower

structure Flags where
  ignoreCase : Bool := false
  multiLine : Bool := false
  dotAll : Bool := false
  crlf : Bool := false
  unicode : Bool := true
  verbose : Bool := false

inductive Escape where
  | literal (c : Char)
  | set (s : CharSet) (negated : Bool)
  | assertion (a : Assertion)

abbrev Scan (α : Type) := List Char → Option (α × List Char)

def skipSpace (verbose : Bool) (cs : List Char) : List Char :=
  if verbose then go cs.length cs else cs
where
  go : Nat → List Char → List Char
    | 0, cs => cs
    | n + 1, cs =>
      match cs with
      | c :: rest =>
        if isSpace c then go n rest
        else if c = '#' then go n ((rest.dropWhile (· != '\n')).drop 1)
        else cs
      | [] => []

def hexDigit? (c : Char) : Option Nat :=
  if isDigit c then some (c.toNat - 48)
  else if 97 ≤ c.toNat && c.toNat ≤ 102 then some (c.toNat - 87)
  else if 65 ≤ c.toNat && c.toNat ≤ 70 then some (c.toNat - 55)
  else none

def hexChar? (ds : List Char) : Option Char :=
  if ds.isEmpty || ds.length > 8 then none
  else
    (ds.mapM hexDigit?).bind fun vs =>
      let n := vs.foldl (fun n v => 16 * n + v) 0
      if h : n.isValidChar then some (Char.ofNatAux n h) else none

def hexEscape (count : Nat) : Scan Char
  | '\x7b' :: rest =>
    match rest.dropWhile (· != '\x7d') with
    | _ :: after => (hexChar? (rest.takeWhile (· != '\x7d'))).map fun c => (c, after)
    | [] => none
  | cs =>
    if cs.length < count then none
    else (hexChar? (cs.take count)).map fun c => (c, cs.drop count)

/-- Where an equals sign or a colon divides a property from its value, and whether the value is
the one that it differs from. -/
def splitProperty (cs : List Char) : Option (List Char × Bool × List Char) :=
  let isMark (c : Char) : Bool := c = '=' || c = ':'
  match cs.dropWhile (!isMark ·) with
  | mark :: value =>
    let name := cs.takeWhile (!isMark ·)
    if name.getLast? = some '!' && mark = '=' then some (name.dropLast, true, value)
    else some (name, false, value)
  | [] => none

def namedProperty? (cs : List Char) : Option (CharSet × Bool) :=
  match splitProperty cs with
  | some (name, unequal, value) =>
    (propertyValue? (canonicalName name) (canonicalName value)).map fun s => (s, unequal)
  | none => (property? (canonicalName cs)).map fun s => (s, false)

def propertyEscape (negated : Bool) : Scan (CharSet × Bool)
  | '\x7b' :: rest =>
    match rest.dropWhile (· != '\x7d') with
    | _ :: after =>
      (namedProperty? (rest.takeWhile (· != '\x7d'))).map fun p => ((p.1, p.2 != negated), after)
    | [] => none
  | c :: rest => (namedProperty? [c]).map fun p => ((p.1, p.2 != negated), rest)
  | [] => none

def isMeta (c : Char) : Bool := "\\.+*?()|[]\x7b\x7d^$#&-~".toList.contains c

def isEscapable (c : Char) : Bool :=
  isMeta c || (c.toNat < 128 && !isAsciiLetter c && !isDigit c && c != '<' && c != '>')

def boundary (ascii : Bool) (cs : List Char) : Option (Assertion × List Char) :=
  let plain := some (Assertion.wordBoundary ascii, cs)
  match cs with
  | '\x7b' :: rest =>
    let isNameChar (c : Char) : Bool := isAsciiLetter c || c = '-'
    match rest with
    | c :: _ =>
      if isNameChar c then
        match rest.dropWhile isNameChar with
        | '\x7d' :: after =>
          match String.ofList (rest.takeWhile isNameChar) with
          | "start" => some (.wordStart ascii, after)
          | "end" => some (.wordEnd ascii, after)
          | "start-half" => some (.wordStartHalf ascii, after)
          | "end-half" => some (.wordEndHalf ascii, after)
          | _ => none
        | _ => none
      else plain
    | [] => none
  | _ => plain

def escape (flags : Flags) : Scan Escape
  | [] => none
  | c :: rest =>
    let ascii := !flags.unicode
    let shorthand (s asciiSet : CharSet) (negated : Bool) : Option (Escape × List Char) :=
      some (.set (if ascii then asciiSet else s) negated, rest)
    let digits := CharSet.ofRanges [('0', '9')]
    let spaces := CharSet.union (.range 9 13) (.range 32 32)
    match c with
    | 'x' =>
      let isByte (c : Char) : Bool := ascii && rest.head? != some '\x7b' && 128 ≤ c.toNat
      (hexEscape 2 rest).bind fun p => if isByte p.1 then none else some (.literal p.1, p.2)
    | 'u' => (hexEscape 4 rest).map fun p => (.literal p.1, p.2)
    | 'U' => (hexEscape 8 rest).map fun p => (.literal p.1, p.2)
    | 'p' | 'P' =>
      if ascii then none
      else (propertyEscape (c == 'P') rest).map fun p => (.set p.1.1 p.1.2, p.2)
    | 'd' => shorthand digitSet digits false
    | 'D' => shorthand digitSet digits true
    | 's' => shorthand spaceSet spaces false
    | 'S' => shorthand spaceSet spaces true
    | 'w' => shorthand wordSet asciiWordSet false
    | 'W' => shorthand wordSet asciiWordSet true
    | 'a' => some (.literal '\x07', rest)
    | 'f' => some (.literal '\x0c', rest)
    | 't' => some (.literal '\t', rest)
    | 'n' => some (.literal '\n', rest)
    | 'r' => some (.literal '\r', rest)
    | 'v' => some (.literal '\x0b', rest)
    | 'A' => some (.assertion .startOfText, rest)
    | 'z' => some (.assertion .endOfText, rest)
    | 'b' => (boundary ascii rest).map fun p => (.assertion p.1, p.2)
    | 'B' => some (.assertion (.notWordBoundary ascii), rest)
    | '<' => some (.assertion (.wordStart ascii), rest)
    | '>' => some (.assertion (.wordEnd ascii), rest)
    | c => if isEscapable c then some (.literal c, rest) else none

/-- A set with the variants of its characters where case does not matter; without Unicode only
the characters below 128 have variants, and among themselves. -/
def Flags.fold (flags : Flags) (s : CharSet) : CharSet :=
  let ascii := CharSet.range 0 127
  if !flags.ignoreCase then s
  else if flags.unicode then .folded s
  else .union s (.inter (.folded (.inter s ascii)) ascii)

def negateIf (negated : Bool) (s : CharSet) : CharSet := if negated then .complement s else s

/-- Whether a character may stand in a set; without Unicode a set holds bytes. -/
def Flags.allows (flags : Flags) (c : Char) : Bool := flags.unicode || c.toNat < 128

/-- The set of an escape; a negated set of bytes is no set of characters. -/
def escapeSet? (flags : Flags) : Escape → Option CharSet
  | .literal c => if flags.allows c then some (.single c) else none
  | .set s negated =>
    if negated && !flags.unicode then none else some (negateIf negated s)
  | .assertion _ => none

def setItem (flags : Flags) : Scan Escape
  | '\\' :: rest => escape flags rest
  | c :: rest => some (.literal c, rest)
  | [] => none

def setRange (flags : Flags) (cs : List Char) : Option (CharSet × List Char) :=
  match setItem flags cs with
  | none => none
  | some (first, rest) =>
    let rest := skipSpace flags.verbose rest
    let alone := (escapeSet? flags first).map fun s => (s, rest)
    match rest with
    | [] => none
    | '-' :: after =>
      match skipSpace flags.verbose after with
      | ']' :: _ | '-' :: _ => alone
      | [] => none
      | after =>
        match first, setItem flags after with
        | .literal a, some (.literal b, rest) =>
          if a.toNat ≤ b.toNat && flags.allows b then some (.range a.toNat b.toNat, rest)
          else none
        | _, _ => none
    | _ => alone

def asciiClass (cs : List Char) : Option ((CharSet × Bool) × List Char) :=
  match cs with
  | '[' :: ':' :: rest =>
    let (negated, rest) := match rest with
      | '^' :: r => (true, r)
      | r => (false, r)
    let name := rest.takeWhile (· != ':')
    match rest.dropWhile (· != ':') with
    | ':' :: ']' :: after =>
      (asciiClass? (String.ofList name)).map fun s => ((s, negated), after)
    | _ => none
  | _ => none

inductive SetOperator where
  | inter
  | diff
  | exclusive

def applySetOperator (flags : Flags) (pending : Option (SetOperator × CharSet)) (s : CharSet) :
    CharSet :=
  match pending with
  | none => s
  | some (op, left) =>
    let left := flags.fold left
    let right := flags.fold s
    match op with
    | .inter => .inter left right
    | .diff => .diff left right
    | .exclusive => .exclusive left right

def setOperator : Scan SetOperator
  | '&' :: '&' :: rest => some (.inter, rest)
  | '-' :: '-' :: rest => some (.diff, rest)
  | '~' :: '~' :: rest => some (.exclusive, rest)
  | _ => none

/-- The items of a bracketed set up to its closing bracket.
`items` are those since the last operator, and `pending` is the operator with what stands before
it. -/
def setBody (nested : Scan CharSet) (flags : Flags) :
    Nat → List CharSet → Option (SetOperator × CharSet) → Scan CharSet
  | 0, _, _, _ => none
  | n + 1, items, pending, cs =>
    let soFar := applySetOperator flags pending (.unionAll items.reverse)
    match skipSpace flags.verbose cs with
    | [] => none
    | ']' :: rest => some (soFar, rest)
    | '[' :: rest =>
      match asciiClass ('[' :: rest) with
      | some ((s, negated), after) =>
        if negated && !flags.unicode then none
        else setBody nested flags n (negateIf negated (flags.fold s) :: items) pending after
      | none =>
        match nested rest with
        | some (s, after) => setBody nested flags n (s :: items) pending after
        | none => none
    | cs =>
      match setOperator cs with
      | some (op, rest) => setBody nested flags n [] (some (op, soFar)) rest
      | none =>
        match setRange flags cs with
        | some (s, rest) => setBody nested flags n (s :: items) pending rest
        | none => none

/-- A bracketed set after its opening bracket, nested less than `depth` deep. -/
def bracketed (flags : Flags) (n : Nat) : Nat → Scan CharSet
  | 0, _ => none
  | depth + 1, cs =>
    let cs := skipSpace flags.verbose cs
    let (negated, cs) := match cs with
      | '^' :: rest => (true, skipSpace flags.verbose rest)
      | rest => (false, rest)
    let hyphens := cs.takeWhile (· = '-')
    let cs := cs.dropWhile (· = '-')
    let items := hyphens.map CharSet.single
    let (items, cs) := match items, cs with
      | [], ']' :: rest => ([CharSet.single ']'], rest)
      | items, rest => (items, rest)
    match setBody (bracketed flags n depth) flags n items none cs with
    | some (s, rest) =>
      if negated && !flags.unicode then none
      else some (negateIf negated (flags.fold s), rest)
    | none => none

def countDigits (cs : List Char) : Option (Nat × List Char) :=
  let cs := cs.dropWhile isSpace
  let ds := cs.takeWhile isDigit
  let n := numeral ds
  if ds.isEmpty || 2 ^ (32 : Nat) ≤ n then none
  else some (n, (cs.dropWhile isDigit).dropWhile isSpace)

def countedRepetition (cs : List Char) : Option ((Nat × Option Nat) × List Char) :=
  match countDigits cs with
  | none => none
  | some (least, '\x7d' :: rest) => some ((least, some least), rest)
  | some (least, ',' :: rest) =>
    match rest.dropWhile isSpace with
    | '\x7d' :: rest => some ((least, none), rest)
    | rest =>
      match countDigits rest with
      | some (most, '\x7d' :: rest) =>
        if least ≤ most then some ((least, some most), rest) else none
      | _ => none
  | some _ => none

/-- A repetition operator; a question mark after it changes nothing here. -/
def repetition (cs : List Char) : Option ((Nat × Option Nat) × List Char) :=
  let lazy (p : (Nat × Option Nat) × List Char) : (Nat × Option Nat) × List Char :=
    match p.2 with
    | '?' :: rest => (p.1, rest)
    | _ => p
  match cs with
  | '*' :: rest => some (lazy ((0, none), rest))
  | '+' :: rest => some (lazy ((1, none), rest))
  | '?' :: rest => some (lazy ((0, some 1), rest))
  | '\x7b' :: rest => (countedRepetition rest).map lazy
  | _ => none

def isRepetitionStart (c : Char) : Bool := c = '*' || c = '+' || c = '?' || c = '\x7b'

def setFlag (flags : Flags) (c : Char) (on : Bool) : Option Flags :=
  match c with
  | 'i' => some { flags with ignoreCase := on }
  | 'm' => some { flags with multiLine := on }
  | 's' => some { flags with dotAll := on }
  | 'R' => some { flags with crlf := on }
  | 'u' => some { flags with unicode := on }
  | 'x' => some { flags with verbose := on }
  | 'U' => some flags
  | _ => none

def flagList (flags : Flags) (seen : List Char) (negated : Bool) (pending : Bool) :
    List Char → Option (Flags × List Char)
  | [] => none
  | c :: rest =>
    if c = ':' || c = ')' then if pending then none else some (flags, c :: rest)
    else if c = '-' then if negated then none else flagList flags seen true true rest
    else if seen.contains c then none
    else
      match setFlag flags c (!negated) with
      | some flags => flagList flags (c :: seen) negated false rest
      | none => none

def groupName (cs : List Char) : Option (String × List Char) :=
  let name := cs.takeWhile (· != '>')
  match name, cs.dropWhile (· != '>') with
  | c :: more, _ :: rest =>
    let isRest (c : Char) : Bool :=
      c = '_' || c = '.' || c = '[' || c = ']' || isAlphanumeric c
    if (c = '_' || isAlphabetic c) && more.all isRest then some (String.ofList name, rest) else none
  | _, _ => none

/-- A reading in progress: the alternatives before the current one, the parts of the current one
with whether they can be repeated, and the names of groups. -/
structure Progress where
  flags : Flags
  alternatives : List Pattern
  parts : List (Pattern × Bool)
  names : List String

def Progress.close (p : Progress) : Pattern :=
  p.parts.foldl (fun rest q => .concat q.1 rest) .empty

def Progress.finish (p : Progress) : Pattern :=
  p.alternatives.foldl (fun rest q => .either q rest) p.close

def Progress.push (p : Progress) (q : Pattern) : Progress :=
  { p with parts := (q, true) :: p.parts }

def literalPattern (flags : Flags) (c : Char) : Pattern :=
  .set (flags.fold (.single c))

def dotSet (flags : Flags) : CharSet :=
  if flags.dotAll then .any
  else if flags.crlf then .complement (.union (.single '\r') (.single '\n'))
  else .complement (.single '\n')

def escapePattern? (flags : Flags) : Escape → Option Pattern
  | .literal c => some (literalPattern flags c)
  | .assertion a => some (.assertion a)
  | e => (escapeSet? flags e).map .set

inductive GroupStart where
  | settings (flags : Flags)
  | pattern (flags : Flags) (name : Option String)

def groupStart (flags : Flags) (cs : List Char) : Option (GroupStart × List Char) :=
  match skipSpace flags.verbose cs with
  | '?' :: '=' :: _ | '?' :: '!' :: _ | '?' :: '<' :: '=' :: _ | '?' :: '<' :: '!' :: _ => none
  | '?' :: 'P' :: '<' :: rest | '?' :: '<' :: rest =>
    (groupName rest).map fun p => (.pattern flags (some p.1), p.2)
  | '?' :: rest =>
    match flagList flags [] false false rest with
    | some (inner, ':' :: after) => some (.pattern inner none, after)
    | some (inner, ')' :: after) =>
      if rest.head? = some ')' then none else some (.settings inner, after)
    | _ => none
  | rest => some (.pattern flags none, rest)

def sequence (nested : Flags → List String → Scan (Pattern × List String)) (n : Nat) :
    Nat → Progress → Scan Progress
  | 0, _, _ => none
  | steps + 1, p, cs =>
    match skipSpace p.flags.verbose cs with
    | [] => some (p, [])
    | ')' :: rest => some (p, ')' :: rest)
    | '|' :: rest =>
      sequence nested n steps { p with alternatives := p.close :: p.alternatives, parts := [] } rest
    | '(' :: rest =>
      match groupStart p.flags rest with
      | none => none
      | some (.settings flags, rest) =>
        sequence nested n steps { p with flags := flags, parts := (.empty, false) :: p.parts } rest
      | some (.pattern flags name, rest) =>
        let names := name.toList ++ p.names
        if (name.map p.names.contains).getD false then none
        else
          match nested flags names rest with
          | some ((q, names), ')' :: rest) =>
            sequence nested n steps { (p.push q) with names := names } rest
          | _ => none
    | '[' :: rest =>
      match bracketed p.flags n (min n 250) rest with
      | some (s, rest) => sequence nested n steps (p.push (.set s)) rest
      | none => none
    | '\\' :: rest =>
      match escape p.flags rest with
      | some (e, rest) =>
        match e, escapePattern? p.flags e with
        | .set s negated, some _ =>
          sequence nested n steps
            (p.push (.set (negateIf negated (p.flags.fold s)))) rest
        | _, some q => sequence nested n steps (p.push q) rest
        | _, none => none
      | none => none
    | '.' :: rest =>
      if p.flags.unicode then sequence nested n steps (p.push (.set (dotSet p.flags))) rest
      else none
    | '^' :: rest =>
      let a := if p.flags.multiLine then Assertion.startOfLine p.flags.crlf else .startOfText
      sequence nested n steps (p.push (.assertion a)) rest
    | '$' :: rest =>
      let a := if p.flags.multiLine then Assertion.endOfLine p.flags.crlf else .endOfText
      sequence nested n steps (p.push (.assertion a)) rest
    | c :: rest =>
      if isRepetitionStart c then
        match p.parts, repetition (c :: rest) with
        | (q, true) :: parts, some ((least, most), rest) =>
          sequence nested n steps { p with parts := (.repeated q least most, true) :: parts } rest
        | _, _ => none
      else sequence nested n steps (p.push (literalPattern p.flags c)) rest

def group (n : Nat) : Nat → Flags → List String → Scan (Pattern × List String)
  | 0, _, _, _ => none
  | depth + 1, flags, names, cs =>
    match sequence (group n depth) n (n + 1) ⟨flags, [], [], names⟩ cs with
    | some (p, rest) => some ((p.finish, p.names), rest)
    | none => none

/-- The limit on the bytes of a compiled pattern. `Pattern.size` estimates them, so near the limit
the patterns that are refused may be others. -/
def maxSize : Nat := 10485760

def read? (text : String) : Option Pattern :=
  let cs := text.toList
  match group (cs.length + 1) (min (cs.length + 1) 250) {} [] cs with
  | some ((p, _), []) => if p.size ≤ maxSize then some p else none
  | _ => none

def anchored (pattern : String) : String := "^(?:" ++ pattern ++ ")$"

end DocPath.Regex
