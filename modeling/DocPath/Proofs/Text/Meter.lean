import DocPath.Path.Literal
import Mathlib.Algebra.GroupWithZero.Nat

/-!
A meter that runs over path text and weighs the groups in parentheses that segments follow. It
keeps the weight of the innermost open bracket and of the brackets around it; quoted text opens
and closes nothing. A comma starts the weight of the innermost bracket again, so that a group of
arguments weighs as much as its last one.
-/

namespace DocPath

open Reader

inductive Mode where
  | plain
  | quoted (q : Quote)
  | escaped (q : Quote)
  deriving DecidableEq, Repr

/-- A state of the meter. -/
structure Meter where
  mode : Mode
  /-- The weight of the innermost open bracket so far. -/
  top : Nat
  /-- The weights of the brackets around it. -/
  below : List Nat
  /-- The weight of the group that was just closed. -/
  pending : Nat
  /-- The weight of all groups that a segment follows. -/
  total : Nat

/-- What a character weighs: the signs of operators and joints, the letter that tells membership
and the one that starts a code point. -/
def sign (c : Char) : Nat :=
  if c = 'i' || c = 'u' || c = '+' || c = '-' || c = '*' || c = '/' || c = '%' || c = '<' ||
    c = '>' || c = '=' || c = '!' || c = '&' || c = '|' || c = '?' || c = '.' then 1 else 0

def signs (cs : List Char) : Nat := (cs.map sign).sum

def isFree (c : Char) : Bool :=
  !(c = '(' || c = '{' || c = '[' || c = ')' || c = ']' || c = '}' || c = ',' || c = '\'' ||
    c = '"')

namespace Meter

def start : Meter := ⟨.plain, 0, [], 0, 0⟩

def enter (m : Meter) : Meter := { m with top := 0, below := m.top :: m.below, pending := 0 }

/-- Closes a bracket whose content weighs nothing outside. -/
def leave (m : Meter) : Meter :=
  match m.below with
  | a :: bs => { m with top := a, below := bs, pending := 0 }
  | [] => { m with pending := 0 }

/-- Closes a group, which weighs as much as its content. -/
def close (m : Meter) : Meter :=
  match m.below with
  | a :: bs => { m with top := a + m.top, below := bs, pending := m.top }
  | [] => { m with pending := m.top }

/-- A segment follows what was just closed. -/
def settle (m : Meter) : Meter := { m with pending := 0, total := m.total + m.pending }

def weigh (m : Meter) (n : Nat) : Meter := { m with top := m.top + n }

def forget (m : Meter) : Meter := { m with pending := 0 }

def step (m : Meter) (c : Char) : Meter :=
  match m.mode with
  | .escaped q => { m.weigh (sign c) with mode := .quoted q }
  | .quoted q =>
    if c = q.char then { m with mode := .plain }
    else if c = '\\' then { m with mode := .escaped q }
    else m.weigh (sign c)
  | .plain =>
    if c = '(' || c = '{' then m.enter
    else if c = '[' then (m.settle.weigh 1).enter
    else if c = ')' then m.close
    else if c = ']' || c = '}' then m.leave
    else if c = ',' then { m.forget with top := 0 }
    else if c = '\'' then { m.forget with mode := .quoted .single }
    else if c = '"' then { m.forget with mode := .quoted .double }
    else if c = '.' || c = '*' || c = '?' then m.settle.weigh 1
    else m.forget.weigh (sign c)

def run (m : Meter) (cs : List Char) : Meter := cs.foldl step m

@[simp] theorem run_nil (m : Meter) : m.run [] = m := rfl

@[simp] theorem run_cons (m : Meter) (c : Char) (cs : List Char) :
    m.run (c :: cs) = (m.step c).run cs := rfl

section
variable {m : Meter}

theorem step_paren (h : m.mode = .plain) : m.step '(' = m.enter := by
  simp [step, h]

theorem step_brace (h : m.mode = .plain) : m.step '{' = m.enter := by
  simp [step, h]

theorem step_square (h : m.mode = .plain) : m.step '[' = (m.settle.weigh 1).enter := by
  simp [step, h]

theorem step_closeParen (h : m.mode = .plain) : m.step ')' = m.close := by
  simp [step, h]

theorem step_closeBrace (h : m.mode = .plain) : m.step '}' = m.leave := by
  simp [step, h]

theorem step_closeSquare (h : m.mode = .plain) : m.step ']' = m.leave := by
  simp [step, h]

theorem step_comma (h : m.mode = .plain) : m.step ',' = { m.forget with top := 0 } := by
  simp [step, h]

theorem step_joint {c : Char} (h : m.mode = .plain) (joint : c = '.' ∨ c = '*' ∨ c = '?') :
    m.step c = m.settle.weigh 1 := by
  rcases joint with rfl | rfl | rfl <;> simp [step, h]

theorem step_apart {c : Char} (h : m.mode = .plain) (free : isFree c)
    (apart : ¬ (c = '.' ∨ c = '*' ∨ c = '?')) : m.step c = m.forget.weigh (sign c) := by
  simp only [isFree, Bool.not_eq_true', Bool.or_eq_false_iff, decide_eq_false_iff_not] at free
  simp [step, h, free, apart, or_assoc]

theorem step_open {q : Quote} (h : m.mode = .plain) :
    m.step q.char = { m.forget with mode := .quoted q } := by
  cases q <;> simp [step, h, Quote.char]

theorem step_quoted {q : Quote} {c : Char} (h : m.mode = .quoted q) (quote : c ≠ q.char)
    (slash : c ≠ '\\') : m.step c = m.weigh (sign c) := by
  simp [step, h, quote, slash]

theorem step_close {q : Quote} (h : m.mode = .quoted q) :
    m.step q.char = { m with mode := .plain } := by
  simp [step, h]

end

theorem run_append (m : Meter) (cs ds : List Char) : m.run (cs ++ ds) = (m.run cs).run ds := by
  simp only [run, List.foldl_append]

section
variable {m : Meter} {cs : List Char}

theorem run_group (outside : m.mode = .plain) (inside : (m.enter.run cs).mode = .plain) :
    m.run ('(' :: (cs ++ [')'])) = (m.enter.run cs).close := by
  rw [run_cons, step_paren outside, run_append, run_cons, step_closeParen inside, run_nil]

theorem run_square (outside : m.mode = .plain)
    (inside : ((m.settle.weigh 1).enter.run cs).mode = .plain) :
    m.run ('[' :: (cs ++ [']'])) = ((m.settle.weigh 1).enter.run cs).leave := by
  rw [run_cons, step_square outside, run_append, run_cons, step_closeSquare inside, run_nil]

theorem run_brace (outside : m.mode = .plain) (inside : (m.enter.run cs).mode = .plain) :
    m.run ('{' :: (cs ++ ['}'])) = (m.enter.run cs).leave := by
  rw [run_cons, step_brace outside, run_append, run_cons, step_closeBrace inside, run_nil]

end

end Meter

theorem signs_append (cs ds : List Char) : signs (cs ++ ds) = signs cs + signs ds := by
  simp only [signs, List.map_append, List.sum_append]

@[simp] theorem signs_cons (c : Char) (cs : List Char) :
    signs (c :: cs) = sign c + signs cs := by
  simp only [signs, List.map_cons, List.sum_cons]

end DocPath
