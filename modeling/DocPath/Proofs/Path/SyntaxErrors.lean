import DocPath.Proofs.Number.Literal
import DocPath.Proofs.Path.Faults

/-!
What a syntax error says about the text. Its position is the start of a character or the end of the
text, and a message about a method is about the call at that position.
-/

namespace DocPath

open Reader

theorem Method.paren_notMem_label (m : Method) : '(' ∉ m.label.toList := by
  intro mem
  have letter := List.all_eq_true.mp (isIdentifier_all m.isIdentifier_label) '(' mem
  exact absurd letter (by decide)

theorem notMem_decimalDigits {c : Char} (other : isDigit c = false) (n : Nat) :
    c ∉ decimalDigits n := by
  intro mem
  have digit := List.all_eq_true.mp (all_isDigit_decimalDigits n) c mem
  rw [other] at digit
  cases digit

theorem append_cons_inj {c : Char} {s t u v : List Char} (first : c ∉ s) (second : c ∉ t)
    (same : s ++ c :: u = t ++ c :: v) : s = t ∧ u = v := by
  rcases List.append_eq_append_iff.mp same with ⟨e, rfl, rest⟩ | ⟨e, rfl, rest⟩
  · cases e with
    | nil => exact ⟨(List.append_nil s).symm, (List.cons.inj rest).2⟩
    | cons x e =>
      cases rest
      exact absurd (by simp) second
  · cases e with
    | nil => exact ⟨List.append_nil t, (List.cons.inj rest).2.symm⟩
    | cons x e =>
      cases rest
      exact absurd (by simp) first

theorem decimalDigits_blank {m n : Nat} {s t : List Char}
    (same : decimalDigits m ++ ' ' :: s = decimalDigits n ++ ' ' :: t) : m = n ∧ s = t := by
  have blank (k : Nat) : ' ' ∉ decimalDigits k := notMem_decimalDigits rfl k
  obtain ⟨digits, rest⟩ := append_cons_inj (blank m) (blank n) same
  exact ⟨by rw [← numeral_decimalDigits m, digits, numeral_decimalDigits], rest⟩

def arityChars (least most count : Nat) : List Char :=
  "() accepts ".toList ++ (decimalDigits least ++ (" to ".toList ++ (decimalDigits most ++
    (" argument(s), but ".toList ++ (decimalDigits count ++ " were provided".toList)))))

theorem arityChars_inj {least most count least' most' count' : Nat}
    (same : arityChars least most count = arityChars least' most' count') :
    least = least' ∧ most = most' ∧ count = count' := by
  obtain ⟨first, rest⟩ := decimalDigits_blank (List.append_cancel_left same)
  have upper : "to ".toList ++ _ = "to ".toList ++ _ := rest
  obtain ⟨second, rest⟩ := decimalDigits_blank (List.append_cancel_left upper)
  have given : "argument(s), but ".toList ++ _ = "argument(s), but ".toList ++ _ := rest
  obtain ⟨third, -⟩ := decimalDigits_blank (List.append_cancel_left given)
  exact ⟨first, second, third⟩

theorem count_arityChars (least most count : Nat) :
    (arityChars least most count).count '(' = 2 := by
  have digits (k : Nat) : (decimalDigits k).count '(' = 0 :=
    List.count_eq_zero.mpr (notMem_decimalDigits rfl k)
  have first : "() accepts ".toList.count '(' = 1 := by decide
  have second : " to ".toList.count '(' = 0 := by decide
  have third : " argument(s), but ".toList.count '(' = 1 := by decide
  have fourth : " were provided".toList.count '(' = 0 := by decide
  unfold arityChars
  simp only [List.count_append, digits, first, second, third, fourth]

theorem name_arityChars {name label : List Char} {least most count least' most' count' : Nat}
    (same : name ++ arityChars least most count = label ++ arityChars least' most' count')
    (plain : '(' ∉ label) : name = label := by
  have parens := congrArg (List.count '(') same
  rw [List.count_append, List.count_append, count_arityChars, count_arityChars,
    List.count_eq_zero.mpr plain] at parens
  have plain' : '(' ∉ name := List.count_eq_zero.mp (by omega)
  exact (append_cons_inj plain' plain same).1

theorem arityText_chars (name : String) (least most count : Nat) :
    ("method " ++ name ++ "() accepts " ++ toString least ++ " to " ++ toString most ++
      " argument(s), but " ++ toString count ++ " were provided").toList =
        "method ".toList ++ (name.toList ++ arityChars least most count) := by
  have digits (n : Nat) : (toString n).toList = decimalDigits n := Nat.toList_repr
  unfold arityChars
  simp only [String.toList_append, List.append_assoc, digits]

theorem endings_apart {text : List Char} (provided : " were provided".toList <:+ text)
    (undefined : "() is not defined".toList <:+ text) : False :=
  absurd (List.suffix_of_suffix_length_le provided undefined (by decide)) (by decide)

theorem undefinedText_ends (name : String) :
    "() is not defined".toList <:+ ("method " ++ name ++ "() is not defined").toList := by
  rw [String.toList_append]
  exact List.suffix_append _ _

theorem arityText_ends (name : String) (least most count : Nat) : " were provided".toList <:+
    ("method " ++ name ++ "() accepts " ++ toString least ++ " to " ++ toString most ++
      " argument(s), but " ++ toString count ++ " were provided").toList := by
  rw [String.toList_append]
  exact List.suffix_append _ _

namespace Fault

variable {f : Fault} {name : String}

theorem message_plain (plain : f.cause.isPlain) : f.message.toList.head? ≠ some 'm' := by
  obtain ⟨rest, cause, context⟩ := f
  cases cause with
  | undefinedMethod => cases plain
  | arity => cases plain
  | invalidNumber text => simp [message]
  | unexpected => rcases context with _ | c <;> simp [message]
  | trailing => rcases context with _ | c <;> simp [message]
  | openQuote => simp [message]
  | numberTooLarge => simp [message]
  | numberTooSmall => simp [message]

theorem message_undefined (said : f.message = "method " ++ name ++ "() is not defined") :
    f.cause = .undefinedMethod name := by
  by_cases plain : f.cause.isPlain
  · refine absurd ?_ (message_plain plain)
    rw [said]
    simp
  obtain ⟨rest, cause, context⟩ := f
  cases cause with
  | undefinedMethod label =>
    have chars := congrArg String.toList said
    simp only [message, String.toList_append, List.append_cancel_right_eq,
      List.append_cancel_left_eq, String.toList_inj] at chars
    rw [chars]
  | arity method count =>
    have undefined : "() is not defined".toList <:+
        (message ⟨rest, .arity method count, context⟩).toList := by
      rw [said]
      exact undefinedText_ends name
    exact (endings_apart (arityText_ends _ _ _ _) undefined).elim
  | _ => exact absurd rfl plain

theorem message_arity {least most count : Nat} (said : f.message =
    "method " ++ name ++ "() accepts " ++ toString least ++ " to " ++ toString most ++
      " argument(s), but " ++ toString count ++ " were provided") :
    ∃ m : Method, f.cause = .arity m count ∧ m.label = name ∧ m.minArgs = least ∧
      m.maxArgs = most := by
  by_cases plain : f.cause.isPlain
  · refine absurd ?_ (message_plain plain)
    rw [said, arityText_chars]
    rfl
  obtain ⟨rest, cause, context⟩ := f
  cases cause with
  | undefinedMethod label =>
    have provided : " were provided".toList <:+
        (message ⟨rest, .undefinedMethod label, context⟩).toList := by
      rw [said]
      exact arityText_ends name least most count
    exact (endings_apart provided (undefinedText_ends _)).elim
  | arity method count' =>
    have chars := (arityText_chars method.label method.minArgs method.maxArgs count').symm.trans
      ((congrArg String.toList said).trans (arityText_chars name least most count))
    have same := List.append_cancel_left chars
    have label := name_arityChars same.symm method.paren_notMem_label
    rw [label] at same
    obtain ⟨rfl, rfl, rfl⟩ := arityChars_inj (List.append_cancel_left same)
    exact ⟨method, rfl, (String.toList_inj.mp label).symm, rfl, rfl⟩
  | _ => exact absurd rfl plain

end Fault

theorem byteLength_eq (cs : List Char) : byteLength cs = (String.ofList cs).utf8ByteSize := by
  induction cs with
  | nil => rfl
  | cons c cs ih =>
    rw [byteLength, ih, String.ofList_cons, String.utf8ByteSize_append,
      String.utf8ByteSize_singleton]

theorem Path.fault_of_read {text : String} {e : SyntaxError}
    (rejected : Path.read text = .error e) :
    ∃ f : Fault, f.In text.toList ∧ e = f.toError text.toList := by
  have points := wholePath_points (text.toList.length + 1) text.toList
  unfold Path.read readChars at rejected
  split at rejected
  · cases rejected
  · next f read =>
    cases rejected
    rw [read] at points
    exact ⟨f, points, rfl⟩
  · next f read =>
    cases rejected
    rw [read] at points
    exact ⟨f, points, rfl⟩

/-- The position of a syntax error is a place between the characters of the text, counted in bytes
from one. Where the message is about a method, a call with the name of the message starts there, and
there is no method of that name, or it accepts the numbers of arguments of the message and not the
one that was given. -/
theorem syntax_errors_point {text : String} {e : SyntaxError}
    (rejected : Path.read text = .error e) :
    1 ≤ e.position ∧ e.position ≤ text.utf8ByteSize + 1 ∧
    (String.Pos.Raw.mk (e.position - 1)).IsValid text ∧
    ∃ front rest : String, text = front ++ rest ∧ front.utf8ByteSize = e.position - 1 ∧
      (∀ name : String, e.message = "method " ++ name ++ "() is not defined" →
        StartsCall name rest.toList ∧ Method.named? name = none) ∧
      ∀ (name : String) (least most count : Nat), e.message = "method " ++ name ++ "() accepts " ++
          toString least ++ " to " ++ toString most ++ " argument(s), but " ++ toString count ++
            " were provided" →
        StartsCall name rest.toList ∧ ∃ m, Method.named? name = some m ∧ m.minArgs = least ∧
          m.maxArgs = most ∧ ¬ (least ≤ count ∧ count ≤ most) := by
  obtain ⟨f, inside, rfl⟩ := Path.fault_of_read rejected
  obtain ⟨front, split⟩ := inside.behind
  have whole : text = String.ofList front ++ String.ofList f.rest := by
    rw [← String.ofList_append, split, String.ofList_toList]
  have position : (f.toError text.toList).position = (String.ofList front).utf8ByteSize + 1 := by
    have bytes := congrArg String.utf8ByteSize whole
    rw [String.utf8ByteSize_append] at bytes
    simp only [Fault.toError, byteLength_eq, String.ofList_toList]
    omega
  have bound : (String.ofList front).utf8ByteSize ≤ text.utf8ByteSize := by
    rw [whole, String.utf8ByteSize_append]
    exact Nat.le_add_right _ _
  rw [position, Nat.add_sub_cancel]
  refine ⟨Nat.le_add_left _ _, Nat.succ_le_succ bound,
    String.Pos.Raw.isValid_iff_exists_append.mpr ⟨_, _, whole, rfl⟩, _, _, whole, rfl,
    fun name said => ?_, fun name least most count said => ?_⟩
  · have found := inside.found
    rw [Fault.message_undefined said] at found
    rw [String.toList_ofList]
    exact ⟨found.2, found.1⟩
  · obtain ⟨m, cause, rfl, rfl, rfl⟩ := Fault.message_arity said
    have found := inside.found
    rw [cause] at found
    rw [String.toList_ofList]
    refine ⟨found.2, m, Method.named?_label m, rfl, rfl, fun inside => ?_⟩
    have accepted : m.accepts count = true := by simp [Method.accepts, inside]
    rw [found.1] at accepted
    cases accepted

/-- A call behind a letter of two bytes, with too few arguments. -/
theorem syntax_errors_point_get :
    Path.read "é.get()" =
      .error ⟨4, "method get() accepts 1 to 1 argument(s), but 0 were provided"⟩ ∧
    (String.Pos.Raw.mk 3).IsValid "é.get()" ∧
    ∃ front rest : String, "é.get()" = front ++ rest ∧ front.utf8ByteSize = 3 ∧
      StartsCall "get" rest.toList := by
  have refused : (Path.read "é.get()").map (fun _ => ()) =
      .error ⟨4, "method get() accepts 1 to 1 argument(s), but 0 were provided"⟩ := by
    decide +kernel
  cases read : Path.read "é.get()" with
  | ok p =>
    rw [read] at refused
    cases refused
  | error e =>
    rw [read] at refused
    cases refused
    obtain ⟨-, -, valid, front, rest, text, bytes, -, arity⟩ := syntax_errors_point read
    exact ⟨rfl, valid, front, rest, text, bytes, (arity "get" 1 1 0 rfl).1⟩

end DocPath
