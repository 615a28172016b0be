import DocPath.Proofs.Document.Agreement
import DocPath.Proofs.Json.RoundTrip

/-!
Whole numbers of documents as words. Whatever representation a whole number was read in, each width
keeps its low bits in two's complement, so reading it as a word never fails.
-/

namespace DocPath

open scoped NatPower

/-- Losing what goes beyond 64 bits at each digit loses the same as at the end. -/
theorem foldl_wrapping (n : Nat) (ds : List Char) :
    ds.foldl (fun bits c => bits * 10 + UInt64.ofNat (digitValue c)) (UInt64.ofNat n) =
      UInt64.ofNat (numeralFrom n ds) := by
  induction ds generalizing n with
  | nil => rfl
  | cons d ds ih =>
    have step : UInt64.ofNat n * 10 + UInt64.ofNat (digitValue d) =
        UInt64.ofNat (10 * n + digitValue d) := by
      rw [UInt64.ofNat_add, UInt64.ofNat_mul, UInt64.mul_comm]
      rfl
    rw [List.foldl_cons, step, ih]
    rfl

theorem Number.foldBits_digits {ds : List Char} (all : ds.all isDigit) :
    Number.foldBits ds = UInt64.ofNat (numeral ds) := by
  have kept : ds.filter isDigit = ds := List.filter_eq_self.mpr (List.all_eq_true.mp all)
  rw [Number.foldBits, kept]
  exact foldl_wrapping 0 ds

namespace Number

theorem lowBits_of_readInteger? {t : String} {z : Int} (reads : readInteger? t.toList = some z) :
    lowBits t = .ofInt z := by
  obtain ⟨all, rfl⟩ := readInteger?_some reads
  have parts : lowBits t =
      (if (unsigned t.toList).1 then -foldBits (unsigned t.toList).2
        else foldBits (unsigned t.toList).2).toInt64 := rfl
  rw [parts, foldBits_digits all]
  split
  · rw [← Int64.neg_ofInt, Int64.ofInt_eq_ofNat]
    rfl
  · exact Int64.ofInt_eq_ofNat.symm

theorem toInt64_of_integer? {n : Number} {z : Int} (whole : n.integer? = some z) :
    n.toInt64 = .ofInt z := by
  have integral := isIntegral_of_integer? whole
  cases n with
  | int n =>
    cases whole
    exact (Int64.ofInt_int32ToInt n).symm
  | long n =>
    cases whole
    exact (Int64.ofInt_toInt n).symm
  | bigInteger d =>
    rw [integer?] at whole
    split at whole
    · next scale =>
      cases whole
      rw [toInt64, Decimal.truncate, Decimal.signed, scale, Nat.pow_zero, Nat.div_one]
    · cases whole
  | exact t => rw [toInt64, if_pos integral, lowBits_of_readInteger? whole]
  | float | double | bigDecimal => cases whole

end Number

theorem IntegerToken.Represents.toInt64 {t : IntegerToken} {n : Number} (form : t.Represents n) :
    n.toInt64 = .ofInt t.value :=
  Number.toInt64_of_integer? form.integer?

inductive Width where
  | byte
  | short
  | int
  | long

namespace Width

def target : Width → Target
  | .byte => .byte
  | .short => .short
  | .int => .int
  | .long => .long

def bits : Width → Nat
  | .byte => 8
  | .short => 16
  | .int => 32
  | .long => 64

/-- The word of a width that has the low bits of a number. -/
def lowBits : Width → Int → Typed
  | .byte, n => .byte (Int8.ofInt n)
  | .short, n => .short (Int16.ofInt n)
  | .int, n => .int (Int32.ofInt n)
  | .long, n => .long (Int64.ofInt n)

end Width

def Typed.word? : Typed → Option Int
  | .byte n => some n.toInt
  | .short n => some n.toInt
  | .int n => some n.toInt
  | .long n => some n.toInt
  | _ => none

theorem Width.word?_lowBits (w : Width) (n : Int) :
    (w.lowBits n).word? = some (n.bmod (2 ^ w.bits)) := by
  cases w with
  | byte => exact congrArg some Int8.toInt_ofInt
  | short => exact congrArg some Int16.toInt_ofInt
  | int => exact congrArg some Int32.toInt_ofInt
  | long => exact congrArg some Int64.toInt_ofInt

theorem Value.toWord_token {t : IntegerToken} {n : Number} (form : t.Represents n)
    (target : Target) (bits : Nat) :
    (Value.number n).toWord target bits = .ok (Int64.ofInt t.value).toInt := by
  simp only [Value.toWord, form.isIntegral, if_true, form.toInt64]

theorem Value.convert_token {t : IntegerToken} {n : Number} (form : t.Represents n) (w : Width) :
    (Value.number n).convert w.target = .ok (w.lowBits t.value) := by
  cases w with
  | byte =>
    simp only [Width.target, Value.convert, Value.toInt8, Value.toWord_token form, Except.map,
      Int8.ofInt_int64ToInt, Int64.toInt8_ofInt, Width.lowBits]
  | short =>
    simp only [Width.target, Value.convert, Value.toInt16, Value.toWord_token form, Except.map,
      Int16.ofInt_int64ToInt, Int64.toInt16_ofInt, Width.lowBits]
  | int =>
    simp only [Width.target, Value.convert, Value.toInt32, Value.toWord_token form, Except.map,
      Int32.ofInt_int64ToInt, Int64.toInt32_ofInt, Width.lowBits]
  | long =>
    simp only [Width.target, Value.convert, Value.toInt64, Value.toWord_token form, Except.map,
      Int64.ofInt_toInt, Width.lowBits]

theorem View.ask_typed {view : View JsonConfig} {d : JsonDocument} {path : String} {v : Value}
    (found : (view.ask (.find path .value) d).1 = .ok (.value v)) (t : Target) :
    (view.ask (.find path (.typed t)) d).1 = (coerce t (view.fullPath path) v).map .typed := by
  unfold View.ask at found ⊢
  cases read : compile (view.fullPath path) with
  | error e =>
    simp only [read] at found
    exact nomatch found
  | ok p =>
    simp only [read] at found ⊢
    split at found
    · next here =>
      simp only [Form.give, Except.ok.injEq, Answer.value.injEq] at found ⊢
      rw [found]
    · exact nomatch found

theorem coerce_token (policy : NumberPolicy) (t : IntegerToken) (w : Width) (text : String) :
    coerce w.target text (.ofJson policy (.number t.text)) = .ok (w.lowBits t.value) := by
  rw [Value.ofJson, coerce, Value.convert_token (t.represents_ofDocument policy)]
  rfl

theorem JsonDocument.ask_whole {config : JsonConfig} {source : Source} {j : Json}
    (read : parse config.charset source = .ok j) :
    (View.ask ⟨config, "", []⟩ (.find "" .value)
        (JsonDocument.mk source config.charset none [])).1 =
      .ok (.value (.ofJson config.numbers j)) := by
  rw [ask_unread read rfl]
  rfl

theorem JsonDocument.parse_token (charset : String) (t : IntegerToken) :
    parse charset (.text t.text) = .ok (.number t.text) := by
  have text : (Json.number t.text).pretty = t.text := String.ofList_toList
  have fits : (Json.number t.text).Fits (Json.maxDepth + 1) := by simp [Json.Fits]
  have number : (Json.number t.text).AllNumbers Json.IsNumberText := by
    simp only [Json.AllNumbers, Json.isNumberText_token]
  have read := Json.read?_pretty fits number
  rw [text] at read
  simp only [parse, Source.decode_text, bind, Except.bind, read]

/-- Every whole number of a document is read as a word of every width, under every policy: its low
bits in two's complement. So wherever a path finds the number, it is found as a word, and a
document that is the number alone is one. -/
theorem whole_numbers_narrow (t : IntegerToken) (w : Width) :
    (w.lowBits t.value).word? = some (t.value.bmod (2 ^ w.bits)) ∧
    (∀ policy, (Value.ofJson policy (.number t.text)).convert w.target =
      .ok (w.lowBits t.value)) ∧
    (∀ (view : View JsonConfig) (d : JsonDocument) (path : String),
      (view.ask (.find path .value) d).1 =
        .ok (.value (.ofJson view.config.numbers (.number t.text))) →
      (view.ask (.find path (.typed w.target)) d).1 = .ok (.typed (w.lowBits t.value))) ∧
    ∀ config : JsonConfig,
      (View.ask ⟨config, "", []⟩ (.find "" (.typed w.target))
        (JsonDocument.mk (.text t.text) config.charset none [])).1 =
          .ok (.typed (w.lowBits t.value)) := by
  have found : ∀ (view : View JsonConfig) (d : JsonDocument) (path : String),
      (view.ask (.find path .value) d).1 =
        .ok (.value (.ofJson view.config.numbers (.number t.text))) →
      (view.ask (.find path (.typed w.target)) d).1 = .ok (.typed (w.lowBits t.value)) := by
    intro view d path here
    rw [View.ask_typed here, coerce_token]
    rfl
  refine ⟨w.word?_lowBits t.value, fun policy => ?_, found, fun config => ?_⟩
  · rw [Value.ofJson]
    exact Value.convert_token (t.represents_ofDocument policy) w
  · exact found _ _ _ (JsonDocument.ask_whole (JsonDocument.parse_token config.charset t))

/-- An item of an array that no decimal holds, found as a byte. -/
theorem whole_numbers_narrow_item :
    (View.ask ⟨({} : JsonConfig), "", []⟩ (.find "[1]" .value)
        (JsonDocument.mk (.text "[1, -79228162514264337593543950637]") "UTF-8" none [])).1 =
      .ok (.value (.ofJson .floatAndDouble (.number "-79228162514264337593543950637"))) ∧
    (View.ask ⟨({} : JsonConfig), "", []⟩ (.find "[1]" (.typed .byte))
        (JsonDocument.mk (.text "[1, -79228162514264337593543950637]") "UTF-8" none [])).1 =
      .ok (.typed (.byte (-45))) := by
  let t : IntegerToken :=
    ⟨true, "79228162514264337593543950637".toList, by decide, by decide, by decide⟩
  have read : JsonDocument.parse ({} : JsonConfig).charset
      (.text "[1, -79228162514264337593543950637]") =
      .ok (.array [.number "1", .number t.text]) := rfl
  have found := JsonDocument.ask_unread read (rfl : trim "[1]" = "[1]")
  have answer : (Json.ask {} (.array [.number "1", .number t.text]) "[1]").mapError
      (Failure.atPath "[1]") = .ok (.ofJson .floatAndDouble (.number t.text)) := rfl
  have low : Width.byte.lowBits t.value = .byte (-45) := rfl
  rw [answer] at found
  have word := (whole_numbers_narrow t .byte).2.2.1 _ _ _ found
  rw [low] at word
  exact ⟨found, word⟩

end DocPath
