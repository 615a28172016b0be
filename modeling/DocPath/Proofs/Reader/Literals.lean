import DocPath.Proofs.Number.Unsigned
import DocPath.Proofs.Reader.Quoted

/-!
What the readers of words take: a name is taken exactly as it is, and a number literal with the
marks that its form needs.
-/

namespace DocPath.Reader

variable {s r : List Char}

theorem isFree_of_isKeyChar {c : Char} (h : isKeyChar true c = true ∨ c = '@') : isFree c := by
  have other (d : Char) (plain : (isKeyChar true d || d = '@') = false) : c ≠ d := by
    rintro rfl
    rw [Bool.or_eq_false_iff, decide_eq_false_iff_not] at plain
    rcases h with key | at_
    · rw [plain.1] at key
      cases key
    · exact plain.2 at_
  simp [isFree, other '(' (by decide), other '{' (by decide), other '[' (by decide),
    other ')' (by decide), other ']' (by decide), other '}' (by decide), other ',' (by decide),
    other '\'' (by decide), other '"' (by decide)]

theorem isFree_digits {ds : List Char} (digits : ds.all isDigit) : ds.all isFree :=
  List.all_eq_true.mpr fun x mem => isFree_of_isKeyChar
    (.inl (isKeyChar_isIdentChar (isIdentChar_of_isDigit (List.all_eq_true.mp digits x mem))))

theorem pays_name {cs : List Char} (keys : ∀ c ∈ cs, isKeyChar true c = true ∨ c = '@') :
    Pays cs (marks false cs) (signs cs) 0 0 := by
  have free : cs.all isFree := List.all_eq_true.mpr fun c mem => isFree_of_isKeyChar (keys c mem)
  refine ⟨fun tail => Nat.le_of_eq (marks_of_head (fun head => ?_) tail).symm,
    (Pays.free free).grows⟩
  rcases keys '.' (List.mem_of_mem_head? head) with key | at_
  · exact absurd key (by decide)
  · exact absurd at_ (by decide)

theorem pays_identifier {name : String} (h : isIdentifier name) :
    Pays name.toList (marks false name.toList) (signs name.toList) 0 0 :=
  pays_name fun c mem =>
    .inl (isKeyChar_isIdentChar (List.all_eq_true.mp (isIdentifier_all h) c mem))

theorem isBare_keys {name : String} (bare : isBare name) :
    ∀ c ∈ name.toList, isKeyChar true c = true ∨ c = '@' := by
  obtain ⟨x, xs, chars, first, run⟩ := isBare_parts bare
  rw [chars]
  intro c mem
  rcases List.mem_cons.mp mem with rfl | rest
  · simp only [isKeyStart, Bool.or_eq_true, decide_eq_true_eq] at first
    exact first.imp_left isKeyChar_isIdentChar
  · exact .inl (List.all_eq_true.mp run c rest)

theorem firstAndRun_takes (start continues : Char → Bool) :
    Takes (firstAndRun start continues) fun c name =>
      c = name.toList ∧ ∃ x xs, c = x :: xs ∧ start x ∧ xs.all continues := by
  refine ((Takes.satisfy start).bind fun x => (Takes.takeWhile continues).bind fun xs =>
    Takes.pure (String.ofList (x :: xs))).mono ?_
  rintro c name ⟨c₁, c₂, x, rfl, ⟨rfl, first⟩, c₃, c₄, xs, rfl, ⟨rfl, run⟩, rfl, rfl⟩
  refine ⟨?_, x, c₃, ?_, first, run⟩
  · rw [String.toList_ofList, List.append_nil]
    rfl
  · rw [List.append_nil]
    rfl

theorem identifier_takes : Takes identifier fun c name => c = name.toList ∧ isIdentifier name := by
  refine (firstAndRun_takes _ _).mono ?_
  rintro c name ⟨rfl, x, xs, chars, first, run⟩
  exact ⟨rfl, by simp only [isIdentifier, chars, first, run, Bool.and_self]⟩

theorem binder_takes : Takes binder fun c name => c = name.toList ∧ isName name := by
  refine identifier_takes.check.mono ?_
  rintro c name ⟨word, ⟨rfl, formed⟩, ok⟩
  split at ok
  · cases ok
  · next free =>
    cases ok
    exact ⟨rfl, isName_iff.mpr ⟨formed, free⟩⟩

theorem isBare_of_parts {hyphens : Bool} {name : String} {x : Char} {xs : List Char}
    (chars : name.toList = x :: xs) (first : isKeyStart x) (run : xs.all (isKeyChar hyphens)) :
    isBare name ∧ (hyphens || !name.toList.contains '-') := by
  have start : isIdentChar x = true ∨ x = '@' := by
    simpa only [isKeyStart, Bool.or_eq_true, decide_eq_true_eq] using first
  have rest : ∀ y ∈ xs, isIdentChar y = true ∨ (hyphens = true ∧ y = '-') := by
    intro y mem
    have key := List.all_eq_true.mp run y mem
    simpa only [isKeyChar, Bool.or_eq_true, Bool.and_eq_true, decide_eq_true_eq] using key
  constructor
  · rw [isBare, chars]
    simp only [Bool.and_eq_true, List.all_eq_true, Bool.or_eq_true, decide_eq_true_eq]
    refine ⟨?_, fun y mem => ?_⟩
    · rcases start with ident | at_
      · simp only [isIdentChar, Bool.or_eq_true, decide_eq_true_eq] at ident
        grind
      · exact .inl (.inr at_)
    · rcases rest y mem with ident | ⟨-, hyphen⟩
      · simp only [isIdentChar, Bool.or_eq_true, decide_eq_true_eq] at ident
        grind
      · exact .inl (.inr hyphen)
  · cases hyphens with
    | true => rfl
    | false =>
      rw [chars]
      simp only [Bool.false_or, Bool.not_eq_true', List.contains_eq_mem, decide_eq_false_iff_not,
        List.mem_cons, not_or]
      refine ⟨?_, fun mem => ?_⟩
      · rintro rfl
        rcases start with ident | at_
        · exact absurd ident (by decide)
        · exact absurd at_ (by decide)
      · rcases rest '-' mem with ident | ⟨none, -⟩
        · exact absurd ident (by decide)
        · cases none

theorem bareKey_takes (hyphens : Bool) : Takes (bareKey hyphens) fun c name =>
    c = name.toList ∧ isBare name ∧ (hyphens || !name.toList.contains '-') := by
  refine (firstAndRun_takes _ _).mono ?_
  rintro c name ⟨rfl, x, xs, chars, first, run⟩
  exact ⟨rfl, isBare_of_parts chars first run⟩

theorem keyword_takes (w : String) : Takes (keyword w) fun c _ => c = w.toList := by
  refine ((Takes.word w).bind fun _ => Takes.notAhead (satisfy isIdentChar)).mono ?_
  rintro c u ⟨c₁, c₂, x, rfl, rfl, rfl⟩
  exact List.append_nil _

theorem fraction_takes : Takes fraction fun c a =>
    c = a ∧ ∃ fs, a = '.' :: fs ∧ fs.all isDigit ∧ fs ≠ [] := by
  refine ((Takes.char '.').bind fun _ => (Takes.takeWhile1 isDigit).bind fun ds =>
    Takes.pure ('.' :: ds)).mono ?_
  rintro c a ⟨c₁, c₂, x, rfl, ⟨rfl, -⟩, c₃, c₄, ds, rfl, ⟨rfl, digits, full⟩, rfl, rfl⟩
  exact ⟨by rw [List.append_nil]; rfl, c₃, rfl, digits, full⟩

theorem exponent_takes : Takes exponent fun c _ =>
    c.all isFree ∧ ∃ x xs, c = x :: xs ∧ mark true x = 2 := by
  have sign := (Takes.satisfy fun c => c = '-' || c = '+').optional
  refine ((Takes.satisfy fun c => c = 'e' || c = 'E').bind fun e => sign.bind fun o =>
    (Takes.takeWhile1 isDigit).bind fun ds => Takes.pure (e :: (o.toList ++ ds))).mono ?_
  rintro c a ⟨c₁, c₂, e, rfl, ⟨rfl, letter⟩, c₃, c₄, o, rfl, signed, c₅, c₆, ds, rfl,
    ⟨rfl, digits, -⟩, rfl, -⟩
  have first : isFree e = true ∧ mark true e = 2 := by
    simp only [Bool.or_eq_true, decide_eq_true_eq] at letter
    rcases letter with rfl | rfl <;> decide
  have second : c₃.all isFree := by
    rcases signed with ⟨x, -, rfl, sign⟩ | ⟨-, rfl⟩
    · simp only [Bool.or_eq_true, decide_eq_true_eq] at sign
      rcases sign with rfl | rfl <;> decide
    · rfl
  have third := isFree_digits digits
  refine ⟨?_, e, c₃ ++ (c₅ ++ []), rfl, first.2⟩
  simp only [List.all_append, List.all_cons, List.all_nil, first.1, second, third, Bool.and_self]

theorem numberOf_ok {mantissa : List Char} {e : Option (List Char)} {x : Number}
    (h : numberOf mantissa e = .ok x) :
    (e.isSome ∧ ∃ y, x = .double y) ∨
      (e = none ∧ '.' ∈ mantissa ∧
        ∃ d, x = .bigDecimal d ∧ Decimal.read? (String.ofList mantissa) = some d) ∨
      (e = none ∧ '.' ∉ mantissa ∧
        Number.ofIntegerText? (String.ofList mantissa) = some x) := by
  unfold numberOf at h
  simp only at h
  split at h
  · next n read =>
    cases h
    cases e with
    | some cs =>
      obtain ⟨y, -, rfl⟩ := Option.map_eq_some_iff.mp read
      exact .inl ⟨rfl, y, rfl⟩
    | none =>
      simp only [Option.isSome_none, Bool.false_eq_true, if_false, Option.getD_none,
        List.append_nil] at read
      split at read
      · next point =>
        obtain ⟨d, found, rfl⟩ := Option.map_eq_some_iff.mp read
        exact .inr (.inl ⟨rfl, point, d, rfl, found⟩)
      · next point => exact .inr (.inr ⟨rfl, point, read⟩)
  · cases h

theorem not_mem_digits {ds : List Char} (digits : ds.all isDigit) : '.' ∉ ds :=
  fun mem => absurd (List.all_eq_true.mp digits '.' mem) (by decide)

theorem numberParts_takes : Takes (do
      let whole ← digits1
      let part ← optional fraction
      let e ← optional exponent
      pure (whole ++ part.getD [], e)) fun c (p : List Char × Option (List Char)) =>
    ∃ ds part e, c = ds ++ (part ++ e) ∧ p.1 = ds ++ part ∧ ds.all isDigit ∧ ds ≠ [] ∧
      (part = [] ∨ ∃ fs, part = '.' :: fs ∧ fs.all isDigit ∧ fs ≠ []) ∧
      ((p.2 = none ∧ e = []) ∨
        (p.2.isSome ∧ e.all isFree ∧ ∃ x xs, e = x :: xs ∧ mark true x = 2)) := by
  refine ((Takes.takeWhile1 isDigit).bind fun ds => fraction_takes.optional.bind fun part =>
    exponent_takes.optional.bind fun e => Takes.pure (ds ++ part.getD [], e)).mono ?_
  rintro c p ⟨c₁, c₂, ds, rfl, ⟨rfl, digits, full⟩, c₃, c₄, part, rfl, fraction, c₅, c₆, e, rfl,
    power, rfl, rfl⟩
  refine ⟨c₁, c₃, c₅, by rw [List.append_nil], ?_, digits, full, ?_, ?_⟩
  · rcases fraction with ⟨a, rfl, rfl, -⟩ | ⟨rfl, rfl⟩ <;> rfl
  · rcases fraction with ⟨a, rfl, rfl, fs, rfl, form⟩ | ⟨rfl, rfl⟩
    · exact .inr ⟨fs, rfl, form⟩
    · exact .inl rfl
  · rcases power with ⟨a, rfl, free, form⟩ | ⟨rfl, rfl⟩
    · exact .inr ⟨rfl, free, form⟩
    · exact .inl ⟨rfl, rfl⟩

theorem pays_number {ds part e : List Char} (digits : ds.all isDigit) (full : ds ≠ [])
    (fraction : part = [] ∨ ∃ fs, part = '.' :: fs ∧ fs.all isDigit ∧ fs ≠ [])
    (free : e.all isFree) : Pays (ds ++ (part ++ e)) (marks true (part ++ e)) (signs part) 0 0 := by
  have freePart : part.all isFree := by
    rcases fraction with rfl | ⟨fs, rfl, all, -⟩
    · rfl
    · rw [List.all_cons, isFree_digits all]
      rfl
  have all : (ds ++ (part ++ e)).all isFree := by
    simp only [List.all_append, isFree_digits digits, freePart, free, Bool.and_self]
  refine .of_free all ?_ ?_
  · rw [marks_append true ds, tailOf_digits digits full]
    exact Nat.le_add_left _ _
  · rw [signs_append, signs_append]
    omega

theorem read?_fraction_unsigned {ds fs : List Char} {d : Decimal} (digits : ds.all isDigit)
    (full : ds ≠ []) (places : fs.all isDigit)
    (read : Decimal.read? (String.ofList (ds ++ '.' :: fs)) = some d) : d.negative = false := by
  have plain : ∀ c ∈ ds ++ '.' :: fs, Decimal.isExponentMark c = false := by
    intro c mem
    simp only [List.mem_append, List.mem_cons] at mem
    rcases mem with digit | rfl | digit
    · exact Decimal.isExponentMark_of_isDigit (List.all_eq_true.mp digits c digit)
    · decide
    · exact Decimal.isExponentMark_of_isDigit (List.all_eq_true.mp places c digit)
  cases ds with
  | nil => exact absurd rfl full
  | cons c cs =>
    simp only [List.all_cons, Bool.and_eq_true] at digits
    exact Decimal.read?_unsigned digits.1 plain read

theorem number_takes : Takes number fun c x => x.isLiteral ∧ Pays c x.cost x.size 0 0 := by
  refine numberParts_takes.check.mono ?_
  rintro c x ⟨⟨m, o⟩, ⟨ds, part, e, rfl, text, digits, full, fraction, power⟩, made⟩
  simp only at text power made
  subst text
  have free : e.all isFree := by
    rcases power with ⟨-, rfl⟩ | ⟨-, free, -⟩
    · rfl
    · exact free
  have pays := pays_number digits full fraction free
  rcases numberOf_ok made with ⟨some, y, rfl⟩ | ⟨rfl, point, d, rfl, read⟩ | ⟨rfl, point, read⟩
  · rcases power with ⟨rfl, -⟩ | ⟨-, -, l, ls, rfl, two⟩
    · cases some
    · refine ⟨rfl, pays.weaken ?_ (Nat.zero_le _) (Nat.le_refl _) (Nat.le_refl _)⟩
      have more := marks_true_le (tailOf true part) (l :: ls)
      rw [DocPath.marks, two] at more
      rw [marks_append]
      show 2 ≤ _
      omega
  · rcases fraction with rfl | ⟨fs, rfl, places, -⟩
    · rw [List.append_nil] at point
      exact absurd point (not_mem_digits digits)
    · have positive := read?_fraction_unsigned digits full places read
      have mark : mark true '.' = 1 := by decide
      have sign : sign '.' = 1 := by decide
      refine ⟨by simp [Number.isLiteral, positive],
        pays.weaken ?_ ?_ (Nat.le_refl _) (Nat.le_refl _)⟩
      · rw [List.cons_append, DocPath.marks, mark]
        exact Nat.le_add_right _ _
      · rw [signs_cons, sign]
        exact Nat.le_add_right _ _
  · rcases fraction with rfl | ⟨fs, rfl, -⟩
    · rw [List.append_nil] at read
      obtain ⟨literal, whole⟩ := Number.ofIntegerText?_digits digits full read
      refine ⟨literal, pays.weaken ?_ ?_ (Nat.le_refl _) (Nat.le_refl _)⟩
      · cases x <;> first | exact Nat.zero_le _ | cases whole
      · cases x <;> first | exact Nat.zero_le _ | cases whole
    · exact absurd (by simp) point

end DocPath.Reader
