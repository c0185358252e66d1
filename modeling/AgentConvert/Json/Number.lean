import AgentConvert.Json.Parser
import AgentConvert.Lib.Decimal

/-!
# Numbers, written and read

A number is written with its fraction, without the zeros at the end of it, and with an exponent
once the fraction would get long.  What is written is read as the same number with a mantissa and
an exponent that have no zeros in common.  The exception is a zero with more than ten places: its
fraction has no digit left, and what is written is no number.

## Main definitions

* `JsonNumber.normal` — the number without the zeros at the end of its fraction
* `JsonNumber.Printable` — the rendering of the number can be read

## Main statements

* `JsonNumber.toString_normal` — a number is written like its normal form
* `reads_num` — what is written is read as the normal form
* `refuses_num` — what is written of a number that is not printable is not read
-/

namespace AgentConvert

open Decimal

namespace JsonNumber

/-! ### Normal form -/

/-- The decimal with a mantissa and an exponent, without the zeros they have in common. -/
def reduce : Nat → Int → JsonNumber
  | 0, m => ⟨m, 0⟩
  | e + 1, m => if m % 10 = 0 then reduce e (m / 10) else ⟨m, e + 1⟩

/-- The number without the zeros at the end of its fraction. -/
def normal (n : JsonNumber) : JsonNumber := reduce n.exponent n.mantissa

/-- A zero at the end is taken off. -/
theorem reduce_mul_ten (e : Nat) (m : Int) : reduce (e + 1) (m * 10) = reduce e m := by
  rw [reduce, if_pos (Int.mul_emod_left m 10), Int.mul_ediv_cancel m (by omega)]

/-- All zeros at the end are taken off. -/
theorem reduce_mul_pow (zeros e : Nat) (m : Int) :
    reduce (e + zeros) (m * (10 ^ zeros : Nat)) = reduce e m := by
  induction zeros with
  | zero => simp
  | succ zeros ih =>
    rw [Nat.pow_succ, Int.natCast_mul, ← Int.mul_assoc]
    exact (reduce_mul_ten (e + zeros) _).trans ih

/-- Nothing is taken off a number that does not end with a zero. -/
theorem reduce_of_mod_ne {e : Nat} {m : Int} (h : m % 10 ≠ 0) : reduce e m = ⟨m, e⟩ := by
  cases e with
  | zero => rfl
  | succ e => rw [reduce, if_neg h]

/-! ### The parts of a rendering -/

variable (n : JsonNumber)

/-- The places of the number that are written as an exponent. -/
def spare : Nat := n.exponent - (9 + countDigits n.mantissa.natAbs)

/-- The places of the number that are written as digits. -/
def places : Nat := n.exponent - n.spare

/-- The digits behind the point. -/
def fraction : List Char := dropZeros (padded n.places (n.mantissa.natAbs % 10 ^ n.places))

/-- The rendering can be read: the fraction has a digit where one is expected, and it is not
longer than what the parser takes. -/
def Printable : Prop :=
  (n.mantissa = 0 → n.exponent ≤ 10) ∧ n.fraction.length ≤ Json.Parser.usizeSize

/-- The sign of a number, as it is written. -/
def signChars : List Char := if n.mantissa ≥ 0 then [] else ['-']

/-- What is written behind the digits of the whole part. -/
def tail : List Char :=
  if n.mantissa.natAbs % 10 ^ n.places = 0 ∧ n.spare = 0 then []
  else '.' :: (n.fraction ++ if n.spare = 0 then [] else 'e' :: '-' :: Nat.toDigits 10 n.spare)

/-- An integer is written as its sign and its digits. -/
theorem toList_repr_int (m : Int) : m.repr.toList =
    (if m ≥ 0 then [] else ['-']) ++ Nat.toDigits 10 m.natAbs := by
  cases m with
  | ofNat k => exact Nat.toList_repr
  | negSucc k =>
    show ("-" ++ (k + 1).repr).toList = _
    rw [String.toList_append, Nat.toList_repr]
    rfl

/-- The exponent of the rendering is never positive, and zero when no place is spared. -/
theorem exponent_eq (m : Int) (e : Nat) :
    (if (9 + countDigits m.natAbs - (e : Int)) < 0 then (9 + countDigits m.natAbs - (e : Int))
      else 0) = -(spare ⟨m, e⟩ : Int) := by
  unfold spare
  split
  · simp only
    omega
  · simp only
    omega

/-- A decimal is written as its sign, its whole part and what stands behind it. -/
theorem toList_toString : n.toString.toList =
    n.signChars ++ (Nat.toDigits 10 (n.mantissa.natAbs / 10 ^ n.places) ++ n.tail) := by
  obtain ⟨m, e⟩ := n
  cases e with
  | zero =>
    have hspare : spare ⟨m, 0⟩ = 0 := Nat.zero_sub _
    have hplaces : places ⟨m, 0⟩ = 0 := Nat.zero_sub _
    have htail : tail ⟨m, 0⟩ = [] := by
      unfold tail
      rw [hspare, hplaces, if_pos ⟨Nat.mod_one _, rfl⟩]
    rw [htail, hplaces, Nat.pow_zero, Nat.div_one, List.append_nil]
    exact toList_repr_int m
  | succ e =>
    have hexp := exponent_eq m (e + 1)
    have hplaces : places ⟨m, e + 1⟩ = e + 1 - spare ⟨m, e + 1⟩ := rfl
    have hsign : (if m ≥ 0 then "" else "-" : String).toList = signChars ⟨m, e + 1⟩ := by
      unfold signChars
      split <;> rfl
    have hspare : (if spare ⟨m, e + 1⟩ = 0 then ""
        else "e" ++ (-(spare ⟨m, e + 1⟩ : Int)).repr).toList =
        if spare ⟨m, e + 1⟩ = 0 then [] else 'e' :: '-' :: Nat.toDigits 10 (spare ⟨m, e + 1⟩) := by
      split
      · rfl
      next h =>
        rw [String.toList_append, toList_repr_int, if_neg (by omega), Int.natAbs_neg,
          Int.natAbs_natCast]
        rfl
    have hfraction : (List.dropWhile (fun c => c == '0') (List.drop 1 (Nat.toDigits 10
        (10 ^ places ⟨m, e + 1⟩ + m.natAbs % 10 ^ places ⟨m, e + 1⟩))).reverse).reverse =
        fraction ⟨m, e + 1⟩ := rfl
    have hpoint : (".").toList = ['.'] := rfl
    unfold JsonNumber.toString tail
    simp only [hexp, Int.natAbs_neg, Int.natAbs_natCast, ← hplaces, Int.neg_eq_zero,
      Int.natCast_eq_zero, Bool.and_eq_true, decide_eq_true_eq, ToString.toString]
    by_cases hint : m.natAbs % 10 ^ places ⟨m, e + 1⟩ = 0 ∧ spare ⟨m, e + 1⟩ = 0
    · rw [if_pos hint, if_pos hint, String.toList_append, Nat.toList_repr, hsign, List.append_nil]
    · rw [if_neg hint, if_neg hint]
      simp only [String.toList_append, String.toList_ofList, Nat.toList_repr, hsign, hfraction,
        hspare, hpoint, List.append_assoc, List.cons_append, List.nil_append]

/-! ### One zero less -/

theorem countDigits_mul_ten {a : Nat} (h : 0 < a) : countDigits (10 * a) = countDigits a + 1 := by
  have hdigits := Nat.toDigits_append_toDigits (b := 10) (d := 0) (by omega) h (by omega)
  unfold countDigits
  rw [← String.length_toList, ← String.length_toList, Nat.toList_repr, Nat.toList_repr,
    ← Nat.add_zero (10 * a), ← hdigits, List.length_append, Nat.toDigits_zero]
  rfl

/-- Taking a zero off does not change how many places are left over. -/
theorem spare_mul_ten {m : Int} {e : Nat} (h : m = 0 → e + 1 ≤ 10) :
    spare ⟨m * 10, e + 1⟩ = spare ⟨m, e⟩ := by
  unfold spare
  rcases Decidable.em (m = 0) with rfl | hm
  · have he := h rfl
    have hone : countDigits 0 = 1 := rfl
    simp only [Int.zero_mul, Int.natAbs_zero, hone]
    omega
  · have habs : 0 < m.natAbs := Int.natAbs_pos.mpr hm
    have hten : (m * 10).natAbs = 10 * m.natAbs := by
      rw [Int.natAbs_mul, Nat.mul_comm]
      rfl
    simp only [hten, countDigits_mul_ten habs]
    omega

/-- **A zero that the mantissa and the exponent have in common is not written.** -/
theorem toString_mul_ten {m : Int} {e : Nat} (h : m = 0 → e + 1 ≤ 10) :
    (⟨m * 10, e + 1⟩ : JsonNumber).toString = (⟨m, e⟩ : JsonNumber).toString := by
  have hspare := spare_mul_ten h
  have hle : spare ⟨m, e⟩ ≤ e := Nat.sub_le _ _
  have hplaces : places ⟨m * 10, e + 1⟩ = places ⟨m, e⟩ + 1 := by
    unfold places
    rw [hspare]
    simp only
    omega
  have hten : (m * 10).natAbs = 10 * m.natAbs := by
    rw [Int.natAbs_mul, Nat.mul_comm]
    rfl
  have hdiv : 10 * m.natAbs / 10 ^ (places ⟨m, e⟩ + 1) = m.natAbs / 10 ^ places ⟨m, e⟩ := by
    rw [Nat.pow_succ', Nat.mul_div_mul_left _ _ (by omega)]
  have hmod : 10 * m.natAbs % 10 ^ (places ⟨m, e⟩ + 1) =
      10 * (m.natAbs % 10 ^ places ⟨m, e⟩) := by
    rw [Nat.pow_succ', Nat.mul_mod_mul_left]
  have hfraction : fraction ⟨m * 10, e + 1⟩ = fraction ⟨m, e⟩ := by
    unfold fraction
    simp only [hplaces, hten, hmod, padded_succ, dropZeros_concat_zero]
  have hsign : signChars ⟨m * 10, e + 1⟩ = signChars ⟨m, e⟩ := by
    unfold signChars
    simp only
    congr 1
    exact propext ⟨fun h => by omega, fun h => by omega⟩
  have htail : tail ⟨m * 10, e + 1⟩ = tail ⟨m, e⟩ := by
    unfold tail
    simp [hplaces, hten, hmod, hspare, hfraction]
  refine String.toList_inj.mp ?_
  rw [toList_toString, toList_toString, hsign, htail]
  simp only [hplaces, hten, hdiv]

/-- A number is written the same with the zeros at its end taken off. -/
theorem toString_reduce (e : Nat) {m : Int} (h : m = 0 → e ≤ 10) :
    (reduce e m).toString = (⟨m, e⟩ : JsonNumber).toString := by
  induction e generalizing m with
  | zero => rfl
  | succ e ih =>
    unfold reduce
    split
    next hmod =>
      obtain ⟨k, rfl⟩ : ∃ k, m = k * 10 := ⟨m / 10, by omega⟩
      rw [Int.mul_ediv_cancel k (by omega)]
      have hk : k = 0 → e + 1 ≤ 10 := fun hzero => h (by omega)
      rw [toString_mul_ten hk]
      exact ih fun hzero => by have := hk hzero; omega
    · rfl

/-- **A number is written like its normal form.** -/
theorem toString_normal (h : n.Printable) : n.normal.toString = n.toString :=
  toString_reduce n.exponent h.1

end JsonNumber

namespace Json.Parser

open AgentConvert.Parser

/-! ### Reading digits -/

theorem isDigit_eq (c : Char) : ('0' ≤ c && c ≤ '9') = c.isDigit := rfl

/-- The rest does not go on with a digit. -/
def NoDigit (rest : List Char) : Prop := ∀ c ∈ rest.head?, c.isDigit = false

/-- The rest does not go on with a part of a number. -/
def EndsNumber (rest : List Char) : Prop :=
  ∀ c ∈ rest.head?, c.isDigit = false ∧ c ≠ '.' ∧ c ≠ 'e' ∧ c ≠ 'E'

theorem EndsNumber.noDigit {rest : List Char} (h : EndsNumber rest) : NoDigit rest :=
  fun c hc => (h c hc).1

/-- Digits are read as the number they stand for. -/
theorem reads_natCore {digits : List Char} (h : ∀ c ∈ digits, c.isDigit = true) (acc : Nat) :
    Reads NoDigit (natCore acc) digits (Nat.ofDigitChars 10 digits acc) := by
  induction digits generalizing acc with
  | nil =>
    intro rest hrest
    cases rest with
    | nil => rfl
    | cons c tail =>
      show natCore acc (c :: tail) = _
      rw [natCore, isDigit_eq, hrest c rfl]
      rfl
  | cons c digits ih =>
    intro rest hrest
    obtain ⟨hc, hdigits⟩ := List.forall_mem_cons.mp h
    show natCore acc (c :: (digits ++ rest)) = _
    rw [natCore, isDigit_eq, if_pos hc]
    exact ih hdigits _ rest hrest

/-- Digits are read as the number they stand for, and counted. -/
theorem reads_natCoreNumDigits {digits : List Char} (h : ∀ c ∈ digits, c.isDigit = true)
    (acc count : Nat) : Reads NoDigit (natCoreNumDigits acc count) digits
      (Nat.ofDigitChars 10 digits acc, count + digits.length) := by
  induction digits generalizing acc count with
  | nil =>
    intro rest hrest
    cases rest with
    | nil => rfl
    | cons c tail =>
      show natCoreNumDigits acc count (c :: tail) = _
      rw [natCoreNumDigits, isDigit_eq, hrest c rfl]
      rfl
  | cons c digits ih =>
    intro rest hrest
    obtain ⟨hc, hdigits⟩ := List.forall_mem_cons.mp h
    show natCoreNumDigits acc count (c :: (digits ++ rest)) = _
    rw [natCoreNumDigits, isDigit_eq, if_pos hc, ih hdigits _ _ rest hrest, List.length_cons,
      Nat.add_assoc, Nat.add_comm 1]
    rfl

/-- Looking at a character that is there. -/
theorem lookahead_cons {p : Char → Bool} {c : Char} (hc : p c = true) (desc : String)
    (rest : List Char) : lookahead p desc (c :: rest) = .success (c :: rest) () := by
  show (if p c then (pure () : Parser Unit) else fail ("expected " ++ desc)) (c :: rest) = _
  rw [if_pos hc]
  rfl

theorem reads_natMaybeZero {digits : List Char} (h : ∀ c ∈ digits, c.isDigit = true)
    (hne : digits ≠ []) : Reads NoDigit natMaybeZero digits (Nat.ofDigitChars 10 digits 0) := by
  obtain ⟨c, tail, rfl⟩ := List.exists_cons_of_ne_nil hne
  have hc := h c List.mem_cons_self
  exact Reads.look (fun rest _ => lookahead_cons hc _ _) (reads_natCore h 0)

theorem reads_natNumDigits {digits : List Char} (h : ∀ c ∈ digits, c.isDigit = true)
    (hne : digits ≠ []) :
    Reads NoDigit natNumDigits digits (Nat.ofDigitChars 10 digits 0, digits.length) := by
  obtain ⟨c, tail, rfl⟩ := List.exists_cons_of_ne_nil hne
  have hc := h c List.mem_cons_self
  have hcore := reads_natCoreNumDigits h 0 0
  rw [Nat.zero_add] at hcore
  exact Reads.look (fun rest _ => lookahead_cons hc _ _) hcore

theorem peek_cons (c : Char) (rest : List Char) : peek (c :: rest) = .success (c :: rest) c := rfl

/-- The numeral of a natural number is read as that number. -/
theorem reads_nat (n : Nat) : Reads NoDigit nat (Nat.toDigits 10 n) n := by
  have hdigits : ∀ c ∈ Nat.toDigits 10 n, c.isDigit = true := fun c => isDigit_of_mem_toDigits
  rcases Nat.eq_zero_or_pos n with rfl | hn
  · rw [Nat.toDigits_zero]
    exact fun rest _ => rfl
  · obtain ⟨c, tail, htoDigits⟩ :=
      List.exists_cons_of_ne_nil (Nat.toDigits_ne_nil (n := n) (b := 10))
    have hzero := head_toDigits_ne_zero (Nat.pos_iff_ne_zero.mp hn) htoDigits
    have hcore := reads_natCore hdigits 0
    rw [Nat.ofDigitChars_ten_toDigits] at hcore
    have hc := hdigits c (htoDigits ▸ List.mem_cons_self)
    have hfirst : ('1' ≤ c && c ≤ '9') = true := by
      obtain ⟨hlow, hhigh⟩ := Bool.and_eq_true_iff.mp hc
      refine Bool.and_eq_true_iff.mpr ⟨decide_eq_true ?_, hhigh⟩
      have hge : '0'.toNat ≤ c.toNat := of_decide_eq_true hlow
      have hne : c.toNat ≠ '0'.toNat := fun h => hzero (Char.toNat_inj.mp h)
      show '1'.toNat ≤ c.toNat
      have hone : '1'.toNat = '0'.toNat + 1 := rfl
      omega
    rw [htoDigits] at hcore ⊢
    refine Reads.look (fun rest _ => peek_cons c _) ?_
    show Reads NoDigit (if (c == '0') = true then _ else natNonZero) (c :: tail) n
    rw [if_neg (by simpa using hzero)]
    exact Reads.look (fun rest _ => lookahead_cons hfirst _ _) hcore

/-! ### Reading numbers -/

/-- The sign as a factor. -/
def signFactor (m : Int) : Int := if m ≥ 0 then 1 else -1

theorem signFactor_mul_natAbs (m : Int) : signFactor m * m.natAbs = m := by
  unfold signFactor
  split
  · omega
  · omega

/-- A sign is read in front of a digit. -/
theorem reads_numSign (n : JsonNumber) :
    Reads (fun rest => ∃ c tail, rest = c :: tail ∧ c.isDigit = true) numSign n.signChars
      (signFactor n.mantissa) := by
  intro rest hrest
  obtain ⟨c, tail, rfl, hc⟩ := hrest
  unfold JsonNumber.signChars signFactor
  split
  · have hminus : ¬ (c == '-') = true := by
      intro h
      rw [beq_iff_eq.mp h] at hc
      cases hc
    show (if (c == '-') = true then _ else (pure 1 : Parser Int)) (c :: tail) = _
    rw [if_neg hminus]
    rfl
  · rfl

/-- Behind the sign stands a digit. -/
theorem toDigits_append_eq_cons (n : Nat) (rest : List Char) :
    ∃ c tail, Nat.toDigits 10 n ++ rest = c :: tail ∧ c.isDigit = true := by
  obtain ⟨c, tail, hdigits⟩ := List.exists_cons_of_ne_nil (Nat.toDigits_ne_nil (n := n) (b := 10))
  refine ⟨c, tail ++ rest, ?_, isDigit_of_mem_toDigits (hdigits ▸ List.mem_cons_self)⟩
  rw [hdigits, List.cons_append]

/-- A number without a fraction. -/
theorem reads_numWithDecimals_whole (n : JsonNumber) (whole : Nat) :
    Reads EndsNumber numWithDecimals (n.signChars ++ Nat.toDigits 10 whole)
      (JsonNumber.fromInt (signFactor n.mantissa * whole)) := by
  refine (reads_numSign n).bind ?_ fun rest _ => toDigits_append_eq_cons whole rest
  rw [← List.append_nil (Nat.toDigits 10 whole)]
  refine (reads_nat whole).bind ?_ fun rest hrest => hrest.noDigit
  intro rest hrest
  cases rest with
  | nil => rfl
  | cons c tail =>
    obtain ⟨-, hpoint, -⟩ := hrest c rfl
    show (if (c == '.') = true then _ else (pure _ : Parser JsonNumber)) (c :: tail) = _
    rw [if_neg (by simpa using hpoint)]
    rfl

/-- A number with a fraction. -/
theorem reads_numWithDecimals_fraction (n : JsonNumber) (whole : Nat) {digits : List Char}
    (h : ∀ c ∈ digits, c.isDigit = true) (hne : digits ≠ []) (hlength : digits.length ≤ usizeSize) :
    Reads NoDigit numWithDecimals (n.signChars ++ (Nat.toDigits 10 whole ++ '.' :: digits))
      ⟨signFactor n.mantissa * (whole * (10 ^ digits.length : Nat) +
        (Nat.ofDigitChars 10 digits 0 : Nat)), digits.length⟩ := by
  refine (reads_numSign n).bind ?_ fun rest _ => ?_
  · refine (reads_nat whole).bind ?_ fun rest _ c hc => ?_
    · intro rest hrest
      refine (bind_success (reads_natNumDigits h hne rest hrest)).trans ?_
      show (if digits.length > usizeSize then fail "too many decimals"
        else (pure _ : Parser JsonNumber)) rest = _
      rw [if_neg (by omega)]
      rfl
    · cases hc
      rfl
  · rw [List.append_assoc]
    exact toDigits_append_eq_cons whole _

/-- Where no digit stands, no number is read. -/
theorem refuses_natNumDigits : Refuses NoDigit natNumDigits [] := by
  intro rest hrest
  cases rest with
  | nil => exact ⟨_, _, rfl⟩
  | cons c tail =>
    refine ⟨c :: tail, .other ("expected " ++ "digit"), ?_⟩
    have hlook : lookahead (fun c => '0' ≤ c && c ≤ '9') "digit" (c :: tail) =
        .error (c :: tail) (.other ("expected " ++ "digit")) := by
      show (if ('0' ≤ c && c ≤ '9') = true then (pure () : Parser Unit)
        else fail ("expected " ++ "digit")) (c :: tail) = _
      rw [isDigit_eq, hrest c rfl]
      rfl
    exact bind_error hlook

/-- A point without a digit behind it. -/
theorem refuses_numWithDecimals_point (n : JsonNumber) (whole : Nat) :
    Refuses NoDigit numWithDecimals (n.signChars ++ (Nat.toDigits 10 whole ++ ['.'])) := by
  refine (reads_numSign n).refuses ?_ fun rest _ => ?_
  · refine (reads_nat whole).refuses ?_ fun rest _ c hc => ?_
    · exact fun rest hrest => refuses_natNumDigits.bind rest hrest
    · cases hc
      rfl
  · rw [List.append_assoc]
    exact toDigits_append_eq_cons whole _

/-- A fraction that is too long. -/
theorem refuses_numWithDecimals_fraction (n : JsonNumber) (whole : Nat) {digits : List Char}
    (h : ∀ c ∈ digits, c.isDigit = true) (hne : digits ≠ []) (hlength : usizeSize < digits.length) :
    Refuses NoDigit numWithDecimals (n.signChars ++ (Nat.toDigits 10 whole ++ '.' :: digits)) := by
  refine (reads_numSign n).refuses ?_ fun rest _ => ?_
  · refine (reads_nat whole).refuses ?_ fun rest _ c hc => ?_
    · intro rest hrest
      refine ⟨rest, .other "too many decimals", ?_⟩
      refine (bind_success (reads_natNumDigits h hne rest hrest)).trans ?_
      show (if digits.length > usizeSize then fail "too many decimals"
        else (pure _ : Parser JsonNumber)) rest = _
      rw [if_pos hlength]
      rfl
    · cases hc
      rfl
  · rw [List.append_assoc]
    exact toDigits_append_eq_cons whole _

/-- Where no exponent stands, the number stays as it is. -/
theorem reads_exponent_none (value : JsonNumber) : Reads EndsNumber (exponent value) [] value := by
  intro rest hrest
  cases rest with
  | nil => rfl
  | cons c tail =>
    obtain ⟨-, -, he, hE⟩ := hrest c rfl
    show (if (c == 'e' || c == 'E') = true then _ else (pure value : Parser JsonNumber))
      (c :: tail) = _
    rw [if_neg (by simp [he, hE])]
    rfl

/-- A negative exponent is read as a shift to the right. -/
theorem reads_exponent (value : JsonNumber) (n : Nat) :
    Reads NoDigit (exponent value) ('e' :: '-' :: Nat.toDigits 10 n) (value.shiftr n) := by
  intro rest hrest
  have hread := reads_natMaybeZero (fun c => isDigit_of_mem_toDigits (n := n)) Nat.toDigits_ne_nil
    rest hrest
  rw [Nat.ofDigitChars_ten_toDigits] at hread
  exact bind_success hread

/-! ### Renderings -/

section Rendering

variable (n : JsonNumber)

theorem isDigit_of_mem_fraction : ∀ c ∈ n.fraction, c.isDigit = true :=
  isDigit_of_mem_dropZeros fun _ => isDigit_of_mem_padded

/-- The digits of the fraction and the zeros that were dropped behind them. -/
theorem exists_fraction : ∃ zeros, n.places = n.fraction.length + zeros ∧
    n.mantissa.natAbs % 10 ^ n.places = Nat.ofDigitChars 10 n.fraction 0 * 10 ^ zeros ∧
      (n.fraction = [] ∨ Nat.ofDigitChars 10 n.fraction 0 % 10 ≠ 0) := by
  have hlt : n.mantissa.natAbs % 10 ^ n.places < 10 ^ n.places :=
    Nat.mod_lt _ (Nat.pow_pos (by omega))
  obtain ⟨zeros, hdigits, hlast⟩ :=
    exists_dropZeros (padded n.places (n.mantissa.natAbs % 10 ^ n.places))
  have hlength := length_padded hlt
  have hvalue := ofDigitChars_padded hlt
  rw [hdigits] at hlength hvalue
  rw [List.length_append, List.length_replicate] at hlength
  rw [Nat.ofDigitChars_append, Nat.ofDigitChars_replicate_zero] at hvalue
  refine ⟨zeros, hlength.symm, ?_, ?_⟩
  · rw [Nat.mul_comm]
    exact hvalue.symm
  · rcases hlast with hnil | ⟨front, c, hfront, hc⟩
    · exact Or.inl hnil
    · refine Or.inr ?_
      have hdigit : c.isDigit = true := by
        refine isDigit_of_mem_fraction n c ?_
        rw [JsonNumber.fraction, hfront]
        exact List.mem_append_right _ List.mem_cons_self
      unfold JsonNumber.fraction
      rw [hfront]
      exact ofDigitChars_concat_mod hdigit hc

/-- Only a zero with more than ten places has a fraction without digits. -/
theorem fraction_eq_nil (hnil : n.fraction = [])
    (htail : ¬ (n.mantissa.natAbs % 10 ^ n.places = 0 ∧ n.spare = 0)) :
    n.mantissa = 0 ∧ 10 < n.exponent := by
  obtain ⟨zeros, -, hvalue, -⟩ := exists_fraction n
  rw [hnil, Nat.ofDigitChars_nil, Nat.zero_mul] at hvalue
  have hspare : n.spare ≠ 0 := fun h => htail ⟨hvalue, h⟩
  have hplaces : n.places = 9 + JsonNumber.countDigits n.mantissa.natAbs := by
    unfold JsonNumber.places JsonNumber.spare at *
    omega
  have hlt : n.mantissa.natAbs < 10 ^ n.places := by
    refine (Nat.length_toDigits_le_iff (b := 10) (by omega) (by omega)).mp ?_
    rw [hplaces, JsonNumber.countDigits, ← String.length_toList, Nat.toList_repr]
    omega
  rw [Nat.mod_eq_of_lt hlt] at hvalue
  have hone : JsonNumber.countDigits 0 = 1 := rfl
  unfold JsonNumber.spare at hspare
  rw [hvalue, hone] at hspare
  exact ⟨Int.natAbs_eq_zero.mp hvalue, by omega⟩

/-- The exponent is made up of the places that are written and those that are left over. -/
theorem exponent_eq_places_add_spare : n.exponent = n.places + n.spare := by
  unfold JsonNumber.places JsonNumber.spare
  omega

/-- The normal form of a number that is written without a point. -/
theorem normal_of_whole
    (htail : n.mantissa.natAbs % 10 ^ n.places = 0 ∧ n.spare = 0) :
    n.normal = JsonNumber.fromInt
      (signFactor n.mantissa * (n.mantissa.natAbs / 10 ^ n.places : Nat)) := by
  have hwhole := Nat.div_mul_cancel (Nat.dvd_of_mod_eq_zero htail.1)
  have hmantissa : n.mantissa = signFactor n.mantissa *
      (n.mantissa.natAbs / 10 ^ n.places : Nat) * (10 ^ n.places : Nat) := by
    rw [Int.mul_assoc, ← Int.natCast_mul, hwhole, signFactor_mul_natAbs]
  have hexponent : n.exponent = 0 + n.places := by
    rw [exponent_eq_places_add_spare, htail.2]
    omega
  unfold JsonNumber.normal
  rw [hexponent]
  conv => lhs; rw [hmantissa]
  exact JsonNumber.reduce_mul_pow _ 0 _

theorem signFactor_mul_mod_ne (m : Int) {v : Nat} (h : v % 10 ≠ 0) :
    signFactor m * v % 10 ≠ 0 := by
  unfold signFactor
  split
  · omega
  · omega

/-- The normal form of a number that is written with a point. -/
theorem normal_of_fraction (hne : n.fraction ≠ []) :
    n.normal = ⟨signFactor n.mantissa *
      ((n.mantissa.natAbs / 10 ^ n.places : Nat) * (10 ^ n.fraction.length : Nat) +
        (Nat.ofDigitChars 10 n.fraction 0 : Nat)), n.fraction.length + n.spare⟩ := by
  obtain ⟨zeros, hplaces, hvalue, hlast⟩ := exists_fraction n
  have hmod : Nat.ofDigitChars 10 n.fraction 0 % 10 ≠ 0 := hlast.resolve_left hne
  have hdigits : 0 < n.fraction.length := List.length_pos_iff.mpr hne
  have hdiv := Nat.div_add_mod n.mantissa.natAbs (10 ^ n.places)
  generalize n.mantissa.natAbs / 10 ^ n.places = whole at hdiv ⊢
  generalize hpart : Nat.ofDigitChars 10 n.fraction 0 = part at hvalue hmod ⊢
  have hsum : (whole * 10 ^ n.fraction.length + part) * 10 ^ zeros = n.mantissa.natAbs := by
    rw [← hdiv, hvalue, hplaces, Nat.pow_add, Nat.add_mul, Nat.mul_comm _ whole, Nat.mul_assoc]
  have hmantissa : n.mantissa = signFactor n.mantissa *
      (whole * 10 ^ n.fraction.length + part : Nat) * (10 ^ zeros : Nat) := by
    rw [Int.mul_assoc, ← Int.natCast_mul, hsum, signFactor_mul_natAbs]
  have hexponent : n.exponent = n.fraction.length + n.spare + zeros := by
    rw [exponent_eq_places_add_spare, hplaces]
    omega
  have hpart_mod : (whole * 10 ^ n.fraction.length + part) % 10 ≠ 0 := by
    obtain ⟨k, hk⟩ : ∃ k, n.fraction.length = k + 1 := ⟨n.fraction.length - 1, by omega⟩
    rw [hk, Nat.pow_succ, ← Nat.mul_assoc]
    omega
  unfold JsonNumber.normal
  rw [hexponent]
  conv => lhs; rw [hmantissa]
  rw [JsonNumber.reduce_mul_pow, JsonNumber.reduce_of_mod_ne (signFactor_mul_mod_ne _ hpart_mod),
    Int.natCast_add, Int.natCast_mul]

/-- **What is written is read as the normal form.** -/
theorem reads_num (h : n.Printable) : Reads EndsNumber num n.toString.toList n.normal := by
  rw [JsonNumber.toList_toString]
  unfold JsonNumber.tail
  split
  next htail =>
    rw [normal_of_whole n htail, List.append_nil, ← List.append_nil (_ ++ _)]
    exact (reads_numWithDecimals_whole n _).bind (reads_exponent_none _) fun rest hrest => hrest
  next htail =>
    have hne : n.fraction ≠ [] := fun hnil => by
      obtain ⟨hzero, hten⟩ := fraction_eq_nil n hnil htail
      exact absurd (h.1 hzero) (by omega)
    have hdecimals := reads_numWithDecimals_fraction n (n.mantissa.natAbs / 10 ^ n.places)
      (isDigit_of_mem_fraction n) hne h.2
    rw [normal_of_fraction n hne]
    split
    next hspare =>
      rw [hspare, Nat.add_zero, List.append_nil, ← List.append_nil (_ ++ _)]
      exact hdecimals.bind (reads_exponent_none _) fun rest hrest => hrest.noDigit
    next hspare =>
      rw [← List.append_assoc] at hdecimals
      rw [← List.cons_append, ← List.append_assoc, ← List.append_assoc]
      refine Reads.bind hdecimals ((reads_exponent _ _).mono ?_) ?_
      · exact fun rest hrest => hrest.noDigit
      · rintro rest - c hc
        cases hc
        rfl

/-- A remainder of zero leaves no digits behind the point. -/
theorem fraction_of_mod_eq_zero (h : n.mantissa.natAbs % 10 ^ n.places = 0) : n.fraction = [] := by
  obtain ⟨zeros, -, hvalue, hlast⟩ := exists_fraction n
  refine hlast.resolve_right fun hmod => ?_
  have hpow : 0 < 10 ^ zeros := Nat.pow_pos (by omega)
  rcases Nat.mul_eq_zero.mp (hvalue.symm.trans h) with hzero | hzero
  · rw [hzero] at hmod
    exact hmod rfl
  · omega

theorem fraction_of_zero (h : n.mantissa = 0) : n.fraction = [] := by
  refine fraction_of_mod_eq_zero n ?_
  rw [h]
  exact Nat.zero_mod _

/-- A number that is written without a point is printable. -/
theorem printable_of_whole (htail : n.mantissa.natAbs % 10 ^ n.places = 0 ∧ n.spare = 0) :
    n.Printable := by
  refine ⟨fun hzero => ?_, ?_⟩
  · have hspare := htail.2
    have hone : JsonNumber.countDigits 0 = 1 := rfl
    unfold JsonNumber.spare at hspare
    rw [hzero, Int.natAbs_zero, hone] at hspare
    omega
  · rw [fraction_of_mod_eq_zero n htail.1]
    exact Nat.zero_le _

/-- **What is written of a number that is not printable is not read.** -/
theorem refuses_num (h : ¬ n.Printable) : Refuses EndsNumber num n.toString.toList := by
  have hstart : ∀ rest, EndsNumber rest → NoDigit
      ((if n.spare = 0 then [] else 'e' :: '-' :: Nat.toDigits 10 n.spare) ++ rest) := by
    intro rest hrest
    split
    · exact hrest.noDigit
    · intro c hc
      cases hc
      rfl
  rw [JsonNumber.toList_toString]
  unfold JsonNumber.tail
  rw [if_neg fun htail => h (printable_of_whole n htail)]
  generalize (if n.spare = 0 then [] else 'e' :: '-' :: Nat.toDigits 10 n.spare) = places at hstart
  by_cases hnil : n.fraction = []
  · -- There is no digit between the point and the exponent.
    have hpoint : Refuses EndsNumber numWithDecimals (n.signChars ++
        (Nat.toDigits 10 (n.mantissa.natAbs / 10 ^ n.places) ++ ['.']) ++ places) :=
      (refuses_numWithDecimals_point n _).append hstart
    rw [hnil, List.nil_append]
    exact (by simpa using hpoint : Refuses EndsNumber numWithDecimals _).bind
  · have hlong : Json.Parser.usizeSize < n.fraction.length := by
      by_contra hle
      exact h ⟨fun hzero => absurd (fraction_of_zero n hzero) hnil, by omega⟩
    have hfraction : Refuses EndsNumber numWithDecimals (n.signChars ++
        (Nat.toDigits 10 (n.mantissa.natAbs / 10 ^ n.places) ++ '.' :: n.fraction) ++ places) :=
      (refuses_numWithDecimals_fraction n _ (isDigit_of_mem_fraction n) hnil hlong).append hstart
    exact (by simpa using hfraction : Refuses EndsNumber numWithDecimals _).bind

end Rendering

end Json.Parser

end AgentConvert
