import Mathlib.Data.List.Basic

/-!
# Text operations

Operations on texts in the form the program uses them, written on the list of characters so
that they can be evaluated.
-/

namespace AgentConvert

namespace Text

/-- Whether `text` starts with `start`. -/
def startsWith (text start : String) : Bool := start.toList.isPrefixOf text.toList

/-- Whether `text` ends with `ending`. -/
def endsWith (text ending : String) : Bool := ending.toList.isSuffixOf text.toList

/-- What follows `start` in a text that starts with it. -/
def dropPrefix? (text start : String) : Option String :=
  if startsWith text start then some (String.ofList (text.toList.drop start.length)) else none

/-- The text without its first `n` characters. -/
def drop (text : String) (n : Nat) : String := String.ofList (text.toList.drop n)

/-- The text without its last `n` characters. -/
def dropEnd (text : String) (n : Nat) : String :=
  String.ofList (text.toList.take (text.length - n))

/-- The pieces of a text between occurrences of a character. -/
def splitOnChar (text : String) (sep : Char) : List String :=
  (text.toList.splitOn sep).map String.ofList

/-- The pieces of a list of characters between occurrences of `sep`, from left to right.
`skip` characters of a separator that was found are still to be passed over. -/
def splitOnCore (sep : List Char) : Nat → List Char → List Char → List (List Char)
  | _, piece, [] => [piece.reverse]
  | 0, piece, c :: rest =>
    if sep.isPrefixOf (c :: rest) then piece.reverse :: splitOnCore sep (sep.length - 1) [] rest
    else splitOnCore sep 0 (c :: piece) rest
  | skip + 1, piece, _ :: rest => splitOnCore sep skip piece rest

/-- The pieces of a text between occurrences of a separator, which is not empty. -/
def splitOn (text sep : String) : List String :=
  (splitOnCore sep.toList 0 [] text.toList).map String.ofList

/-- The text with every occurrence of a character replaced. -/
def replaceChar (text : String) (old : Char) (new : String) : String :=
  String.ofList (text.toList.flatMap fun c => if c == old then new.toList else [c])

/-- The value of a list of decimal digits. -/
def digitsValue (digits : List Char) : Nat :=
  digits.foldl (fun acc c => 10 * acc + (c.toNat - '0'.toNat)) 0

/-- Whether what is left of a decimal number can end it.  Underscores may stand between digits,
one at a time; `digit` says whether a digit came last. -/
def isNatFrom : Bool → List Char → Bool
  | digit, [] => digit
  | digit, c :: rest =>
    if c = '_' then digit && isNatFrom false rest
    else if c.isDigit then isNatFrom true rest
    else false

/-- The natural number that a decimal text stands for. -/
def toNat? (text : String) : Option Nat :=
  if isNatFrom false text.toList then
    some (text.toList.foldl (fun n c => if c = '_' then n else n * 10 + (c.toNat - '0'.toNat)) 0)
  else none

/-! ### Decimal numerals -/

/-- Digits are a natural number, whatever stood before them. -/
theorem isNatFrom_of_isDigit {digits : List Char} (h : ∀ c ∈ digits, c.isDigit = true)
    (hne : digits ≠ []) : ∀ digit, isNatFrom digit digits = true := by
  have hmore : ∀ (digits : List Char), (∀ c ∈ digits, c.isDigit = true) →
      isNatFrom true digits = true := by
    intro digits hdigits
    induction digits with
    | nil => rfl
    | cons c rest ih =>
      obtain ⟨hc, hrest⟩ := List.forall_mem_cons.mp hdigits
      have hne : c ≠ '_' := by
        rintro rfl
        cases hc
      rw [isNatFrom, if_neg hne, if_pos hc]
      exact ih hrest
  intro digit
  cases digits with
  | nil => exact absurd rfl hne
  | cons c rest =>
    obtain ⟨hc, hrest⟩ := List.forall_mem_cons.mp h
    have hne : c ≠ '_' := by
      rintro rfl
      cases hc
    rw [isNatFrom, if_neg hne, if_pos hc]
    exact hmore rest hrest

/-- **A numeral stands for its number.** -/
theorem toNat?_toString (n : Nat) : toNat? (toString n) = some n := by
  have hdigits : ∀ c ∈ Nat.toDigits 10 n, c.isDigit = true := fun c hc =>
    Nat.isDigit_of_mem_toDigits (by omega) (by omega) hc
  have hlist : (toString n).toList = Nat.toDigits 10 n := Nat.toList_repr
  have hvalue : ∀ (digits : List Char) (acc : Nat), (∀ c ∈ digits, c.isDigit = true) →
      digits.foldl (fun n c => if c = '_' then n else n * 10 + (c.toNat - '0'.toNat)) acc =
        Nat.ofDigitChars 10 digits acc := by
    intro digits
    induction digits with
    | nil => exact fun acc _ => rfl
    | cons c rest ih =>
      intro acc hdigits
      obtain ⟨hc, hrest⟩ := List.forall_mem_cons.mp hdigits
      have hne : c ≠ '_' := by
        rintro rfl
        cases hc
      rw [List.foldl_cons, if_neg hne, ih _ hrest, Nat.ofDigitChars_cons, Nat.mul_comm]
  unfold toNat?
  rw [hlist, if_pos (isNatFrom_of_isDigit hdigits Nat.toDigits_ne_nil false), hvalue _ 0 hdigits,
    Nat.ofDigitChars_ten_toDigits]

/-- A list is cut at the first occurrence of an element in one way only. -/
theorem append_cons_inj_of_notMem_left {α : Type} {c : α} {front front' rest rest' : List α}
    (hfront : c ∉ front) (hfront' : c ∉ front') (h : front ++ c :: rest = front' ++ c :: rest') :
    front = front' ∧ rest = rest' := by
  rcases List.append_eq_append_iff.mp h with ⟨between, rfl, hrest⟩ | ⟨between, rfl, hrest⟩
  · cases between with
    | nil => exact ⟨(List.append_nil front).symm, (List.cons.inj hrest).2⟩
    | cons d between =>
      obtain ⟨rfl, _⟩ := List.cons.inj hrest
      exact absurd (List.mem_append_right front List.mem_cons_self) hfront'
  · cases between with
    | nil => exact ⟨List.append_nil front', (List.cons.inj hrest).2.symm⟩
    | cons d between =>
      obtain ⟨rfl, _⟩ := List.cons.inj hrest
      exact absurd (List.mem_append_right front' List.mem_cons_self) hfront

end Text

end AgentConvert
