import AgentConvert.Json.Value
import AgentConvert.Lib.Parsec

/-!
# JSON parser

The grammar the importers read every line with.  The recursive parts carry a fuel argument;
`Json.parse` starts them with more than the text can use up, and `Json.parse_fuel` says that any
other sufficient amount gives the same outcome, so the fuel never decides whether a line parses.
-/

namespace AgentConvert

namespace Json.Parser

open AgentConvert.Parser

/-- The largest number of decimals, and the largest positive exponent, that is read. -/
def usizeSize : Nat := 2 ^ 64

/-! ### Strings -/

/-- A hexadecimal digit, as its value. -/
def hexChar : Parser Nat := do
  let c ← any
  if '0' ≤ c && c ≤ '9' then
    pure (c.toNat - '0'.toNat)
  else if 'a' ≤ c && c ≤ 'f' then
    pure (c.toNat - 'a'.toNat + 10)
  else if 'A' ≤ c && c ≤ 'F' then
    pure (c.toNat - 'A'.toNat + 10)
  else
    fail "invalid hex character"

/-- The second half of a surrogate pair; `low` is the value of the first half. -/
def finishSurrogatePair (low : Nat) : Parser Char := do
  let c ← any
  if c != '\\' then fail "" else
  let c ← any
  if c != 'u' then fail "" else
  let c ← any
  if c != 'd' && c != 'D' then fail "" else
  let u2 ← hexChar
  let u3 ← hexChar
  let u4 ← hexChar
  let val := u2 * 256 + u3 * 16 + u4
  if val < 0xC00 then fail "" else
  pure (Char.ofNat (low % 0x400 * 0x400 + val % 0x400 + 0x10000))

/-- The character behind a backslash.  A surrogate half without its other half is read as the
replacement character. -/
def escapedChar : Parser Char := do
  let c ← any
  match c with
  | '\\' => pure '\\'
  | '"' => pure '"'
  | '/' => pure '/'
  | 'b' => pure '\x08'
  | 'f' => pure '\x0c'
  | 'n' => pure '\n'
  | 'r' => pure '\x0d'
  | 't' => pure '\t'
  | 'u' => do
    let u1 ← hexChar
    let u2 ← hexChar
    let u3 ← hexChar
    let u4 ← hexChar
    let val := u1 * 4096 + u2 * 256 + u3 * 16 + u4
    if val < 0xD800 then
      pure (Char.ofNat val)
    else if val < 0xE000 then
      if val < 0xDC00 then
        attemptD (finishSurrogatePair val) '\ufffd'
      else
        pure '\ufffd'
    else
      pure (Char.ofNat val)
  | _ => fail "illegal \\u escape"

/-- The characters of a string up to its closing quote.  The fuel is used up by the characters. -/
def strCore : Nat → List Char → Parser String
  | 0, _ => fail "out of fuel"
  | fuel + 1, acc => do
    let c ← peek
    if c == '"' then do
      skip
      pure (String.ofList acc.reverse)
    else do
      let c ← any
      if c == '\\' then do
        let escaped ← escapedChar
        strCore fuel (escaped :: acc)
      else if 0x20 ≤ c.toNat then
        strCore fuel (c :: acc)
      else
        fail "unexpected character in string"

/-! ### Numbers -/

/-- Digits, most significant first. -/
def natCore (acc : Nat) : Parser Nat := fun it =>
  match it with
  | [] => .success [] acc
  | c :: rest =>
    if '0' ≤ c && c ≤ '9' then natCore (10 * acc + (c.toNat - '0'.toNat)) rest
    else .success (c :: rest) acc

/-- Digits, with their number. -/
def natCoreNumDigits (acc digits : Nat) : Parser (Nat × Nat) := fun it =>
  match it with
  | [] => .success [] (acc, digits)
  | c :: rest =>
    if '0' ≤ c && c ≤ '9' then
      natCoreNumDigits (10 * acc + (c.toNat - '0'.toNat)) (digits + 1) rest
    else .success (c :: rest) (acc, digits)

/-- Fail unless the next character has the property. -/
def lookahead (p : Char → Bool) (desc : String) : Parser Unit := do
  let c ← peek
  if p c then pure () else fail ("expected " ++ desc)

/-- A natural number that does not start with a zero. -/
def natNonZero : Parser Nat := do
  lookahead (fun c => '1' ≤ c && c ≤ '9') "1-9"
  natCore 0

/-- A natural number, and how many digits it was written with. -/
def natNumDigits : Parser (Nat × Nat) := do
  lookahead (fun c => '0' ≤ c && c ≤ '9') "digit"
  natCoreNumDigits 0 0

/-- A natural number that may start with zeros. -/
def natMaybeZero : Parser Nat := do
  lookahead (fun c => '0' ≤ c && c ≤ '9') "0-9"
  natCore 0

/-- The sign of a number, if it has one. -/
def numSign : Parser Int := do
  let c ← peek
  if c == '-' then do
    skip
    pure (-1)
  else
    pure 1

/-- The part of a number in front of the decimal point: a zero alone, or no zero at its front. -/
def nat : Parser Nat := do
  let c ← peek
  if c == '0' then do
    skip
    pure 0
  else
    natNonZero

/-- A number without an exponent. -/
def numWithDecimals : Parser JsonNumber := do
  let sign ← numSign
  let whole ← nat
  if ← isEof then
    pure (JsonNumber.fromInt (sign * whole))
  else do
    let c ← peek
    if c == '.' then do
      skip
      let (n, d) ← natNumDigits
      if d > usizeSize then fail "too many decimals" else
      pure ⟨sign * (whole * (10 ^ d : Nat) + n), d⟩
    else
      pure (JsonNumber.fromInt (sign * whole))

/-- The exponent of a number, if it has one. -/
def exponent (value : JsonNumber) : Parser JsonNumber := do
  if ← isEof then
    pure value
  else do
    let c ← peek
    if c == 'e' || c == 'E' then do
      skip
      let c ← peek
      if c == '-' then do
        skip
        let n ← natMaybeZero
        pure (value.shiftr n)
      else do
        if c == '+' then skip
        let n ← natMaybeZero
        if n > usizeSize then fail "exp too large" else
        pure (value.shiftl n)
    else
      pure value

/-- A number. -/
def num : Parser JsonNumber := do
  let res ← numWithDecimals
  exponent res

/-! ### Values -/

mutual

/-- The elements of an array, up to its closing bracket. -/
def arrayCore : Nat → List Json → Parser (List Json)
  | 0, _ => fail "out of fuel"
  | fuel + 1, acc => do
    let hd ← anyCore fuel
    let acc' := hd :: acc
    let c ← any
    if c == ']' then do
      ws
      pure acc'.reverse
    else if c == ',' then do
      ws
      arrayCore fuel acc'
    else
      fail "unexpected character in array"

/-- The members of an object, up to its closing brace. -/
def objectCore : Nat → List (String × Json) → Parser (List (String × Json))
  | 0, _ => fail "out of fuel"
  | fuel + 1, kvs => do
    lookahead (fun c => c == '"') "\""
    skip
    let k ← strCore fuel []
    ws
    lookahead (fun c => c == ':') ":"
    skip
    ws
    let v ← anyCore fuel
    let c ← any
    if c == '}' then do
      ws
      pure (insertMember k v kvs)
    else if c == ',' then do
      ws
      objectCore fuel (insertMember k v kvs)
    else
      fail "unexpected character in object"

/-- A value, with the white space behind it. -/
def anyCore : Nat → Parser Json
  | 0 => fail "out of fuel"
  | fuel + 1 => do
    let c ← peek
    if c == '[' then do
      skip
      ws
      let c ← peek
      if c == ']' then do
        skip
        ws
        pure (.arr [])
      else do
        let a ← arrayCore fuel []
        pure (.arr a)
    else if c == '{' then do
      skip
      ws
      let c ← peek
      if c == '}' then do
        skip
        ws
        pure (.obj [])
      else do
        let kvs ← objectCore fuel []
        pure (.obj kvs)
    else if c == '"' then do
      skip
      let s ← strCore fuel []
      ws
      pure (.str s)
    else if c == 'f' then do
      skipString "false"
      ws
      pure (.bool false)
    else if c == 't' then do
      skipString "true"
      ws
      pure (.bool true)
    else if c == 'n' then do
      skipString "null"
      ws
      pure .null
    else if c == '-' || ('0' ≤ c && c ≤ '9') then do
      let n ← num
      ws
      pure (.num n)
    else
      fail "unexpected input"

end

/-- A single value with white space around it, and nothing else. -/
def any (fuel : Nat) : Parser Json := do
  ws
  let res ← anyCore fuel
  eof
  pure res

/-! ### Consumption -/

theorem shrinks_hexChar : Shrinks 0 hexChar := by
  refine shrinks_any.seq fun c => ?_
  exact .ite (.pure _) (.ite (.pure _) (.ite (.pure _) (shrinks_fail 0 _)))

theorem shrinks_finishSurrogatePair (low : Nat) : Shrinks 0 (finishSurrogatePair low) := by
  refine shrinks_any.seq fun c₁ => .ite (shrinks_fail 0 _) ?_
  refine shrinks_any.seq fun c₂ => .ite (shrinks_fail 0 _) ?_
  refine shrinks_any.seq fun c₃ => .ite (shrinks_fail 0 _) ?_
  refine shrinks_hexChar.seq fun u2 => shrinks_hexChar.seq fun u3 => ?_
  exact shrinks_hexChar.seq fun u4 => .ite (shrinks_fail 0 _) (.pure _)

theorem shrinks_escapedChar : Shrinks 0 escapedChar := by
  refine shrinks_any.seq fun c => ?_
  split
  case h_9 =>
    refine shrinks_hexChar.seq fun u1 => shrinks_hexChar.seq fun u2 => ?_
    refine shrinks_hexChar.seq fun u3 => shrinks_hexChar.seq fun u4 => ?_
    refine .ite (.pure _) (.ite (.ite ?_ (.pure _)) (.pure _))
    exact shrinks_attemptD (shrinks_finishSurrogatePair _) _
  case h_10 => exact shrinks_fail 0 _
  all_goals exact .pure _

/-- Each reader of the grammar leaves a shorter text, or none that is longer. -/
theorem shrinks_strCore (fuel : Nat) : ∀ acc, Shrinks 0 (strCore fuel acc) := by
  induction fuel with
  | zero => exact fun acc => shrinks_fail 0 _
  | succ fuel ih =>
    intro acc
    refine shrinks_peek.seq fun c => .ite (shrinks_skip.seq fun _ => .pure _) ?_
    refine shrinks_any.seq fun c' => .ite (shrinks_escapedChar.seq fun e => ih _) ?_
    exact .ite (ih _) (shrinks_fail 0 _)

theorem shrinks_natCore (acc : Nat) : Shrinks 0 (natCore acc) := by
  intro it
  induction it generalizing acc with
  | nil =>
    intro rest a h
    cases h
    exact Nat.le_refl _
  | cons c tail ih =>
    intro rest a h
    unfold natCore at h
    split at h
    · exact Nat.le_succ_of_le (ih _ rest a h)
    · cases h
      exact Nat.le_refl _

theorem shrinks_natCoreNumDigits (acc digits : Nat) :
    Shrinks 0 (natCoreNumDigits acc digits) := by
  intro it
  induction it generalizing acc digits with
  | nil =>
    intro rest a h
    cases h
    exact Nat.le_refl _
  | cons c tail ih =>
    intro rest a h
    unfold natCoreNumDigits at h
    split at h
    · exact Nat.le_succ_of_le (ih _ _ rest a h)
    · cases h
      exact Nat.le_refl _

theorem shrinks_lookahead (p : Char → Bool) (desc : String) : Shrinks 0 (lookahead p desc) :=
  shrinks_peek.seq fun _ => .ite (.pure _) (shrinks_fail 0 _)

theorem shrinks_natMaybeZero : Shrinks 0 natMaybeZero :=
  (shrinks_lookahead _ _).seq fun _ => shrinks_natCore 0

theorem shrinks_nat : Shrinks 0 nat := by
  refine shrinks_peek.seq fun c => .ite (shrinks_skip.seq fun _ => .pure _) ?_
  exact (shrinks_lookahead _ _).seq fun _ => shrinks_natCore 0

theorem shrinks_numWithDecimals : Shrinks 0 numWithDecimals := by
  have hsign : Shrinks 0 numSign :=
    shrinks_peek.seq fun _ => .ite (shrinks_skip.seq fun _ => .pure _) (.pure _)
  have hdigits : Shrinks 0 natNumDigits :=
    (shrinks_lookahead _ _).seq fun _ => shrinks_natCoreNumDigits 0 0
  refine hsign.seq fun sign => shrinks_nat.seq fun whole => shrinks_isEof.seq fun atEnd => ?_
  refine .ite (.pure _) (shrinks_peek.seq fun c => .ite ?_ (.pure _))
  exact shrinks_skip.seq fun _ => hdigits.seq fun (n, d) => .ite (shrinks_fail 0 _) (.pure _)

theorem shrinks_exponent (value : JsonNumber) : Shrinks 0 (exponent value) := by
  refine shrinks_isEof.seq fun atEnd => .ite (.pure _) ?_
  refine shrinks_peek.seq fun c => .ite (shrinks_skip.seq fun _ => ?_) (.pure _)
  refine shrinks_peek.seq fun c' => .ite ?_ (.ite ?_ ?_)
  · exact shrinks_skip.seq fun _ => shrinks_natMaybeZero.seq fun n => .pure _
  · refine shrinks_skip.seq fun _ => shrinks_natMaybeZero.seq fun n => ?_
    exact .ite (shrinks_fail 0 _) (.pure _)
  · exact shrinks_natMaybeZero.seq fun n => .ite (shrinks_fail 0 _) (.pure _)

/-- A number takes nothing but characters of the text. -/
theorem shrinks_num : Shrinks 0 num :=
  shrinks_numWithDecimals.seq fun _ => shrinks_exponent _

/-- The three value parsers never grow the input. -/
theorem shrinks_core (fuel : Nat) :
    Shrinks 0 (anyCore fuel) ∧ (∀ acc, Shrinks 0 (arrayCore fuel acc)) ∧
      ∀ kvs, Shrinks 0 (objectCore fuel kvs) := by
  induction fuel with
  | zero => exact ⟨shrinks_fail 0 _, fun _ => shrinks_fail 0 _, fun _ => shrinks_fail 0 _⟩
  | succ fuel ih =>
    obtain ⟨hany, harray, hobject⟩ := ih
    refine ⟨?_, ?_, ?_⟩
    · refine shrinks_peek.seq fun c => ?_
      refine .ite ?_ (.ite ?_ (.ite ?_ (.ite ?_ (.ite ?_ (.ite ?_ (.ite ?_ ?_))))))
      · refine shrinks_skip.seq fun _ => shrinks_ws.seq fun _ => shrinks_peek.seq fun c' => ?_
        refine .ite (shrinks_skip.seq fun _ => shrinks_ws.seq fun _ => .pure _) ?_
        exact (harray []).seq fun _ => .pure _
      · refine shrinks_skip.seq fun _ => shrinks_ws.seq fun _ => shrinks_peek.seq fun c' => ?_
        refine .ite (shrinks_skip.seq fun _ => shrinks_ws.seq fun _ => .pure _) ?_
        exact (hobject []).seq fun _ => .pure _
      · refine shrinks_skip.seq fun _ => (shrinks_strCore fuel []).seq fun s => ?_
        exact shrinks_ws.seq fun _ => .pure _
      · exact (shrinks_skipString _).seq fun _ => shrinks_ws.seq fun _ => .pure _
      · exact (shrinks_skipString _).seq fun _ => shrinks_ws.seq fun _ => .pure _
      · exact (shrinks_skipString _).seq fun _ => shrinks_ws.seq fun _ => .pure _
      · exact shrinks_num.seq fun n => shrinks_ws.seq fun _ => .pure _
      · exact shrinks_fail 0 _
    · intro acc
      refine hany.seq fun hd => shrinks_any.seq fun c => ?_
      refine .ite (shrinks_ws.seq fun _ => .pure _) (.ite ?_ (shrinks_fail 0 _))
      exact shrinks_ws.seq fun _ => harray _
    · intro kvs
      refine (shrinks_lookahead _ _).seq fun _ => shrinks_skip.seq fun _ => ?_
      refine (shrinks_strCore fuel []).seq fun k => shrinks_ws.seq fun _ => ?_
      refine (shrinks_lookahead _ _).seq fun _ => shrinks_skip.seq fun _ => ?_
      refine shrinks_ws.seq fun _ => hany.seq fun v => shrinks_any.seq fun c => ?_
      refine .ite (shrinks_ws.seq fun _ => .pure _) (.ite ?_ (shrinks_fail 0 _))
      exact shrinks_ws.seq fun _ => hobject _

/-! ### Fuel -/

/-- Reading a string takes less fuel than the input has characters, plus one. -/
theorem strCore_fuel (n m : Nat) : ∀ (length : Nat) (acc : List Char),
    length < n → length < m → AgreeUpTo length (strCore n acc) (strCore m acc) := by
  induction n generalizing m with
  | zero => intro length acc hn; omega
  | succ n ih =>
    intro length acc hn hm
    obtain ⟨m, rfl⟩ : ∃ m', m = m' + 1 := ⟨m - 1, by omega⟩
    refine .bind (.refl _ _) shrinks_peek fun c _ => .ite (.refl _ _) ?_
    refine .bind (.refl _ _) shrinks_any fun c' hc' => .ite ?_ (.ite ?_ (.refl _ _))
    · refine .bind (.refl _ _) shrinks_escapedChar fun e _ => ?_
      exact ih m _ _ (by omega) (by omega)
    · exact ih m _ _ (by omega) (by omega)

/-- Any two sufficient amounts of fuel give the value parsers the same outcome.  An array calls
the value parser on the same input, so it needs one unit more than a value of that length. -/
theorem core_fuel (n m : Nat) : ∀ length : Nat,
    (2 * length + 1 ≤ n → 2 * length + 1 ≤ m → AgreeUpTo length (anyCore n) (anyCore m)) ∧
    (2 * length + 2 ≤ n → 2 * length + 2 ≤ m →
      ∀ acc, AgreeUpTo length (arrayCore n acc) (arrayCore m acc)) ∧
    (2 * length + 2 ≤ n → 2 * length + 2 ≤ m →
      ∀ kvs, AgreeUpTo length (objectCore n kvs) (objectCore m kvs)) := by
  induction n generalizing m with
  | zero =>
    intro length
    exact ⟨fun h => by omega, fun h => by omega, fun h => by omega⟩
  | succ n ih =>
    intro length
    refine ⟨fun hn hm => ?_, fun hn hm acc => ?_, fun hn hm kvs => ?_⟩
    · obtain ⟨m, rfl⟩ : ∃ m', m = m' + 1 := ⟨m - 1, by omega⟩
      refine .bind (.refl _ _) shrinks_peek fun c _ => ?_
      refine .ite ?_ (.ite ?_ (.ite ?_ (.refl _ _)))
      · refine .bind (.refl _ _) shrinks_skip fun _ hlen => ?_
        refine .bind (.refl _ _) shrinks_ws fun _ _ => ?_
        refine .bind (.refl _ _) shrinks_peek fun c' _ => .ite (.refl _ _) ?_
        refine .bind ?_ ((shrinks_core m).2.1 []) fun _ _ => .refl _ _
        exact (ih m _).2.1 (by omega) (by omega) []
      · refine .bind (.refl _ _) shrinks_skip fun _ hlen => ?_
        refine .bind (.refl _ _) shrinks_ws fun _ _ => ?_
        refine .bind (.refl _ _) shrinks_peek fun c' _ => .ite (.refl _ _) ?_
        refine .bind ?_ ((shrinks_core m).2.2 []) fun _ _ => .refl _ _
        exact (ih m _).2.2 (by omega) (by omega) []
      · refine .bind (.refl _ _) shrinks_skip fun _ hlen => ?_
        refine .bind ?_ (shrinks_strCore m []) fun _ _ => .refl _ _
        exact strCore_fuel n m _ [] (by omega) (by omega)
    · obtain ⟨m, rfl⟩ : ∃ m', m = m' + 1 := ⟨m - 1, by omega⟩
      refine .bind ((ih m length).1 (by omega) (by omega)) (shrinks_core m).1 fun hd _ => ?_
      refine .bind (.refl _ _) shrinks_any fun c hlen => .ite (.refl _ _) ?_
      refine .ite (.bind (.refl _ _) shrinks_ws fun _ _ => ?_) (.refl _ _)
      exact (ih m _).2.1 (by omega) (by omega) _
    · obtain ⟨m, rfl⟩ : ∃ m', m = m' + 1 := ⟨m - 1, by omega⟩
      refine .bind (.refl _ _) (shrinks_lookahead _ _) fun _ _ => ?_
      refine .bind (.refl _ _) shrinks_skip fun _ hlen => ?_
      refine .bind (strCore_fuel n m _ [] (by omega) (by omega)) (shrinks_strCore m []) ?_
      refine fun k _ => .bind (.refl _ _) shrinks_ws fun _ _ => ?_
      refine .bind (.refl _ _) (shrinks_lookahead _ _) fun _ _ => ?_
      refine .bind (.refl _ _) shrinks_skip fun _ _ => .bind (.refl _ _) shrinks_ws fun _ _ => ?_
      refine .bind ((ih m _).1 (by omega) (by omega)) (shrinks_core m).1 fun v _ => ?_
      refine .bind (.refl _ _) shrinks_any fun c _ => .ite (.refl _ _) ?_
      refine .ite (.bind (.refl _ _) shrinks_ws fun _ _ => ?_) (.refl _ _)
      exact (ih m _).2.2 (by omega) (by omega) _

/-- Any two sufficient amounts of fuel give the whole parser the same outcome. -/
theorem any_fuel {n m length : Nat} (hn : 2 * length + 1 ≤ n) (hm : 2 * length + 1 ≤ m) :
    AgreeUpTo length (any n) (any m) := by
  refine .bind (.refl _ _) shrinks_ws fun _ _ => ?_
  refine .bind ((core_fuel n m _).1 (by omega) (by omega)) (shrinks_core m).1 fun _ _ => ?_
  exact .refl _ _

end Json.Parser

/-- Parse a list of characters that holds one JSON value. -/
def Json.parseChars (chars : List Char) : Except String Json :=
  Parser.run (Json.Parser.any (2 * chars.length + 2)) chars

/-- Parse a text that holds one JSON value. -/
def Json.parse (s : String) : Except String Json := Json.parseChars s.toList

/-- The fuel does not matter: more of it parses every text the same way. -/
theorem Json.parse_fuel (s : String) (fuel : Nat) (h : 2 * s.length + 1 ≤ fuel) :
    Parser.run (Json.Parser.any fuel) s.toList = Json.parse s := by
  have hlength : s.toList.length = s.length := String.length_toList
  have hagree : Parser.AgreeUpTo s.toList.length (Json.Parser.any fuel)
      (Json.Parser.any (2 * s.toList.length + 2)) := Json.Parser.any_fuel (by omega) (by omega)
  unfold Json.parse Json.parseChars Parser.run
  rw [hagree s.toList (Nat.le_refl _)]

end AgentConvert
