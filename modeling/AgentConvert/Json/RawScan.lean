import AgentConvert.Json.Parser
import AgentConvert.Lib.Fallible

/-!
# Duplicate members in raw JSON

A parsed object has one member per key, so a text that spells a key twice is only told apart
before it is parsed.  The scanner here follows the structure of the raw text, decodes the keys
and collects the path of every member whose key was already used in the same object.

The scanner is recursive on a fuel argument; `scanRawJsonValue_fuel` says that any sufficient
amount gives the same outcome.
-/

namespace AgentConvert

/-- What a scan leaves, and the paths of the duplicate members it passed. -/
structure RawJsonScan where
  rest : List Char
  duplicatePaths : List String

/-- The characters that may stand between tokens. -/
def rawJsonWhitespace (char : Char) : Bool :=
  char == ' ' || char == '\n' || char == '\r' || char == '\t'

/-- What is left behind white space. -/
def dropRawJsonWhitespace (chars : List Char) : List Char :=
  chars.dropWhile rawJsonWhitespace

/-- The characters up to the closing quote, escapes left as they are. -/
def takeRawJsonString (chars reversed : List Char) : Except String (String × List Char) :=
  match chars with
  | [] => .error "unterminated JSON string"
  | '"' :: rest => .ok (String.ofList reversed.reverse, rest)
  | '\\' :: escaped :: rest => takeRawJsonString rest (escaped :: '\\' :: reversed)
  | '\\' :: [] => .error "unterminated JSON string escape"
  | char :: rest => takeRawJsonString rest (char :: reversed)

/-- The key that an encoded key stands for. -/
def decodeRawJsonKey (encoded : String) : Except String String :=
  match Json.parse ("\"" ++ encoded ++ "\"") with
  | .ok (.str key) => .ok key
  | .ok _ => .error "JSON object key did not decode as a string"
  | .error error => .error error

/-- Step over the colon behind a key. -/
def takeRawJsonColon (afterKey : List Char) : Except String (List Char) :=
  match dropRawJsonWhitespace afterKey with
  | ':' :: tail => .ok tail
  | _ => .error "JSON object key is missing ':'"

/-- The path of a member, below the path of its object. -/
def rawJsonMemberPath (parent key : String) : String :=
  if parent.isEmpty then key else parent ++ "." ++ key

/-- The path of a member whose key was seen before. -/
def repeatedRawJsonMember (seen : List String) (key memberPath : String) : List String :=
  if seen.contains key then [memberPath] else []

/-- What is left behind a number or a literal, however it is spelled. -/
def dropRawJsonPrimitive : List Char → List Char
  | [] => []
  | char :: rest =>
    if char == ',' || char == ']' || char == '}' then char :: rest
    else dropRawJsonPrimitive rest

mutual

/-- A value, an object from a member on, or an array from an element on.  The three call each
other. -/
def scanRawJsonValue : Nat → List Char → String → Except String RawJsonScan
  | 0, _, _ => .error "out of fuel"
  | fuel + 1, chars, path =>
    match dropRawJsonWhitespace chars with
    | [] => .error "missing JSON value"
    | '{' :: rest => scanRawJsonObject fuel rest path [] []
    | '[' :: rest => scanRawJsonArray fuel rest path 0 []
    | '"' :: rest => do
      let (_, tail) ← takeRawJsonString rest []
      pure ⟨tail, []⟩
    | primitive => pure ⟨dropRawJsonPrimitive primitive, []⟩

/-- The members up to the closing brace.  `seen` has the keys of this object so far. -/
def scanRawJsonObject : Nat → List Char → String → List String → List String →
    Except String RawJsonScan
  | 0, _, _, _, _ => .error "out of fuel"
  | fuel + 1, chars, path, seen, duplicates =>
    match dropRawJsonWhitespace chars with
    | [] => .error "unterminated JSON object"
    | '}' :: rest => pure ⟨rest, duplicates⟩
    | '"' :: rest => do
      let (encodedKey, afterKey) ← takeRawJsonString rest []
      let key ← decodeRawJsonKey encodedKey
      let afterColon ← takeRawJsonColon afterKey
      let memberPath := rawJsonMemberPath path key
      let value ← scanRawJsonValue fuel afterColon memberPath
      let duplicates := duplicates ++ value.duplicatePaths ++
        repeatedRawJsonMember seen key memberPath
      match dropRawJsonWhitespace value.rest with
      | ',' :: tail => scanRawJsonObject fuel tail path (key :: seen) duplicates
      | '}' :: tail => pure ⟨tail, duplicates⟩
      | _ => .error "JSON object member is missing ',' or '\x7d'"
    | _ => .error "JSON object key must be a string"

/-- The elements up to the closing bracket.  A path counts them from zero. -/
def scanRawJsonArray : Nat → List Char → String → Nat → List String →
    Except String RawJsonScan
  | 0, _, _, _, _ => .error "out of fuel"
  | fuel + 1, chars, path, index, duplicates =>
    match dropRawJsonWhitespace chars with
    | [] => .error "unterminated JSON array"
    | ']' :: rest => pure ⟨rest, duplicates⟩
    | valueChars => do
      let value ← scanRawJsonValue fuel valueChars s!"{path}[{index}]"
      let duplicates := duplicates ++ value.duplicatePaths
      match dropRawJsonWhitespace value.rest with
      | ',' :: tail => scanRawJsonArray fuel tail path (index + 1) duplicates
      | ']' :: tail => pure ⟨tail, duplicates⟩
      | _ => .error "JSON array member is missing ',' or ']'"

end

/-- The paths of all members whose key is used before in the same object. -/
def rawJsonDuplicatePathsOfChars (chars : List Char) : Except String (List String) := do
  let scanned ← scanRawJsonValue (2 * chars.length + 2) chars ""
  if (dropRawJsonWhitespace scanned.rest).isEmpty then
    pure scanned.duplicatePaths
  else
    .error "trailing content after JSON value"

/-- The paths of the members that stand twice in an object of the text. -/
def rawJsonDuplicatePaths (text : String) : Except String (List String) :=
  rawJsonDuplicatePathsOfChars text.toList

/-! ### What a scan leaves -/

/-- Dropping white space makes a text no longer. -/
theorem length_dropRawJsonWhitespace_le (chars : List Char) :
    (dropRawJsonWhitespace chars).length ≤ chars.length :=
  (List.dropWhile_suffix _).length_le

/-- Nor does dropping a number or a literal. -/
theorem length_dropRawJsonPrimitive_le (chars : List Char) :
    (dropRawJsonPrimitive chars).length ≤ chars.length := by
  induction chars with
  | nil => exact Nat.le_refl _
  | cons c rest ih =>
    unfold dropRawJsonPrimitive
    split
    · exact Nat.le_refl _
    · exact Nat.le_succ_of_le ih

/-- A string that was read leaves less than there was. -/
theorem takeRawJsonString_length {chars reversed : List Char} {s : String} {rest : List Char}
    (h : takeRawJsonString chars reversed = .ok (s, rest)) : rest.length < chars.length := by
  fun_induction takeRawJsonString chars reversed with
  | case1 => cases h
  | case2 reversed rest' =>
    cases h
    simp
  | case3 reversed escaped rest' ih =>
    have := ih h
    simp only [List.length_cons]
    omega
  | case4 => cases h
  | case5 reversed c rest' _ _ _ ih =>
    have := ih h
    simp only [List.length_cons]
    omega

/-- What starts behind the white space is no longer than the input. -/
theorem length_lt_of_dropRawJsonWhitespace {chars rest : List Char} {c : Char}
    (h : dropRawJsonWhitespace chars = c :: rest) : rest.length < chars.length := by
  have hle := length_dropRawJsonWhitespace_le chars
  rw [h, List.length_cons] at hle
  exact hle

/-- Stepping over a colon leaves less than there was. -/
theorem takeRawJsonColon_length {afterKey rest : List Char}
    (h : takeRawJsonColon afterKey = .ok rest) : rest.length < afterKey.length := by
  unfold takeRawJsonColon at h
  split at h
  next tail htail =>
    cases h
    exact length_lt_of_dropRawJsonWhitespace htail
  · cases h

/-- The three scanners never grow the input. -/
theorem scanRawJson_shrinks (fuel : Nat) :
    (∀ chars path r, scanRawJsonValue fuel chars path = .ok r →
      r.rest.length ≤ chars.length) ∧
    (∀ chars path seen dups r, scanRawJsonObject fuel chars path seen dups = .ok r →
      r.rest.length ≤ chars.length) ∧
    (∀ chars path index dups r, scanRawJsonArray fuel chars path index dups = .ok r →
      r.rest.length ≤ chars.length) := by
  induction fuel with
  | zero =>
    refine ⟨?_, ?_, ?_⟩
    · intro chars path r h
      cases h
    · intro chars path seen dups r h
      cases h
    · intro chars path index dups r h
      cases h
  | succ fuel ih =>
    obtain ⟨hvalue, hobject, harray⟩ := ih
    refine ⟨?_, ?_, ?_⟩
    · intro chars path r h
      unfold scanRawJsonValue at h
      split at h
      · cases h
      next rest hd =>
        have := length_lt_of_dropRawJsonWhitespace hd
        have := hobject _ _ _ _ _ h
        omega
      next rest hd =>
        have := length_lt_of_dropRawJsonWhitespace hd
        have := harray _ _ _ _ _ h
        omega
      next rest hd =>
        have := length_lt_of_dropRawJsonWhitespace hd
        obtain ⟨⟨key, tail⟩, htake, hpure⟩ := bind_ok_iff.mp h
        cases hpure
        have := takeRawJsonString_length htake
        simp only
        omega
      next primitive _ _ _ =>
        cases h
        have := length_dropRawJsonPrimitive_le (dropRawJsonWhitespace chars)
        have := length_dropRawJsonWhitespace_le chars
        simp only
        omega
    · intro chars path seen dups r h
      unfold scanRawJsonObject at h
      split at h
      · cases h
      next rest hd =>
        cases h
        exact Nat.le_of_lt (length_lt_of_dropRawJsonWhitespace hd)
      next rest hd =>
        have := length_lt_of_dropRawJsonWhitespace hd
        obtain ⟨⟨encodedKey, afterKey⟩, htake, h⟩ := bind_ok_iff.mp h
        have := takeRawJsonString_length htake
        obtain ⟨key, _, h⟩ := bind_ok_iff.mp h
        obtain ⟨afterColon, hcolon, h⟩ := bind_ok_iff.mp h
        have := takeRawJsonColon_length hcolon
        obtain ⟨value, hval, h⟩ := bind_ok_iff.mp h
        have := hvalue _ _ _ hval
        split at h
        next tail htail =>
          have := length_lt_of_dropRawJsonWhitespace htail
          have := hobject _ _ _ _ _ h
          omega
        next tail htail =>
          cases h
          have := length_lt_of_dropRawJsonWhitespace htail
          simp only
          omega
        · cases h
      · cases h
    · intro chars path index dups r h
      unfold scanRawJsonArray at h
      split at h
      · cases h
      next rest hd =>
        cases h
        exact Nat.le_of_lt (length_lt_of_dropRawJsonWhitespace hd)
      · have := length_dropRawJsonWhitespace_le chars
        obtain ⟨value, hval, h⟩ := bind_ok_iff.mp h
        have := hvalue _ _ _ hval
        split at h
        next tail htail =>
          have := length_lt_of_dropRawJsonWhitespace htail
          have := harray _ _ _ _ _ h
          omega
        next tail htail =>
          cases h
          have := length_lt_of_dropRawJsonWhitespace htail
          simp only
          omega
        · cases h

/-! ### Fuel -/

/-- Two results are equal when what follows them is equal on whatever the first one returns. -/
theorem bind_congr_ok {ε α β : Type} {e : Except ε α} {f g : α → Except ε β}
    (h : ∀ a, e = .ok a → f a = g a) : (e >>= f) = (e >>= g) := by
  cases e with
  | error _ => rfl
  | ok a => exact h a rfl

/-- Any two sufficient amounts of fuel give the scanners the same outcome. -/
theorem scanRawJson_fuel (n m : Nat) :
    (∀ chars path, 2 * chars.length + 1 ≤ n → 2 * chars.length + 1 ≤ m →
      scanRawJsonValue n chars path = scanRawJsonValue m chars path) ∧
    (∀ chars path seen dups, 2 * chars.length + 2 ≤ n → 2 * chars.length + 2 ≤ m →
      scanRawJsonObject n chars path seen dups = scanRawJsonObject m chars path seen dups) ∧
    (∀ chars path index dups, 2 * chars.length + 2 ≤ n → 2 * chars.length + 2 ≤ m →
      scanRawJsonArray n chars path index dups = scanRawJsonArray m chars path index dups) := by
  induction n generalizing m with
  | zero =>
    refine ⟨?_, ?_, ?_⟩
    · intro chars path hn
      omega
    · intro chars path seen dups hn
      omega
    · intro chars path index dups hn
      omega
  | succ n ih =>
    refine ⟨?_, ?_, ?_⟩
    · intro chars path hn hm
      obtain ⟨m, rfl⟩ : ∃ m', m = m' + 1 := ⟨m - 1, by omega⟩
      unfold scanRawJsonValue
      split
      · rfl
      next rest hd =>
        have := length_lt_of_dropRawJsonWhitespace hd
        exact (ih m).2.1 _ _ _ _ (by omega) (by omega)
      next rest hd =>
        have := length_lt_of_dropRawJsonWhitespace hd
        exact (ih m).2.2 _ _ _ _ (by omega) (by omega)
      · rfl
      · rfl
    · intro chars path seen dups hn hm
      obtain ⟨m, rfl⟩ : ∃ m', m = m' + 1 := ⟨m - 1, by omega⟩
      unfold scanRawJsonObject
      split
      · rfl
      · rfl
      next rest hd =>
        have := length_lt_of_dropRawJsonWhitespace hd
        refine bind_congr_ok fun (encodedKey, afterKey) htake => ?_
        have := takeRawJsonString_length htake
        refine bind_congr_ok fun key _ => ?_
        refine bind_congr_ok fun afterColon hcolon => ?_
        have := takeRawJsonColon_length hcolon
        dsimp only
        rw [(ih m).1 _ _ (by omega) (by omega)]
        refine bind_congr_ok fun value hval => ?_
        have := (scanRawJson_shrinks m).1 _ _ _ hval
        split
        next tail htail =>
          have := length_lt_of_dropRawJsonWhitespace htail
          exact (ih m).2.1 _ _ _ _ (by omega) (by omega)
        · rfl
        · rfl
      · rfl
    · intro chars path index dups hn hm
      obtain ⟨m, rfl⟩ : ∃ m', m = m' + 1 := ⟨m - 1, by omega⟩
      unfold scanRawJsonArray
      have := length_dropRawJsonWhitespace_le chars
      split
      · rfl
      · rfl
      · rw [(ih m).1 _ _ (by omega) (by omega)]
        refine bind_congr_ok fun value hval => ?_
        have := (scanRawJson_shrinks m).1 _ _ _ hval
        split
        next tail htail =>
          have := length_lt_of_dropRawJsonWhitespace htail
          exact (ih m).2.2 _ _ _ _ (by omega) (by omega)
        · rfl
        · rfl

/-- The fuel does not matter: more of it scans every text the same way. -/
theorem scanRawJsonValue_fuel (chars : List Char) (path : String) (fuel : Nat)
    (h : 2 * chars.length + 1 ≤ fuel) :
    scanRawJsonValue fuel chars path = scanRawJsonValue (2 * chars.length + 2) chars path :=
  (scanRawJson_fuel fuel _).1 _ _ (by omega) (by omega)

end AgentConvert
