import Mathlib.Algebra.Group.Nat.Defs
import Mathlib.Data.List.Basic
import Mathlib.Data.Option.Basic

/-!
# JSON values

The JSON values the importers read, with the accessors they read them by.  A number is a decimal
`mantissa * 10 ^ -exponent`.  An object is a list of members ordered by key, one per key, which
is what a map built from the members in any order amounts to.

## Main definitions

* `Json` — JSON values
* `Json.getObjVal?`, `Json.getStr?`, `Json.getArr?`, `Json.getNat?`, `Json.getBool?`
* `Json.mkObj` — objects from members
* `Json.compress` — the shortest rendering on one line
-/

namespace AgentConvert

/-- The decimal `mantissa * 10 ^ -exponent`. -/
structure JsonNumber where
  mantissa : Int
  exponent : Nat
  deriving DecidableEq, Repr, Inhabited

/-- A JSON value. -/
inductive Json where
  | null
  | bool (b : Bool)
  | num (n : JsonNumber)
  | str (s : String)
  | arr (elems : List Json)
  | obj (kvPairs : List (String × Json))
  deriving Inhabited, Repr

namespace JsonNumber

/-- An integer as a decimal. -/
def fromInt (n : Int) : JsonNumber := ⟨n, 0⟩

/-- A natural number as a decimal. -/
def fromNat (n : Nat) : JsonNumber := ⟨n, 0⟩

/-- Shift by `s` places to the left.  Zeros are appended once the exponent is used up. -/
def shiftl : JsonNumber → Nat → JsonNumber
  | ⟨m, e⟩, s => ⟨m * (10 ^ (s - e) : Nat), e - s⟩

/-- Shift by `s` places to the right. -/
def shiftr : JsonNumber → Nat → JsonNumber
  | ⟨m, e⟩, s => ⟨m, e + s⟩

/-- The number of decimal digits of `n`. -/
def countDigits (n : Nat) : Nat := (Nat.repr n).length

/-- The decimal rendering: plain digits while there are at most nine more places than digits,
otherwise with an exponent. -/
protected def toString : JsonNumber → String
  | ⟨m, 0⟩ => m.repr
  | ⟨m, e⟩ =>
    let sign := if m ≥ 0 then "" else "-"
    let m := m.natAbs
    let exp : Int := 9 + countDigits m - (e : Int)
    let exp := if exp < 0 then exp else 0
    let e' := 10 ^ (e - exp.natAbs)
    let left := (m / e').repr
    if m % e' = 0 && exp = 0 then
      s!"{sign}{left}"
    else
      let digits := ((e' + m % e').repr.toList.drop 1).reverse
      let right := String.ofList (digits.dropWhile fun c => c == '0').reverse
      let exp := if exp = 0 then "" else "e" ++ exp.repr
      s!"{sign}{left}.{right}{exp}"

end JsonNumber

namespace Json

/-! ### Members of an object -/

/-- Insert a member at its place in the key order; a member with the same key is replaced. -/
def insertMember (k : String) (v : Json) : List (String × Json) → List (String × Json)
  | [] => [(k, v)]
  | (k', v') :: rest =>
    match compare k k' with
    | .lt => (k, v) :: (k', v') :: rest
    | .eq => (k, v) :: rest
    | .gt => (k', v') :: insertMember k v rest

/-- Inserting a member leaves every other one as it is. -/
theorem lookup_insertMember_of_ne {k k' : String} (h : k' ≠ k) (v : Json)
    (members : List (String × Json)) :
    (insertMember k v members).lookup k' = members.lookup k' := by
  have hne : (k' == k) = false := beq_eq_false_iff_ne.mpr h
  induction members with
  | nil => rw [insertMember, List.lookup_cons, hne]
  | cons member rest ih =>
    obtain ⟨k₁, v₁⟩ := member
    unfold insertMember
    split
    · rw [List.lookup_cons, hne]
    next heq =>
      -- The member that is replaced has the same key.
      have hk : k = k₁ := Std.LawfulEqCmp.eq_of_compare heq
      subst hk
      rw [List.lookup_cons, List.lookup_cons, hne]
    · rw [List.lookup_cons, List.lookup_cons, ih]

/-- Remove the member with the given key. -/
def eraseMember (k : String) (members : List (String × Json)) : List (String × Json) :=
  members.filter fun (k', _) => k' != k

/-- The object with the given members.  Of two members with one key the last one counts. -/
def mkObj (members : List (String × Json)) : Json :=
  .obj (members.foldl (fun acc (k, v) => insertMember k v acc) [])

/-! ### Accessors -/

/-- The member of an object. -/
def getObjVal? : Json → String → Except String Json
  | .obj kvs, k =>
    match kvs.lookup k with
    | some v => .ok v
    | none => .error s!"property not found: {k}"
  | _, _ => .error "object expected"

/-- The elements of an array. -/
def getArr? : Json → Except String (List Json)
  | .arr elems => .ok elems
  | _ => .error "array expected"

/-- The text of a string. -/
def getStr? : Json → Except String String
  | .str s => .ok s
  | _ => .error "String expected"

/-- A number is a natural number when its mantissa is non-negative and its exponent is zero. -/
def getNat? : Json → Except String Nat
  | .num ⟨.ofNat n, 0⟩ => .ok n
  | _ => .error "Natural number expected"

/-- The value of a Boolean. -/
def getBool? : Json → Except String Bool
  | .bool b => .ok b
  | _ => .error "Bool expected"

/-- The numeral of a natural number. -/
def ofNat (n : Nat) : Json := .num (JsonNumber.fromNat n)

/-! ### Equality -/

mutual

/-- Equality of values: arrays by position, objects by key. -/
def beq : Json → Json → Bool
  | .null, .null => true
  | .bool a, .bool b => a == b
  | .num a, .num b => a == b
  | .str a, .str b => a == b
  | .arr as, .arr bs => beqElems as bs
  | .obj as, .obj bs => as.length == bs.length && membersIn as bs
  | _, _ => false

/-- The arrays have the same length and equal elements. -/
def beqElems : List Json → List Json → Bool
  | [], [] => true
  | a :: as, b :: bs => beq a b && beqElems as bs
  | _, _ => false

/-- Every member of the first list has an equal value in the second. -/
def membersIn : List (String × Json) → List (String × Json) → Bool
  | [], _ => true
  | (k, a) :: as, bs =>
    (match bs.lookup k with
      | none => false
      | some b => beq a b) && membersIn as bs

end

instance : BEq Json := ⟨beq⟩

/-! ### Rendering -/

/-- A character inside a string literal: quotes, backslashes, line ends and control characters
are escaped, every other character stands for itself. -/
def escapeAux (c : Char) : List Char :=
  if c = '"' then ['\\', '"']
  else if c = '\\' then ['\\', '\\']
  else if c = '\n' then ['\\', 'n']
  else if c = '\r' then ['\\', 'r']
  else if 32 ≤ c.toNat then [c]
  else
    let n := c.toNat
    ['\\', 'u', Nat.digitChar (n / 4096), Nat.digitChar (n % 4096 / 256),
      Nat.digitChar (n % 256 / 16), Nat.digitChar (n % 16)]

/-- A string in quotes. -/
def renderString (s : String) : String :=
  "\"" ++ String.ofList (s.toList.flatMap escapeAux) ++ "\""

mutual

/-- The rendering without white space, members in key order. -/
def compress : Json → String
  | .null => "null"
  | .bool b => if b then "true" else "false"
  | .num n => n.toString
  | .str s => renderString s
  | .arr elems => "[" ++ String.intercalate "," (compressElems elems) ++ "]"
  | .obj kvs => "\x7b" ++ String.intercalate "," (compressMembers kvs) ++ "\x7d"

/-- The renderings of the elements. -/
def compressElems : List Json → List String
  | [] => []
  | v :: rest => compress v :: compressElems rest

/-- The renderings of the members, each with its key. -/
def compressMembers : List (String × Json) → List String
  | [] => []
  | (k, v) :: rest => (renderString k ++ ":" ++ compress v) :: compressMembers rest

end

end Json

end AgentConvert
