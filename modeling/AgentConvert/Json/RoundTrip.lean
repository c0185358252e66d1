import AgentConvert.Json.Number
import AgentConvert.Json.Ordered
import Mathlib.Tactic.IntervalCases

/-!
# Values, written and read

A value is written on one line and read back as the same value, up to the zeros at the end of a
fraction.  The only values that are not read back are those with a number that has no readable
rendering.

## Main definitions

* `Json.normal` — the value with every number in normal form
* `Json.Printable` — every number inside the value can be read back

## Main statements

* `Json.parse_compress` — a printable value is read back in normal form
* `Json.parse_compress_accepts_iff` — the text of any other value is refused
* `Json.compress_normal` — a value and its normal form are written alike
-/

namespace AgentConvert

namespace Json

/-! ### Normal form -/

mutual

/-- The value with every number in normal form. -/
def normal : Json → Json
  | .num n => .num n.normal
  | .arr elems => .arr (normalElems elems)
  | .obj kvs => .obj (normalMembers kvs)
  | .null => .null
  | .bool b => .bool b
  | .str s => .str s

/-- The normal forms of the elements. -/
def normalElems : List Json → List Json
  | [] => []
  | v :: rest => normal v :: normalElems rest

/-- The members with their values in normal form. -/
def normalMembers : List (String × Json) → List (String × Json)
  | [] => []
  | (k, v) :: rest => (k, normal v) :: normalMembers rest

/-- Every number inside the value can be read back. -/
def Printable : Json → Prop
  | .num n => n.Printable
  | .arr elems => PrintableElems elems
  | .obj kvs => PrintableMembers kvs
  | .null | .bool _ | .str _ => True

/-- Every element is printable. -/
def PrintableElems : List Json → Prop
  | [] => True
  | v :: rest => Printable v ∧ PrintableElems rest

/-- The value of every member is printable. -/
def PrintableMembers : List (String × Json) → Prop
  | [] => True
  | (_, v) :: rest => Printable v ∧ PrintableMembers rest

end

mutual

/-- **A value and its normal form are written alike.** -/
theorem compress_normal : ∀ {j : Json}, j.Printable → j.normal.compress = j.compress
  | .null, _ => rfl
  | .bool _, _ => rfl
  | .num n, h => n.toString_normal h
  | .str _, _ => rfl
  | .arr elems, h => by
    unfold normal compress
    rw [compressElems_normal h]
  | .obj kvs, h => by
    unfold normal compress
    rw [compressMembers_normal h]

theorem compressElems_normal : ∀ {elems : List Json}, PrintableElems elems →
    compressElems (normalElems elems) = compressElems elems
  | [], _ => rfl
  | v :: rest, h => by
    unfold normalElems compressElems
    rw [compress_normal h.1, compressElems_normal h.2]

theorem compressMembers_normal : ∀ {members : List (String × Json)}, PrintableMembers members →
    compressMembers (normalMembers members) = compressMembers members
  | [], _ => rfl
  | (k, v) :: rest, h => by
    unfold normalMembers compressMembers
    rw [compress_normal h.1, compressMembers_normal h.2]

end

/-- The elements are printable when each of them is. -/
theorem printableElems_iff {elems : List Json} :
    PrintableElems elems ↔ ∀ v ∈ elems, Printable v := by
  induction elems with
  | nil => simp [PrintableElems]
  | cons v rest ih => rw [PrintableElems, ih, List.forall_mem_cons]

/-- The members are printable when the value of each of them is. -/
theorem printableMembers_iff {members : List (String × Json)} :
    PrintableMembers members ↔ ∀ member ∈ members, Printable member.2 := by
  induction members with
  | nil => simp [PrintableMembers]
  | cons member rest ih => rw [PrintableMembers, ih, List.forall_mem_cons]

/-- An object or an array is printable by its parts. -/
theorem compositional_printable : Compositional Printable where
  bool _ := trivial
  str _ := trivial
  arr _ := printableElems_iff
  obj _ _ := printableMembers_iff

theorem normalElems_eq_map (elems : List Json) : normalElems elems = elems.map normal := by
  induction elems with
  | nil => rfl
  | cons v rest ih => rw [normalElems, ih, List.map_cons]

@[simp] theorem normal_str (s : String) : normal (.str s) = .str s := rfl

@[simp] theorem normal_bool (b : Bool) : normal (.bool b) = .bool b := rfl

/-- The normal form of an array of rendered values. -/
@[simp] theorem normal_arr_map {α : Type} (f : α → Json) (l : List α) :
    normal (.arr (l.map f)) = .arr (l.map fun a => (f a).normal) := by
  show Json.arr (normalElems (l.map f)) = _
  rw [normalElems_eq_map, List.map_map]
  rfl

/-- Normal forms can be taken before or after an insertion. -/
theorem normalMembers_insertMember (k : String) (v : Json) (members : List (String × Json)) :
    normalMembers (insertMember k v members) = insertMember k v.normal (normalMembers members) := by
  induction members with
  | nil => rfl
  | cons first rest ih =>
    obtain ⟨k₁, v₁⟩ := first
    cases hcompare : compare k k₁ with
    | lt => simp only [insertMember, normalMembers, hcompare]
    | eq => simp only [insertMember, normalMembers, hcompare]
    | gt => simp only [insertMember, normalMembers, hcompare, ih]

/-- The normal form of an object is made from the normal forms of its members. -/
@[simp] theorem normal_mkObj (members : List (String × Json)) :
    normal (mkObj members) = mkObj (members.map fun member => (member.1, member.2.normal)) := by
  have hloop : ∀ acc : List (String × Json),
      normalMembers (members.foldl (fun acc m => insertMember m.1 m.2 acc) acc) =
        (members.map fun member => (member.1, member.2.normal)).foldl
          (fun acc m => insertMember m.1 m.2 acc) (normalMembers acc) := by
    induction members with
    | nil => exact fun acc => rfl
    | cons first rest ih =>
      obtain ⟨k, v⟩ := first
      intro acc
      rw [List.foldl_cons, ih, normalMembers_insertMember, List.map_cons, List.foldl_cons]
  exact congrArg Json.obj (hloop [])

/-- A list is normal exactly if its elements are. -/
theorem normalElems_eq_self_iff {elems : List Json} :
    normalElems elems = elems ↔ ∀ v ∈ elems, v.normal = v := by
  induction elems with
  | nil => simp [normalElems]
  | cons v rest ih => rw [normalElems, List.cons.injEq, ih, List.forall_mem_cons]

/-- Members are normal exactly if their values are. -/
theorem normalMembers_eq_self_iff {members : List (String × Json)} :
    normalMembers members = members ↔ ∀ member ∈ members, member.2.normal = member.2 := by
  induction members with
  | nil => simp [normalMembers]
  | cons member rest ih =>
    obtain ⟨k, v⟩ := member
    rw [normalMembers, List.cons.injEq, Prod.mk.injEq, ih, List.forall_mem_cons]
    exact and_congr_left fun _ => and_iff_right rfl

/-- Being in normal form is a property of the parts. -/
theorem compositional_normal : Compositional fun v => v.normal = v where
  bool _ := rfl
  str _ := rfl
  arr _ := (Json.arr.injEq _ _).to_iff.trans normalElems_eq_self_iff
  obj _ _ := (Json.obj.injEq _ _).to_iff.trans normalMembers_eq_self_iff

/-! ### Renderings as characters -/

/-- A string is written between quotes. -/
theorem toList_renderString (s : String) :
    (renderString s).toList = '"' :: (s.toList.flatMap escapeAux ++ ['"']) := by
  unfold renderString
  simp only [String.toList_append, String.toList_ofList]
  rfl

/-- The elements of an array with commas between them. -/
def elemsChars (elems : List Json) : List Char :=
  [','].intercalate ((compressElems elems).map String.toList)

/-- The members of an object with commas between them. -/
def membersChars (members : List (String × Json)) : List Char :=
  [','].intercalate ((compressMembers members).map String.toList)

/-- An array is written between brackets. -/
theorem toList_compress_arr (elems : List Json) :
    (Json.arr elems).compress.toList = '[' :: (elemsChars elems ++ [']']) := by
  unfold compress
  rw [String.toList_append, String.toList_append, String.toList_intercalate]
  rfl

/-- An object is written between braces. -/
theorem toList_compress_obj (members : List (String × Json)) :
    (Json.obj members).compress.toList = '{' :: (membersChars members ++ ['}']) := by
  unfold compress
  rw [String.toList_append, String.toList_append, String.toList_intercalate]
  rfl

theorem elemsChars_singleton (v : Json) : elemsChars [v] = v.compress.toList :=
  List.intercalate_singleton

/-- Elements are separated by commas. -/
theorem elemsChars_cons (v w : Json) (rest : List Json) :
    elemsChars (v :: w :: rest) = v.compress.toList ++ ',' :: elemsChars (w :: rest) := by
  refine List.intercalate_cons_cons.trans ?_
  rw [List.append_assoc]
  rfl

/-- A member of an object. -/
def memberChars (k : String) (v : Json) : List Char :=
  '"' :: (k.toList.flatMap escapeAux ++ ['"']) ++ ':' :: v.compress.toList

/-- A member is written as its key, a colon and its value. -/
theorem toList_member (k : String) (v : Json) :
    (renderString k ++ ":" ++ v.compress).toList = memberChars k v := by
  rw [String.toList_append, String.toList_append, toList_renderString, List.append_assoc]
  rfl

theorem membersChars_singleton (k : String) (v : Json) :
    membersChars [(k, v)] = memberChars k v := by
  refine List.intercalate_singleton.trans ?_
  exact toList_member k v

/-- Members are separated by commas. -/
theorem membersChars_cons (k : String) (v : Json) (next : String × Json)
    (rest : List (String × Json)) : membersChars ((k, v) :: next :: rest) =
      memberChars k v ++ ',' :: membersChars (next :: rest) := by
  obtain ⟨k', v'⟩ := next
  refine List.intercalate_cons_cons.trans ?_
  rw [toList_member, List.append_assoc]
  rfl

namespace Parser

open AgentConvert.Parser

/-! ### Strings -/

/-- A hexadecimal digit is read as its value. -/
theorem hexChar_digitChar {d : Nat} (h : d < 16) (rest : List Char) :
    hexChar (Nat.digitChar d :: rest) = .success rest d := by
  interval_cases d <;> rfl

/-- The four hexadecimal digits of a control character are read as that character. -/
theorem escapedChar_control {c : Char} (h : c.toNat < 32) (rest : List Char) :
    escapedChar ('u' :: Nat.digitChar (c.toNat / 4096) :: Nat.digitChar (c.toNat % 4096 / 256) ::
      Nat.digitChar (c.toNat % 256 / 16) :: Nat.digitChar (c.toNat % 16) :: rest) =
        .success rest c := by
  have hsum : c.toNat / 4096 * 4096 + c.toNat % 4096 / 256 * 256 + c.toNat % 256 / 16 * 16 +
      c.toNat % 16 = c.toNat := by omega
  refine (bind_success (hexChar_digitChar (by omega) _)).trans ?_
  refine (bind_success (hexChar_digitChar (by omega) _)).trans ?_
  refine (bind_success (hexChar_digitChar (by omega) _)).trans ?_
  refine (bind_success (hexChar_digitChar (by omega) _)).trans ?_
  rw [hsum, if_pos (by omega), Char.ofNat_toNat]
  rfl

/-- **An escaped character is read as that character.** -/
theorem strCore_escapeAux (c : Char) (fuel : Nat) (acc rest : List Char) :
    strCore (fuel + 1) acc (escapeAux c ++ rest) = strCore fuel (c :: acc) rest := by
  unfold escapeAux
  split
  next h => subst h; rfl
  split
  next h => subst h; rfl
  split
  next h => subst h; rfl
  split
  next h => subst h; rfl
  split
  next hquote hslash hline hreturn hprintable =>
    have hplain : (c == '"') = false ∧ (c == '\\') = false :=
      ⟨beq_eq_false_iff_ne.mpr hquote, beq_eq_false_iff_ne.mpr hslash⟩
    rw [List.singleton_append, strCore]
    refine (bind_success (peek_cons c rest)).trans ?_
    rw [hplain.1]
    show (if (c == '\\') = true then _ else _ : Parser String) rest = _
    rw [hplain.2]
    show (if 0x20 ≤ c.toNat then _ else _ : Parser String) rest = _
    rw [if_pos hprintable]
  next hprintable =>
    exact bind_success (escapedChar_control (by omega) rest)

/-- The escaped characters of a string are read as the string. -/
theorem reads_strCore (s : List Char) (acc : List Char) {fuel : Nat} (h : s.length < fuel) :
    Reads Anything (strCore fuel acc) (s.flatMap escapeAux ++ ['"'])
      (String.ofList (acc.reverse ++ s)) := by
  induction s generalizing acc fuel with
  | nil =>
    intro rest _
    obtain ⟨fuel, rfl⟩ : ∃ n, fuel = n + 1 := ⟨fuel - 1, by rw [List.length_nil] at h; omega⟩
    rw [List.append_nil]
    rfl
  | cons c s ih =>
    intro rest hrest
    obtain ⟨fuel, rfl⟩ : ∃ n, fuel = n + 1 := ⟨fuel - 1, by omega⟩
    rw [List.length_cons] at h
    rw [List.flatMap_cons, List.append_assoc, List.append_assoc, strCore_escapeAux,
      ← List.append_assoc, ih (c :: acc) (by omega) rest hrest, List.reverse_cons,
      List.append_assoc]
    rfl

/-! ### What a rendering begins and ends with -/

/-- The rest goes on with a separator or with the end of an array or object. -/
def Delimited (rest : List Char) : Prop := ∀ c ∈ rest.head?, c = ',' ∨ c = ']' ∨ c = '}'

/-- What may follow a value ends a number. -/
theorem Delimited.endsNumber {rest : List Char} (h : Delimited rest) : EndsNumber rest := by
  intro c hc
  rcases h c hc with rfl | rfl | rfl
  · exact ⟨rfl, by decide, by decide, by decide⟩
  · exact ⟨rfl, by decide, by decide, by decide⟩
  · exact ⟨rfl, by decide, by decide, by decide⟩

/-- What may follow a value is no white space. -/
theorem Delimited.noSpace {rest : List Char} (h : Delimited rest) : NoSpace rest := by
  intro c hc
  rcases h c hc with rfl | rfl | rfl
  · rfl
  · rfl
  · rfl

theorem delimited_cons {c : Char} (h : c = ',' ∨ c = ']' ∨ c = '}') (rest : List Char) :
    Delimited (c :: rest) := by
  intro c' hc'
  cases hc'
  exact h

/-- A sign or a digit. -/
def StartsNumber (c : Char) : Prop := c = '-' ∨ c.isDigit = true

/-- The text of a number starts with a digit or a sign. -/
theorem toString_eq_cons (n : JsonNumber) :
    ∃ c tail, n.toString.toList = c :: tail ∧ StartsNumber c := by
  rw [JsonNumber.toList_toString]
  unfold JsonNumber.signChars
  split
  · obtain ⟨c, tail, hcons, hc⟩ := toDigits_append_eq_cons
      (n.mantissa.natAbs / 10 ^ n.places) n.tail
    exact ⟨c, tail, hcons, Or.inr hc⟩
  · exact ⟨'-', _, rfl, Or.inl rfl⟩

theorem StartsNumber.ne {c d : Char} (h : StartsNumber c) (hminus : d ≠ '-')
    (hd : d.isDigit = false) : c ≠ d := by
  rintro rfl
  rcases h with rfl | h
  · exact hminus rfl
  · rw [h] at hd
    cases hd

/-- A value begins with a character that is neither white space nor the end of an array. -/
theorem compress_eq_cons (j : Json) : ∃ c tail, j.compress.toList = c :: tail ∧
    NoSpace (c :: tail) ∧ c ≠ ']' := by
  have hstart {c : Char} (tail : List Char)
      (h : (c == '\t' || c == '\n' || c == '\r' || c == ' ') = false) : NoSpace (c :: tail) := by
    intro c' hc'
    cases hc'
    exact h
  cases j with
  | null => exact ⟨'n', _, rfl, hstart _ rfl, by decide⟩
  | bool b =>
    cases b with
    | false => exact ⟨'f', _, rfl, hstart _ rfl, by decide⟩
    | true => exact ⟨'t', _, rfl, hstart _ rfl, by decide⟩
  | num n =>
    obtain ⟨c, tail, hcons, hc⟩ := toString_eq_cons n
    refine ⟨c, tail, hcons, hstart _ ?_, hc.ne (by decide) rfl⟩
    simp [hc.ne (d := '\t') (by decide) rfl, hc.ne (d := '\n') (by decide) rfl,
      hc.ne (d := '\r') (by decide) rfl, hc.ne (d := ' ') (by decide) rfl]
  | str s => exact ⟨'"', _, toList_renderString s, hstart _ rfl, by decide⟩
  | arr elems => exact ⟨'[', _, toList_compress_arr elems, hstart _ rfl, by decide⟩
  | obj kvs => exact ⟨'{', _, toList_compress_obj kvs, hstart _ rfl, by decide⟩

theorem noSpace_append {c : Char} {tail rest : List Char} (h : NoSpace (c :: tail)) :
    NoSpace (c :: rest) := fun c' hc' => h c' hc'

/-- Elements start with a character that can start a value. -/
theorem elemsChars_eq_cons (v : Json) (rest : List Json) :
    ∃ c tail, elemsChars (v :: rest) = c :: tail ∧ NoSpace (c :: tail) ∧ c ≠ ']' := by
  obtain ⟨c, tail, hcons, hspace, hc⟩ := compress_eq_cons v
  cases rest with
  | nil => exact ⟨c, tail, (elemsChars_singleton v).trans hcons, hspace, hc⟩
  | cons w rest =>
    refine ⟨c, tail ++ ',' :: elemsChars (w :: rest), ?_, noSpace_append hspace, hc⟩
    rw [elemsChars_cons, hcons, List.cons_append]

theorem membersChars_eq_cons (k : String) (v : Json) (rest : List (String × Json)) :
    ∃ tail, membersChars ((k, v) :: rest) = '"' :: tail := by
  cases rest with
  | nil => exact ⟨_, membersChars_singleton k v⟩
  | cons next rest => exact ⟨_, membersChars_cons k v next rest⟩

/-- A member behind all the others. -/
theorem insertMember_last {k : String} (v : Json) {kvs : List (String × Json)}
    (h : ∀ member ∈ kvs, compare member.1 k = .lt) : insertMember k v kvs = kvs ++ [(k, v)] := by
  induction kvs with
  | nil => rfl
  | cons first rest ih =>
    obtain ⟨k₁, v₁⟩ := first
    obtain ⟨hfirst, hrest⟩ := List.forall_mem_cons.mp h
    have hgt : compare k k₁ = .gt := Std.OrientedCmp.gt_of_lt hfirst
    unfold insertMember
    rw [hgt, ih hrest]
    rfl

/-- The keys in front of a member are smaller. -/
theorem keys_lt_of_append {kvs rest : List (String × Json)} {k : String} {v : Json}
    (h : KeysOrdered (kvs ++ (k, v) :: rest)) : ∀ member ∈ kvs, compare member.1 k = .lt :=
  fun member hmember => (List.pairwise_append.mp h).2.2 member hmember (k, v) List.mem_cons_self

/-- Bringing a value into normal form keeps the keys in order. -/
theorem keysOrdered_append_normal {kvs rest : List (String × Json)} {k : String} {v : Json}
    (h : KeysOrdered (kvs ++ (k, v) :: rest)) :
    KeysOrdered (kvs ++ [(k, v.normal)] ++ rest) := by
  have hkeys : (kvs ++ [(k, v.normal)] ++ rest).map Prod.fst =
      (kvs ++ (k, v) :: rest).map Prod.fst := by simp
  unfold KeysOrdered at h ⊢
  rw [← List.pairwise_map (f := Prod.fst) (R := fun a b => compare a b = .lt)] at h ⊢
  rwa [hkeys]

/-! ### Values -/

section Steps

variable (fuel : Nat) {c : Char} {tail : List Char}

/-- An array that is not empty is read from its first element on. -/
theorem anyCore_array (hspace : NoSpace (c :: tail)) (hc : c ≠ ']') :
    anyCore (fuel + 1) ('[' :: c :: tail) =
      (arrayCore fuel [] >>= fun elems => pure (Json.arr elems)) (c :: tail) := by
  rw [anyCore]
  show (ws >>= fun _ => peek >>= fun c => if (c == ']') = true then _ else _ : Parser Json)
    (c :: tail) = _
  refine (bind_success (ws_of_noSpace hspace)).trans ?_
  refine (bind_success (peek_cons _ _)).trans ?_
  rw [if_neg (by simpa using hc)]

/-- An object that is not empty is read from its first key on. -/
theorem anyCore_object (hspace : NoSpace (c :: tail)) (hc : c ≠ '}') :
    anyCore (fuel + 1) ('{' :: c :: tail) =
      (objectCore fuel [] >>= fun kvs => pure (Json.obj kvs)) (c :: tail) := by
  rw [anyCore]
  show (ws >>= fun _ => peek >>= fun c => if (c == '}') = true then _ else _ : Parser Json)
    (c :: tail) = _
  refine (bind_success (ws_of_noSpace hspace)).trans ?_
  refine (bind_success (peek_cons _ _)).trans ?_
  rw [if_neg (by simpa using hc)]

/-- What starts like a number is read as one. -/
theorem anyCore_number (hc : StartsNumber c) : anyCore (fuel + 1) (c :: tail) =
    (num >>= fun n => ws >>= fun _ => pure (Json.num n)) (c :: tail) := by
  rw [anyCore]
  refine (bind_success (peek_cons _ _)).trans ?_
  have hne {d : Char} (hminus : d ≠ '-') (hd : d.isDigit = false) : ¬ (c == d) = true := by
    simpa using hc.ne hminus hd
  rw [if_neg (hne (by decide) rfl), if_neg (hne (by decide) rfl), if_neg (hne (by decide) rfl),
    if_neg (hne (by decide) rfl), if_neg (hne (by decide) rfl), if_neg (hne (by decide) rfl),
    isDigit_eq, if_pos]
  rcases hc with rfl | hc
  · rfl
  · rw [hc, Bool.or_true]

end Steps

/-- A parser for the rest of a token, and the white space behind it. -/
theorem Reads.ws_pure {α : Type} {p : Parser α} {chars : List Char} {a : α}
    (hp : Reads Delimited p chars a) (f : α → Json) :
    Reads Delimited (p >>= fun a => ws >>= fun _ => pure (f a)) chars (f a) := by
  intro rest hrest
  refine (bind_success (hp rest hrest)).trans ?_
  exact bind_success (ws_of_noSpace hrest.noSpace)

theorem Settles.ws_pure {α : Type} {p : Parser α} {chars : List Char} {a : α} {P : Prop}
    (hp : Settles Delimited p chars P a) (f : α → Json) :
    Settles Delimited (p >>= fun a => ws >>= fun _ => pure (f a)) chars P (f a) :=
  ⟨fun h => Reads.ws_pure (hp.1 h) f, fun h => (hp.2 h).bind⟩

/-- A string is read back. -/
theorem reads_string (s : String) {fuel : Nat} (h : s.length < fuel) :
    Reads Anything (strCore fuel []) (s.toList.flatMap escapeAux ++ ['"']) s := by
  have hlength : s.toList.length < fuel := by rwa [String.length_toList]
  have hread := reads_strCore s.toList [] hlength
  rwa [List.reverse_nil, List.nil_append, String.ofList_toList] at hread

/-- What follows an element of an array. -/
def afterElement (fuel : Nat) (acc : List Json) (hd : Json) : Parser (List Json) := do
  let c ← AgentConvert.Parser.any
  if c == ']' then do
    ws
    pure (hd :: acc).reverse
  else if c == ',' then do
    ws
    arrayCore fuel (hd :: acc)
  else
    fail "unexpected character in array"

/-- Behind the last element, the array is complete. -/
theorem reads_afterElement_last (fuel : Nat) (acc : List Json) (v : Json) :
    Reads Delimited (afterElement fuel acc v) [']'] (acc.reverse ++ [v]) := by
  intro rest hrest
  show (ws >>= fun _ => pure (v :: acc).reverse) rest = _
  refine (bind_success (ws_of_noSpace hrest.noSpace)).trans ?_
  rw [List.reverse_cons]
  rfl

/-- Behind another element, the array goes on. -/
theorem afterElement_next (fuel : Nat) (acc : List Json) (v : Json) {text : List Char}
    (hspace : NoSpace text) :
    afterElement fuel acc v (',' :: text) = arrayCore fuel (v :: acc) text := by
  show (ws >>= fun _ => arrayCore fuel (v :: acc)) text = _
  exact bind_success (ws_of_noSpace hspace)

/-- What follows a member of an object. -/
def afterMember (fuel : Nat) (k : String) (kvs : List (String × Json)) (v : Json) :
    Parser (List (String × Json)) := do
  let c ← AgentConvert.Parser.any
  if c == '}' then do
    ws
    pure (insertMember k v kvs)
  else if c == ',' then do
    ws
    objectCore fuel (insertMember k v kvs)
  else
    fail "unexpected character in object"

/-- Behind the last member, the object is complete. -/
theorem reads_afterMember_last (fuel : Nat) {k : String} {kvs : List (String × Json)} (v : Json)
    (h : ∀ member ∈ kvs, compare member.1 k = .lt) :
    Reads Delimited (afterMember fuel k kvs v) ['}'] (kvs ++ [(k, v)]) := by
  intro rest hrest
  show (ws >>= fun _ => pure (insertMember k v kvs)) rest = _
  refine (bind_success (ws_of_noSpace hrest.noSpace)).trans ?_
  rw [insertMember_last v h]
  rfl

/-- Behind another member, the object goes on. -/
theorem afterMember_next (fuel : Nat) {k : String} {kvs : List (String × Json)} (v : Json)
    (h : ∀ member ∈ kvs, compare member.1 k = .lt) {text : List Char} (hspace : NoSpace text) :
    afterMember fuel k kvs v (',' :: text) = objectCore fuel (kvs ++ [(k, v)]) text := by
  show (ws >>= fun _ => objectCore fuel (insertMember k v kvs)) text = _
  refine (bind_success (ws_of_noSpace hspace)).trans ?_
  rw [insertMember_last v h]

/-- A written value starts with no space. -/
theorem noSpace_compress (v : Json) (text : List Char) : NoSpace (v.compress.toList ++ text) := by
  obtain ⟨c, tail, hcons, hspace, -⟩ := compress_eq_cons v
  rw [hcons]
  exact noSpace_append hspace

/-- A key and its colon in front of a value. -/
theorem objectCore_member (k : String) (v : Json) {fuel : Nat} (h : k.length < fuel)
    (kvs : List (String × Json)) (text : List Char) :
    objectCore (fuel + 1) kvs (memberChars k v ++ text) =
      (anyCore fuel >>= afterMember fuel k kvs) (v.compress.toList ++ text) := by
  have hcolon : NoSpace (':' :: (v.compress.toList ++ text)) := by
    intro c hc
    cases hc
    rfl
  unfold memberChars
  rw [objectCore, List.append_assoc]
  refine (bind_success (lookahead_cons rfl _ _)).trans ?_
  refine (bind_success (rfl : skip ('"' :: _) = .success _ ())).trans ?_
  refine (bind_success (reads_string k h _ trivial)).trans ?_
  refine (bind_success (ws_of_noSpace hcolon)).trans ?_
  refine (bind_success (lookahead_cons rfl _ _)).trans ?_
  refine (bind_success (rfl : skip (':' :: _) = .success _ ())).trans ?_
  exact bind_success (ws_of_noSpace (noSpace_compress v text))

/-- Above a bound there is no fuel zero. -/
theorem exists_fuel {p : Nat → Prop} (enough : Nat) (h : ∀ fuel, enough ≤ fuel → p (fuel + 1)) :
    ∃ enough, ∀ fuel, enough ≤ fuel → p fuel := by
  refine ⟨enough + 1, fun fuel hfuel => ?_⟩
  obtain ⟨n, rfl⟩ : ∃ n, fuel = n + 1 := ⟨fuel - 1, by omega⟩
  exact h n (by omega)

mutual

/-- **A value that is written is read in normal form, if its numbers can be read at all.**  The
induction is on the value; the fuel only has to be large enough. -/
theorem settles_value : ∀ {j : Json}, j.Ordered → ∃ enough, ∀ fuel, enough ≤ fuel →
    Settles Delimited (anyCore fuel) j.compress.toList j.Printable j.normal
  | .null, _ => exists_fuel 0 fun fuel _ => Reads.settles <|
      Reads.ws_pure (reads_skipString "null") fun _ => .null
  | .bool false, _ => exists_fuel 0 fun fuel _ => Reads.settles <|
      Reads.ws_pure (reads_skipString "false") fun _ => .bool false
  | .bool true, _ => exists_fuel 0 fun fuel _ => Reads.settles <|
      Reads.ws_pure (reads_skipString "true") fun _ => .bool true
  | .num n, _ => exists_fuel 0 fun fuel _ => by
    obtain ⟨c, tail, hcons, hc⟩ := toString_eq_cons n
    have hnum : Settles Delimited num n.toString.toList n.Printable n.normal :=
      ⟨fun h => (reads_num n h).mono fun _ hrest => hrest.endsNumber,
        fun h rest hrest => refuses_num n h rest hrest.endsNumber⟩
    refine (Settles.ws_pure hnum Json.num).of_step fun rest => ?_
    show anyCore (fuel + 1) (n.toString.toList ++ rest) = _
    rw [hcons]
    exact anyCore_number fuel hc
  | .str s, _ => exists_fuel (s.length + 1) fun fuel hfuel => by
    have hstr := Reads.ws_pure ((reads_string s hfuel).mono fun _ _ => trivial) Json.str
    refine hstr.settles.of_step fun rest => ?_
    show anyCore (fuel + 1) ((renderString s).toList ++ rest) = _
    rw [toList_renderString]
    rfl
  | .arr [], _ => exists_fuel 0 fun fuel _ => by
    refine Reads.settles fun rest hrest => ?_
    rw [toList_compress_arr]
    show (ws >>= fun _ => pure (Json.arr [])) rest = _
    exact bind_success (ws_of_noSpace hrest.noSpace)
  | .arr (v :: rest), h => by
    obtain ⟨enough, hall⟩ := settles_elems (List.cons_ne_nil v rest) h
    refine exists_fuel enough fun fuel hfuel => ?_
    refine ((hall fuel hfuel []).map Json.arr).of_step fun more => ?_
    obtain ⟨c, tail, hcons, hspace, hc⟩ := elemsChars_eq_cons v rest
    rw [toList_compress_arr, hcons]
    exact anyCore_array fuel hspace hc
  | .obj [], _ => exists_fuel 0 fun fuel _ => by
    refine Reads.settles fun rest hrest => ?_
    rw [toList_compress_obj]
    show (ws >>= fun _ => pure (Json.obj [])) rest = _
    exact bind_success (ws_of_noSpace hrest.noSpace)
  | .obj ((k, v) :: rest), h => by
    obtain ⟨enough, hall⟩ := settles_members (List.cons_ne_nil (k, v) rest) h.2
    refine exists_fuel enough fun fuel hfuel => ?_
    refine ((hall fuel hfuel [] h.1).map Json.obj).of_step fun more => ?_
    obtain ⟨tail, hcons⟩ := membersChars_eq_cons k v rest
    rw [toList_compress_obj, hcons]
    refine anyCore_object fuel (fun c hc => ?_) (by decide)
    cases hc
    rfl

/-- The elements of an array settle, by induction on them. -/
theorem settles_elems : ∀ {elems : List Json}, elems ≠ [] → OrderedElems elems →
    ∃ enough, ∀ fuel, enough ≤ fuel → ∀ acc, Settles Delimited (arrayCore fuel acc)
      (elemsChars elems ++ [']']) (PrintableElems elems) (acc.reverse ++ normalElems elems)
  | [], hne, _ => absurd rfl hne
  | [v], _, h => by
    obtain ⟨enough, hv⟩ := settles_value h.1
    refine exists_fuel enough fun fuel hfuel acc => ?_
    have hnext : ∀ rest, Delimited rest → Delimited ([']'] ++ rest) := fun rest _ =>
      delimited_cons (Or.inr (Or.inl rfl)) rest
    have hlast := reads_afterElement_last fuel acc v.normal
    rw [elemsChars_singleton]
    exact ((hv fuel hfuel).bind_reads hlast hnext).congr (and_true _).symm.to_iff
  | v :: w :: rest, _, h => by
    obtain ⟨enough, hv⟩ := settles_value h.1
    obtain ⟨enough', hrest⟩ := settles_elems (List.cons_ne_nil w rest) h.2
    refine exists_fuel (enough + enough') fun fuel hfuel acc => ?_
    have hnext : ∀ more, Delimited more →
        Delimited (',' :: (elemsChars (w :: rest) ++ [']']) ++ more) := fun more _ =>
      delimited_cons (Or.inl rfl) _
    have hmore := hrest fuel (by omega) (v.normal :: acc)
    rw [List.reverse_cons, List.append_assoc] at hmore
    rw [elemsChars_cons, List.append_assoc, List.cons_append]
    refine (hv fuel (by omega)).bind (hmore.of_step fun more => ?_) hnext
    obtain ⟨c, tail, hcons, hspace, -⟩ := elemsChars_eq_cons w rest
    rw [hcons]
    exact afterElement_next fuel acc v.normal (noSpace_append hspace)

/-- The members of an object settle, by induction on them. -/
theorem settles_members : ∀ {members : List (String × Json)}, members ≠ [] →
    OrderedMembers members → ∃ enough, ∀ fuel, enough ≤ fuel → ∀ kvs,
      KeysOrdered (kvs ++ members) → Settles Delimited (objectCore fuel kvs)
        (membersChars members ++ ['}']) (PrintableMembers members) (kvs ++ normalMembers members)
  | [], hne, _ => absurd rfl hne
  | [(k, v)], _, h => by
    obtain ⟨enough, hv⟩ := settles_value h.1
    refine exists_fuel (enough + k.length + 1) fun fuel hfuel kvs hkeys => ?_
    have hnext : ∀ rest, Delimited rest → Delimited (['}'] ++ rest) := fun rest _ =>
      delimited_cons (Or.inr (Or.inr rfl)) rest
    have hlast := reads_afterMember_last fuel v.normal (keys_lt_of_append hkeys)
    have hvalue := ((hv fuel (by omega)).bind_reads hlast hnext).congr (and_true _).symm.to_iff
    refine hvalue.of_step fun more => ?_
    rw [membersChars_singleton, List.append_assoc, List.append_assoc]
    exact objectCore_member k v (by omega) kvs _
  | (k, v) :: next :: rest, _, h => by
    obtain ⟨enough, hv⟩ := settles_value h.1
    obtain ⟨enough', hrest⟩ := settles_members (List.cons_ne_nil next rest) h.2
    refine exists_fuel (enough + enough' + k.length + 1) fun fuel hfuel kvs hkeys => ?_
    have hnext : ∀ more, Delimited more →
        Delimited (',' :: (membersChars (next :: rest) ++ ['}']) ++ more) := fun more _ =>
      delimited_cons (Or.inl rfl) _
    have hmore := hrest fuel (by omega) (kvs ++ [(k, v.normal)]) (keysOrdered_append_normal hkeys)
    rw [List.append_assoc] at hmore
    have hlt := keys_lt_of_append hkeys
    have hafter : Settles Delimited (afterMember fuel k kvs v.normal)
        (',' :: (membersChars (next :: rest) ++ ['}'])) (PrintableMembers (next :: rest))
          (kvs ++ ([(k, v.normal)] ++ normalMembers (next :: rest))) := by
      refine hmore.of_step fun more => ?_
      obtain ⟨k', v'⟩ := next
      obtain ⟨tail, hcons⟩ := membersChars_eq_cons k' v' rest
      rw [hcons]
      refine afterMember_next fuel v.normal hlt fun c hc => ?_
      cases hc
      rfl
    have hvalue := (hv fuel (by omega)).bind hafter hnext
    refine hvalue.of_step fun more => ?_
    have hk : k.length < fuel := by omega
    rw [membersChars_cons, List.append_assoc (memberChars k v), List.append_assoc (memberChars k v),
      List.append_assoc v.compress.toList]
    exact objectCore_member k v hk kvs _

end

/-! ### Texts -/

/-- Nothing may follow. -/
def AtEnd (rest : List Char) : Prop := rest = []

theorem AtEnd.delimited {rest : List Char} (h : AtEnd rest) : Delimited rest := by
  subst h
  exact fun c hc => by cases hc

/-- The whole parser reads the text of a value from its beginning to its end. -/
theorem settles_any {j : Json} (h : j.Ordered) : ∃ enough, ∀ fuel, enough ≤ fuel →
    Settles AtEnd (any fuel) j.compress.toList j.Printable j.normal := by
  obtain ⟨enough, hall⟩ := settles_value h
  refine ⟨enough, fun fuel hfuel => ?_⟩
  have hvalue : Settles AtEnd (anyCore fuel >>= fun v => eof >>= fun _ => pure v)
      j.compress.toList j.Printable j.normal := by
    refine ⟨fun hj rest hrest => ?_, fun hj rest hrest => ?_⟩
    · refine (bind_success ((hall fuel hfuel).1 hj rest hrest.delimited)).trans ?_
      subst hrest
      rfl
    · obtain ⟨left, err, herr⟩ := (hall fuel hfuel).2 hj rest hrest.delimited
      exact ⟨left, err, bind_error herr⟩
  exact hvalue.of_step fun rest => bind_success (ws_of_noSpace (noSpace_compress j rest))

end Parser

open AgentConvert.Parser in
/-- The text of a value is parsed if and only if the value is printable. -/
theorem parse_compress_cases {j : Json} (h : j.Ordered) :
    (j.Printable → parse j.compress = .ok j.normal) ∧
      (¬ j.Printable → ∃ message, parse j.compress = .error message) := by
  obtain ⟨enough, hall⟩ := Parser.settles_any h
  have hsettles := hall (enough + (2 * j.compress.length + 1)) (by omega)
  rw [← parse_fuel j.compress (enough + (2 * j.compress.length + 1)) (by omega)]
  generalize Json.Parser.any (enough + (2 * j.compress.length + 1)) = parser at hsettles
  unfold AgentConvert.Parser.run
  refine ⟨fun hj => ?_, fun hj => ?_⟩
  · have hread := hsettles.1 hj [] rfl
    rw [List.append_nil] at hread
    rw [hread]
  · obtain ⟨left, err, herr⟩ := hsettles.2 hj [] rfl
    rw [List.append_nil] at herr
    rw [herr]
    exact ⟨_, rfl⟩

/-- **A printable value is read back in normal form.** -/
theorem parse_compress {j : Json} (h : j.Ordered) (hj : j.Printable) :
    parse j.compress = .ok j.normal := (parse_compress_cases h).1 hj

/-- **The text of a value that is not printable is refused.** -/
theorem parse_compress_accepts_iff {j : Json} (h : j.Ordered) :
    (∃ v, parse j.compress = .ok v) ↔ j.Printable := by
  refine ⟨fun hv => ?_, fun hj => ⟨_, parse_compress h hj⟩⟩
  by_contra hj
  obtain ⟨v, hv⟩ := hv
  obtain ⟨message, hmessage⟩ := (parse_compress_cases h).2 hj
  rw [hv] at hmessage
  cases hmessage

end Json

end AgentConvert
