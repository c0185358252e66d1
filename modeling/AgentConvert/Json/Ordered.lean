import AgentConvert.Json.Access
import AgentConvert.Json.Parser
import Mathlib.Data.List.Perm.Subperm

/-!
# Objects as maps

An object lists its members in key order, one for each key.  Everything that makes objects here
keeps that order, and it is what makes equality of values, which compares members by key, decide
equality.

## Main definitions

* `Json.Ordered` — every object inside the value lists its members in key order

## Main statements

* `oobj_mkObj` — the members of an object made from a list
* `Json.ordered_mkObj` — an object made from ordered values is ordered
* `Json.parse_ordered` — what is parsed is ordered
* `Json.beq_iff_eq_of_ordered` — on ordered values the equality of the importers is equality
-/

namespace AgentConvert

namespace Json

/-! ### Members -/

/-- An inserted member is found. -/
theorem lookup_insertMember_self (k : String) (v : Json) (members : List (String × Json)) :
    (insertMember k v members).lookup k = some v := by
  induction members with
  | nil => rw [insertMember, List.lookup_cons, beq_self_eq_true]
  | cons member rest ih =>
    obtain ⟨k₁, v₁⟩ := member
    unfold insertMember
    split
    · rw [List.lookup_cons, beq_self_eq_true]
    · rw [List.lookup_cons, beq_self_eq_true]
    next hgt =>
      have hne : (k == k₁) = false := by
        rw [beq_eq_false_iff_ne]
        rintro rfl
        have hself : compare k k = .eq := Std.ReflCmp.compare_self
        rw [hself] at hgt
        cases hgt
      rw [List.lookup_cons, hne]
      exact ih

/-- Of the members that were inserted, the last one with the key is found. -/
theorem lookup_foldl_insertMember (k : String) (members acc : List (String × Json)) :
    (members.foldl (fun acc (k, v) => insertMember k v acc) acc).lookup k =
      (members.reverse.lookup k).or (acc.lookup k) := by
  induction members generalizing acc with
  | nil => rfl
  | cons member rest ih =>
    obtain ⟨k₁, v₁⟩ := member
    rw [List.foldl_cons, ih, List.reverse_cons, List.lookup_append, Option.or_assoc]
    congr 1
    by_cases hk : k = k₁
    · subst hk
      rw [lookup_insertMember_self, List.lookup_cons, beq_self_eq_true]
      rfl
    · rw [lookup_insertMember_of_ne hk, List.lookup_cons, beq_eq_false_iff_ne.mpr hk]
      rfl

/-- An erased member is not found, any other one is. -/
theorem lookup_eraseMember (key k : String) (members : List (String × Json)) :
    (eraseMember key members).lookup k = if k = key then none else members.lookup k := by
  induction members with
  | nil => exact (ite_self none).symm
  | cons member rest ih =>
    obtain ⟨k₁, v₁⟩ := member
    unfold eraseMember at ih ⊢
    by_cases hkey : k₁ = key
    · -- The erased member could only have been found under its own key.
      subst hkey
      rw [List.filter_cons_of_neg (by simp), ih, List.lookup_cons]
      by_cases hk : k = k₁
      · rw [if_pos hk, if_pos hk]
      · rw [if_neg hk, if_neg hk, beq_eq_false_iff_ne.mpr hk]
    · rw [List.filter_cons_of_pos (by simpa using hkey), List.lookup_cons, ih, List.lookup_cons]
      by_cases hk : k = k₁
      · subst hk
        simp only [beq_self_eq_true, if_neg hkey]
      · rw [beq_eq_false_iff_ne.mpr hk]

/-- Erased members are not found, any other one is. -/
theorem lookup_foldl_eraseMember (keys : List String) (k : String)
    (members : List (String × Json)) :
    (keys.foldl (fun acc key => eraseMember key acc) members).lookup k =
      if k ∈ keys then none else members.lookup k := by
  induction keys generalizing members with
  | nil => rfl
  | cons key keys ih =>
    rw [List.foldl_cons, ih, lookup_eraseMember]
    by_cases hk : k = key
    · subst hk
      rw [if_pos rfl, if_pos List.mem_cons_self, ite_self]
    · simp only [List.mem_cons, hk, false_or, if_false]

/-! ### Key order -/

theorem compare_self_ne_lt (k : String) : compare k k ≠ .lt := by
  intro hlt
  have hself : compare k k = .eq := Std.ReflCmp.compare_self
  rw [hself] at hlt
  cases hlt

/-- The keys stand in strictly increasing order. -/
def KeysOrdered (members : List (String × Json)) : Prop :=
  members.Pairwise fun a b => compare a.1 b.1 = .lt

mutual

/-- Every object inside the value lists its members in key order. -/
def Ordered : Json → Prop
  | .arr elems => OrderedElems elems
  | .obj kvs => KeysOrdered kvs ∧ OrderedMembers kvs
  | .null | .bool _ | .num _ | .str _ => True

/-- Every element is ordered. -/
def OrderedElems : List Json → Prop
  | [] => True
  | v :: rest => Ordered v ∧ OrderedElems rest

/-- The value of every member is ordered. -/
def OrderedMembers : List (String × Json) → Prop
  | [] => True
  | (_, v) :: rest => Ordered v ∧ OrderedMembers rest

end

@[simp] theorem ordered_null : Ordered .null := trivial

@[simp] theorem ordered_bool (b : Bool) : Ordered (.bool b) := trivial

@[simp] theorem ordered_num (n : JsonNumber) : Ordered (.num n) := trivial

@[simp] theorem ordered_ofNat (n : Nat) : Ordered (ofNat n) := trivial

@[simp] theorem ordered_str (s : String) : Ordered (.str s) := trivial

/-- The elements are ordered when each of them is. -/
theorem orderedElems_iff {elems : List Json} :
    OrderedElems elems ↔ ∀ v ∈ elems, Ordered v := by
  induction elems with
  | nil => simp [OrderedElems]
  | cons v rest ih => rw [OrderedElems, ih, List.forall_mem_cons]

/-- The members are ordered when the value of each of them is. -/
theorem orderedMembers_iff {members : List (String × Json)} :
    OrderedMembers members ↔ ∀ member ∈ members, Ordered member.2 := by
  induction members with
  | nil => simp [OrderedMembers]
  | cons member rest ih => rw [OrderedMembers, ih, List.forall_mem_cons]

/-- A member behind an insertion is the new one or an old one. -/
theorem mem_insertMember {k : String} {v : Json} {members : List (String × Json)}
    {member : String × Json} (h : member ∈ insertMember k v members) :
    member = (k, v) ∨ member ∈ members := by
  induction members with
  | nil => exact Or.inl (List.mem_singleton.mp h)
  | cons first rest ih =>
    obtain ⟨k₁, v₁⟩ := first
    unfold insertMember at h
    split at h
    · exact List.mem_cons.mp h
    · rcases List.mem_cons.mp h with h | h
      · exact Or.inl h
      · exact Or.inr (List.mem_cons_of_mem _ h)
    · rcases List.mem_cons.mp h with h | h
      · exact Or.inr (h ▸ List.mem_cons_self)
      · exact (ih h).imp_right (List.mem_cons_of_mem _)

/-- Inserting a member keeps the order. -/
theorem keysOrdered_insertMember (k : String) (v : Json) {members : List (String × Json)}
    (h : KeysOrdered members) : KeysOrdered (insertMember k v members) := by
  induction members with
  | nil => exact List.pairwise_singleton _ _
  | cons first rest ih =>
    obtain ⟨k₁, v₁⟩ := first
    obtain ⟨hfirst, hrest⟩ := List.pairwise_cons.mp h
    unfold insertMember
    split
    next hlt =>
      refine List.pairwise_cons.mpr ⟨fun member hmember => ?_, h⟩
      rcases List.mem_cons.mp hmember with rfl | hmember
      · exact hlt
      · exact Std.TransCmp.lt_trans hlt (hfirst member hmember)
    next heq =>
      have hk : k = k₁ := Std.LawfulEqCmp.eq_of_compare heq
      subst hk
      exact List.pairwise_cons.mpr ⟨hfirst, hrest⟩
    next hgt =>
      have hlt : compare k₁ k = .lt := Std.OrientedCmp.lt_of_gt hgt
      refine List.pairwise_cons.mpr ⟨fun member hmember => ?_, ih hrest⟩
      rcases mem_insertMember hmember with rfl | hmember
      · exact hlt
      · exact hfirst member hmember

/-- The members of an ordered object, complete or still being read. -/
def OrderedObject (kvs : List (String × Json)) : Prop := KeysOrdered kvs ∧ OrderedMembers kvs

/-- Inserting an ordered value keeps an object ordered. -/
theorem OrderedObject.insertMember {k : String} {v : Json} {kvs : List (String × Json)}
    (hkvs : OrderedObject kvs) (hv : v.Ordered) : OrderedObject (Json.insertMember k v kvs) := by
  refine ⟨keysOrdered_insertMember k v hkvs.1, orderedMembers_iff.mpr fun member hmember => ?_⟩
  rcases mem_insertMember hmember with rfl | hmember
  · exact hv
  · exact orderedMembers_iff.mp hkvs.2 member hmember

/-! ### Properties of the parts -/

/-- A property of values that is one of their parts: texts and flags have it, and an array or an
object has it when its elements or members have it. -/
structure Compositional (P : Json → Prop) : Prop where
  bool : ∀ b, P (.bool b)
  str : ∀ s, P (.str s)
  arr : ∀ elems, P (.arr elems) ↔ ∀ v ∈ elems, P v
  obj : ∀ kvs, KeysOrdered kvs → (P (.obj kvs) ↔ ∀ member ∈ kvs, P member.2)

/-- Inserting members keeps the keys ordered. -/
theorem keysOrdered_foldl_insertMember (members : List (String × Json)) :
    ∀ acc : List (String × Json), KeysOrdered acc →
      KeysOrdered (members.foldl (fun acc (k, v) => insertMember k v acc) acc) := by
  induction members with
  | nil => exact fun acc hacc => hacc
  | cons member rest ih =>
    obtain ⟨k, v⟩ := member
    exact fun acc hacc => ih _ (keysOrdered_insertMember k v hacc)

theorem mem_foldl_insertMember (members : List (String × Json)) {member : String × Json} :
    ∀ acc : List (String × Json),
      member ∈ members.foldl (fun acc (k, v) => insertMember k v acc) acc →
        member ∈ members ∨ member ∈ acc := by
  induction members with
  | nil => exact fun acc h => Or.inr h
  | cons first rest ih =>
    obtain ⟨k, v⟩ := first
    intro acc h
    rcases ih _ h with h | h
    · exact Or.inl (List.mem_cons_of_mem _ h)
    · rcases mem_insertMember h with rfl | h
      · exact Or.inl List.mem_cons_self
      · exact Or.inr h

/-- The members with a value under the same key in the other list are members of it. -/
theorem mem_of_lookup {members : List (String × Json)} {k : String} {v : Json}
    (h : members.lookup k = some v) : (k, v) ∈ members := by
  induction members with
  | nil => cases h
  | cons first rest ih =>
    obtain ⟨k₁, v₁⟩ := first
    rw [List.lookup_cons] at h
    split at h
    next heq =>
      cases h
      rw [beq_iff_eq.mp heq]
      exact List.mem_cons_self
    next => exact List.mem_cons_of_mem _ (ih h)

/-- Every member of the list has a value with the property. -/
def EveryMember (P : Json → Prop) (members : List (String × Json)) : Prop :=
  ∀ member ∈ members, P member.2

namespace EveryMember

variable {P : Json → Prop} {k : String} {v : Json} {members more : List (String × Json)}

theorem nil : EveryMember P [] := fun _ h => by cases h

theorem cons (hv : P v) (h : EveryMember P members) : EveryMember P ((k, v) :: members) :=
  List.forall_mem_cons.mpr ⟨hv, h⟩

theorem append (h : EveryMember P members) (hmore : EveryMember P more) :
    EveryMember P (members ++ more) := List.forall_mem_append.mpr ⟨h, hmore⟩

end EveryMember

namespace Compositional

variable {P : Json → Prop} (hP : Compositional P) {members : List (String × Json)}

include hP

/-- An object made from members with the property has the property. -/
theorem mkObj (h : EveryMember P members) : P (Json.mkObj members) := by
  refine (hP.obj _ (keysOrdered_foldl_insertMember members [] .nil)).mpr fun member hmember => ?_
  rcases mem_foldl_insertMember members [] hmember with hmember | hmember
  · exact h member hmember
  · cases hmember

/-- The members of an object with the property have it. -/
theorem member (h : P (Json.mkObj members)) {k : String} {v : Json}
    (hlookup : members.reverse.lookup k = some v) : P v := by
  have hobj := (hP.obj _ (keysOrdered_foldl_insertMember members [] .nil)).mp h
  refine hobj (k, v) (mem_of_lookup ?_)
  rw [lookup_foldl_insertMember, hlookup]
  rfl

end Compositional

/-- An object or an array is ordered by its parts. -/
theorem compositional_ordered : Compositional Ordered where
  bool := ordered_bool
  str := ordered_str
  arr _ := orderedElems_iff
  obj _ h := (and_iff_right h).trans orderedMembers_iff

/-- An object made from ordered values is ordered. -/
theorem ordered_mkObj {members : List (String × Json)}
    (h : ∀ member ∈ members, Ordered member.2) : Ordered (Json.mkObj members) :=
  compositional_ordered.mkObj h

/-! ### Parsed values -/

open AgentConvert.Parser Json.Parser in
/-- The value parsers keep the order: the induction is on the fuel, and the accumulators of the
array and object parsers carry it along. -/
theorem core_yields_ordered (fuel : Nat) :
    Yields Ordered (anyCore fuel) ∧
      (∀ acc, OrderedElems acc → Yields OrderedElems (arrayCore fuel acc)) ∧
      ∀ kvs, OrderedObject kvs → Yields OrderedObject (objectCore fuel kvs) := by
  induction fuel with
  | zero =>
    exact ⟨yields_fail _ _, fun _ _ => yields_fail _ _, fun _ _ => yields_fail _ _⟩
  | succ fuel ih =>
    obtain ⟨hany, harray, hobject⟩ := ih
    refine ⟨?_, fun acc hacc => ?_, fun kvs hkvs => ?_⟩
    · refine .seq fun c => ?_
      refine .ite ?_ (.ite ?_ (.ite ?_ (.ite ?_ (.ite ?_ (.ite ?_ (.ite ?_ ?_))))))
      · -- an array
        refine .seq fun _ => .seq fun _ => .seq fun c' => ?_
        refine .ite (.seq fun _ => .seq fun _ => .pure trivial) ?_
        exact (harray [] trivial).bind fun elems helems => .pure helems
      · -- an object
        refine .seq fun _ => .seq fun _ => .seq fun c' => ?_
        have hempty : OrderedObject [] := ⟨List.Pairwise.nil, trivial⟩
        refine .ite (.seq fun _ => .seq fun _ => .pure hempty) ?_
        exact (hobject [] hempty).bind fun kvs hkvs => .pure hkvs
      · exact .seq fun _ => .seq fun s => .seq fun _ => .pure trivial
      · exact .seq fun _ => .seq fun _ => .pure trivial
      · exact .seq fun _ => .seq fun _ => .pure trivial
      · exact .seq fun _ => .seq fun _ => .pure trivial
      · exact .seq fun n => .seq fun _ => .pure trivial
      · exact yields_fail _ _
    · refine hany.bind fun hd hhd => .seq fun c => ?_
      have hcons : OrderedElems (hd :: acc) := ⟨hhd, hacc⟩
      have hreverse : OrderedElems (hd :: acc).reverse := by
        rw [orderedElems_iff] at hcons ⊢
        exact fun v hv => hcons v (List.mem_reverse.mp hv)
      refine .ite (.seq fun _ => .pure hreverse) (.ite (.seq fun _ => ?_) (yields_fail _ _))
      exact harray _ hcons
    · refine .seq fun _ => .seq fun _ => .seq fun k => .seq fun _ => ?_
      refine .seq fun _ => .seq fun _ => .seq fun _ => hany.bind fun v hv => .seq fun c => ?_
      have hkvs' : OrderedObject (Json.insertMember k v kvs) := hkvs.insertMember hv
      refine .ite (.seq fun _ => .pure hkvs') (.ite (.seq fun _ => ?_) (yields_fail _ _))
      exact hobject _ hkvs'

/-- **What is parsed is ordered.** -/
theorem parse_ordered {s : String} {j : Json} (h : parse s = .ok j) : j.Ordered := by
  have hyields : Parser.Yields Ordered (Json.Parser.any (2 * s.toList.length + 2)) :=
    .seq fun _ => (core_yields_ordered _).1.bind fun v hv => .seq fun _ => .pure hv
  unfold parse parseChars Parser.run at h
  split at h
  next rest value hrun =>
    cases h
    exact hyields _ _ _ hrun
  next => cases h

/-! ### Equality -/

/-- A member of an ordered object is found by its key. -/
theorem lookup_of_mem {members : List (String × Json)} (h : KeysOrdered members) {k : String}
    {v : Json} (hmem : (k, v) ∈ members) : members.lookup k = some v := by
  induction members with
  | nil => cases hmem
  | cons first rest ih =>
    obtain ⟨k₁, v₁⟩ := first
    obtain ⟨hfirst, hrest⟩ := List.pairwise_cons.mp h
    rcases List.mem_cons.mp hmem with heq | hlater
    · cases heq
      rw [List.lookup_cons, beq_self_eq_true]
    · have hne : (k == k₁) = false := by
        rw [beq_eq_false_iff_ne]
        rintro rfl
        exact compare_self_ne_lt k (hfirst (k, v) hlater)
      rw [List.lookup_cons, hne]
      exact ih hrest hlater

mutual

/-- An ordered value equals itself. -/
theorem beq_self : ∀ {j : Json}, Ordered j → beq j j = true
  | .null, _ => rfl
  | .bool _, _ => beq_self_eq_true _
  | .num _, _ => beq_self_eq_true _
  | .str _, _ => beq_self_eq_true _
  | .arr elems, h => beqElems_self h
  | .obj kvs, h => by
    unfold beq
    rw [Bool.and_eq_true]
    exact ⟨beq_self_eq_true _, membersIn_self h.1 h.2 fun _ hmember => hmember⟩

theorem beqElems_self : ∀ {elems : List Json}, OrderedElems elems → beqElems elems elems = true
  | [], _ => rfl
  | v :: rest, h => by
    unfold beqElems
    rw [beq_self h.1, beqElems_self h.2]
    rfl

theorem membersIn_self {all : List (String × Json)} (hkeys : KeysOrdered all) :
    ∀ {members : List (String × Json)}, OrderedMembers members →
      (∀ member ∈ members, member ∈ all) → membersIn members all = true
  | [], _, _ => rfl
  | (k, v) :: rest, h, hall => by
    unfold membersIn
    rw [lookup_of_mem hkeys (hall (k, v) List.mem_cons_self)]
    dsimp only
    rw [beq_self h.1, membersIn_self hkeys h.2 fun member hmember =>
      hall member (List.mem_cons_of_mem _ hmember)]
    rfl

end

/-- Of two lists in key order, of the same length, one is part of the other only when they are
the same. -/
theorem eq_of_subset_of_length {as bs : List (String × Json)} (has : KeysOrdered as)
    (hbs : KeysOrdered bs) (hsubset : as ⊆ bs) (hlength : as.length = bs.length) : as = bs := by
  have hnodup : as.Nodup := by
    refine List.Pairwise.imp ?_ has
    rintro a _ hlt rfl
    exact compare_self_ne_lt a.1 hlt
  have hperm : as.Perm bs :=
    (List.subperm_of_subset hnodup hsubset).perm_of_length_le (Nat.le_of_eq hlength.symm)
  refine hperm.eq_of_pairwise (fun a b _ _ hlt hgt => ?_) has hbs
  exact absurd (Std.TransCmp.lt_trans hlt hgt) (compare_self_ne_lt a.1)

mutual

/-- **On ordered values, equality by position and by key is equality.** -/
theorem eq_of_beq : ∀ {a b : Json}, Ordered a → Ordered b → beq a b = true → a = b
  | .null, .null, _, _, _ => rfl
  | .bool _, .bool _, _, _, h => congrArg Json.bool (beq_iff_eq.mp h)
  | .num _, .num _, _, _, h => congrArg Json.num (beq_iff_eq.mp h)
  | .str _, .str _, _, _, h => congrArg Json.str (beq_iff_eq.mp h)
  | .arr _, .arr _, ha, hb, h => congrArg Json.arr (eq_of_beqElems ha hb h)
  | .obj as, .obj bs, ha, hb, h => by
    unfold beq at h
    obtain ⟨hlength, hmembers⟩ := Bool.and_eq_true_iff.mp h
    have hsubset : as ⊆ bs := fun member hmember =>
      mem_of_membersIn ha.2 hb.2 hmembers member hmember
    rw [eq_of_subset_of_length ha.1 hb.1 hsubset (beq_iff_eq.mp hlength)]

theorem eq_of_beqElems : ∀ {as bs : List Json}, OrderedElems as → OrderedElems bs →
    beqElems as bs = true → as = bs
  | [], [], _, _, _ => rfl
  | a :: as, b :: bs, ha, hb, h => by
    unfold beqElems at h
    obtain ⟨hfirst, hrest⟩ := Bool.and_eq_true_iff.mp h
    rw [eq_of_beq ha.1 hb.1 hfirst, eq_of_beqElems ha.2 hb.2 hrest]

theorem mem_of_membersIn : ∀ {as bs : List (String × Json)}, OrderedMembers as →
    OrderedMembers bs → membersIn as bs = true → ∀ member ∈ as, member ∈ bs
  | [], _, _, _, _, _, hmember => by cases hmember
  | (k, a) :: as, bs, ha, hb, h, member, hmember => by
    unfold membersIn at h
    obtain ⟨hfirst, hrest⟩ := Bool.and_eq_true_iff.mp h
    rcases List.mem_cons.mp hmember with rfl | hlater
    · split at hfirst
      next => cases hfirst
      next b hb' =>
        have hmem := mem_of_lookup hb'
        rw [eq_of_beq ha.1 (orderedMembers_iff.mp hb _ hmem) hfirst]
        exact hmem
    · exact mem_of_membersIn ha.2 hb hrest member hlater

end

/-- **On ordered values, the equality of the importers is equality.** -/
theorem beq_iff_eq_of_ordered {a b : Json} (ha : Ordered a) (hb : Ordered b) :
    (a == b) = true ↔ a = b := by
  constructor
  · exact eq_of_beq ha hb
  · rintro rfl
    exact beq_self ha

end Json

/-! ### Parts of ordered values -/

/-- A member of an ordered value is ordered. -/
theorem Json.Ordered.oobj {j v : Json} {k : String} (h : j.Ordered) (hv : oobj j k = some v) :
    v.Ordered := by
  cases j with
  | obj kvs =>
    rw [oobj_obj] at hv
    exact Json.orderedMembers_iff.mp h.2 _ (Json.mem_of_lookup hv)
  | null => cases hv
  | bool _ => cases hv
  | num _ => cases hv
  | str _ => cases hv
  | arr _ => cases hv

/-- An array of rendered values is ordered when each of them is. -/
theorem Json.ordered_arr_map {α : Type} {render : α → Json} {as : List α}
    (h : ∀ a ∈ as, (render a).Ordered) : (Json.arr (as.map render)).Ordered := by
  refine Json.orderedElems_iff.mpr fun v hv => ?_
  obtain ⟨a, ha, rfl⟩ := List.mem_map.mp hv
  exact h a ha

/-! ### Members of objects made from a list -/

section MkObj

variable (members : List (String × Json)) (k : String)

/-- Of two members with one key the last one counts. -/
@[simp] theorem oobj_mkObj : oobj (Json.mkObj members) k = members.reverse.lookup k := by
  unfold Json.mkObj
  rw [oobj_obj, Json.lookup_foldl_insertMember, List.lookup_nil, Option.or_none]

/-- The string member of an object that is made of members. -/
@[simp] theorem ostr_mkObj : ostr (Json.mkObj members) k =
    (members.reverse.lookup k).bind fun v => v.getStr?.toOption := by
  rw [ostr_eq_bind, oobj_mkObj]

@[simp] theorem obool_mkObj : obool (Json.mkObj members) k =
    (members.reverse.lookup k).bind fun v => v.getBool?.toOption := by
  rw [obool_eq_bind, oobj_mkObj]

@[simp] theorem oarr_mkObj : oarr (Json.mkObj members) k =
    (members.reverse.lookup k).bind fun v => v.getArr?.toOption := by
  rw [oarr_eq_bind, oobj_mkObj]

@[simp] theorem onat_mkObj : onat (Json.mkObj members) k =
    (members.reverse.lookup k).bind fun v => v.getNat?.toOption := by
  rw [onat_eq_bind, oobj_mkObj]

end MkObj

@[simp] theorem Json.getStr?_str (s : String) : (Json.str s).getStr?.toOption = some s := rfl

@[simp] theorem Json.getBool?_bool (b : Bool) : (Json.bool b).getBool?.toOption = some b := rfl

@[simp] theorem Json.getArr?_arr (elems : List Json) :
    (Json.arr elems).getArr?.toOption = some elems := rfl

@[simp] theorem Json.getNat?_ofNat (n : Nat) : (Json.ofNat n).getNat?.toOption = some n := rfl

end AgentConvert
