import AgentConvert.Json.Value

/-!
# Member accessors

The importers read the members of an object through these partial accessors: a member that is
missing, or that has another type, is `none`.
-/

namespace AgentConvert

/-- The member of an object, whatever its type is. -/
def oobj (j : Json) (k : String) : Option Json := (j.getObjVal? k).toOption

/-- The member of an object, if it is a string. -/
def ostr (j : Json) (k : String) : Option String := (j.getObjVal? k >>= Json.getStr?).toOption

/-- The elements of the member of an object, if it is an array. -/
def oarr (j : Json) (k : String) : Option (List Json) :=
  (j.getObjVal? k >>= Json.getArr?).toOption

/-- The member of an object, if it is a natural number. -/
def onat (j : Json) (k : String) : Option Nat := (j.getObjVal? k >>= Json.getNat?).toOption

/-- The member of an object, if it is a Boolean. -/
def obool (j : Json) (k : String) : Option Bool := (j.getObjVal? k >>= Json.getBool?).toOption

/-- Whether the object has the member at all. -/
def hasKey (j : Json) (k : String) : Bool := (oobj j k).isSome

/-- The members of an object by key. -/
theorem oobj_obj (kvs : List (String × Json)) (k : String) : oobj (.obj kvs) k = kvs.lookup k := by
  simp only [oobj, Json.getObjVal?]
  cases kvs.lookup k with
  | none => rfl
  | some _ => rfl

/-- A reader that goes on behind a guard has passed it. -/
theorem of_guard_bind {α : Type} {p : Prop} [Decidable p] {f : Unit → Option α}
    (h : (guard p >>= f).isSome = true) : p := by
  by_contra hp
  rw [guard, if_neg hp] at h
  cases h

/-- A reader behind a guard reads what it reads when the guard is passed. -/
theorem guard_bind_eq_some_iff {α : Type} {p : Prop} [Decidable p] {f : Unit → Option α} {a : α} :
    (guard p >>= f) = some a ↔ p ∧ f () = some a := by
  unfold guard
  by_cases hp : p
  · rw [if_pos hp]
    exact ⟨fun h => ⟨hp, h⟩, fun h => h.2⟩
  · rw [if_neg hp]
    exact ⟨fun h => (by cases h), fun h => absurd h.1 hp⟩

/-! ### Values that agree outside some members -/

/-- A string member is read in two steps. -/
theorem ostr_eq_bind (j : Json) (k : String) :
    ostr j k = (oobj j k).bind fun v => v.getStr?.toOption := by
  unfold ostr oobj
  cases j.getObjVal? k with
  | error _ => rfl
  | ok _ => rfl

theorem obool_eq_bind (j : Json) (k : String) :
    obool j k = (oobj j k).bind fun v => v.getBool?.toOption := by
  unfold obool oobj
  cases j.getObjVal? k with
  | error _ => rfl
  | ok _ => rfl

theorem oarr_eq_bind (j : Json) (k : String) :
    oarr j k = (oobj j k).bind fun v => v.getArr?.toOption := by
  unfold oarr oobj
  cases j.getObjVal? k with
  | error _ => rfl
  | ok _ => rfl

theorem onat_eq_bind (j : Json) (k : String) :
    onat j k = (oobj j k).bind fun v => v.getNat?.toOption := by
  unfold onat oobj
  cases j.getObjVal? k with
  | error _ => rfl
  | ok _ => rfl

/-- A string member is that member. -/
theorem oobj_of_ostr {j : Json} {k s : String} (h : ostr j k = some s) :
    oobj j k = some (.str s) := by
  rw [ostr_eq_bind] at h
  obtain ⟨v, hv, hs⟩ := Option.bind_eq_some_iff.mp h
  cases v with
  | str s' =>
    cases hs
    exact hv
  | null => cases hs
  | bool _ => cases hs
  | num _ => cases hs
  | arr _ => cases hs
  | obj _ => cases hs

/-- A member that is a string is a string member. -/
theorem ostr_of_oobj {j : Json} {k s : String} (h : oobj j k = some (.str s)) :
    ostr j k = some s := by
  rw [ostr_eq_bind, h]
  rfl

/-- The two values have the same members, apart from the given ones. -/
def AgreesOff (keys : List String) (j j' : Json) : Prop :=
  ∀ k, k ∉ keys → oobj j k = oobj j' k

namespace AgreesOff

variable {keys : List String} {j j' j'' : Json}

theorem refl (keys : List String) (j : Json) : AgreesOff keys j j := fun _ _ => rfl

theorem trans (h : AgreesOff keys j j') (h' : AgreesOff keys j' j'') : AgreesOff keys j j'' :=
  fun k hk => (h k hk).trans (h' k hk)

/-- Off the keys the members are the same. -/
theorem oobj (h : AgreesOff keys j j') (k : String) (hk : k ∉ keys) :
    AgentConvert.oobj j k = AgentConvert.oobj j' k := h k hk

/-- Off the keys the string members are the same. -/
theorem ostr (h : AgreesOff keys j j') (k : String) (hk : k ∉ keys) :
    AgentConvert.ostr j k = AgentConvert.ostr j' k := by
  rw [ostr_eq_bind, ostr_eq_bind, h k hk]

/-- Off the keys the Boolean members are the same. -/
theorem obool (h : AgreesOff keys j j') (k : String) (hk : k ∉ keys) :
    AgentConvert.obool j k = AgentConvert.obool j' k := by
  rw [obool_eq_bind, obool_eq_bind, h k hk]

end AgreesOff

/-- Setting a member changes no other one. -/
theorem agreesOff_insertMember {keys : List String} {key : String} (hkey : key ∈ keys)
    (kvs : List (String × Json)) (v : Json) :
    AgreesOff keys (.obj kvs) (.obj (Json.insertMember key v kvs)) := by
  intro k hk
  have hne : k ≠ key := fun h => hk (h ▸ hkey)
  rw [oobj_obj, oobj_obj, Json.lookup_insertMember_of_ne hne]

end AgentConvert
