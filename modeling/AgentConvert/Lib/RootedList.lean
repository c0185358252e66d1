import Mathlib.Data.List.Basic
import Mathlib.Data.List.Induction

/-!
# Trees listed parents first

A tree can be written down as a list of nodes with the names of their parents, the root first and
every other node behind its parent.  Such a list is built from its front, so every first part of
it lists a tree as well.

## Main definitions

* `RootedList` — the list of a tree: unique names, one root, parents before their children

## Main statements

* `rootedList_concat_iff` — what the last node of a list has to satisfy
* `RootedList.of_isPrefix` — a first part of a tree is a tree
-/

namespace AgentConvert

variable {ι : Type*}

/-- The names of the listed nodes. -/
def nodeNames (nodes : List (ι × Option ι)) : List ι := nodes.map Prod.fst

/-- The nodes, each with the name of its parent, list a tree parents first. -/
inductive RootedList : List (ι × Option ι) → Prop where
  | nil : RootedList []
  | root (name : ι) : RootedList [(name, none)]
  | child {nodes : List (ι × Option ι)} {name parent : ι} : RootedList nodes →
      name ∉ nodeNames nodes → parent ∈ nodeNames nodes →
      RootedList (nodes ++ [(name, some parent)])

/-- What a last node needs: a new name, and a parent before it unless it is the only node. -/
def FitsBehind (nodes : List (ι × Option ι)) (node : ι × Option ι) : Prop :=
  node.1 ∉ nodeNames nodes ∧
    match node.2 with
    | none => nodes = []
    | some parent => parent ∈ nodeNames nodes

/-- A rooted list grows at its end by a node that fits behind it. -/
theorem rootedList_concat_iff {nodes : List (ι × Option ι)} {node : ι × Option ι} :
    RootedList (nodes ++ [node]) ↔ RootedList nodes ∧ FitsBehind nodes node := by
  constructor
  · intro h
    generalize hall : nodes ++ [node] = all at h
    cases h with
    | nil => simp at hall
    | root name =>
      obtain ⟨rfl, rfl⟩ : nodes = [] ∧ node = (name, none) := by
        simpa [List.append_eq_singleton_iff] using hall
      exact ⟨RootedList.nil, by simp [FitsBehind, nodeNames]⟩
    | child htree hname hparent =>
      obtain ⟨rfl, hnode⟩ := List.append_inj' hall rfl
      cases hnode
      exact ⟨htree, hname, hparent⟩
  · obtain ⟨name, parent?⟩ := node
    rintro ⟨htree, hname, hparent⟩
    cases parent? with
    | none =>
      dsimp only at hparent
      subst hparent
      exact RootedList.root name
    | some parent => exact RootedList.child htree hname hparent

/-- **A first part of a listed tree is a listed tree.** -/
theorem RootedList.of_isPrefix {short full : List (ι × Option ι)} (hcut : short <+: full)
    (h : RootedList full) : RootedList short := by
  obtain ⟨rest, rfl⟩ := hcut
  induction rest using List.reverseRecOn with
  | nil => simpa using h
  | append_singleton rest node ih =>
    rw [← List.append_assoc, rootedList_concat_iff] at h
    exact ih h.1

end AgentConvert
