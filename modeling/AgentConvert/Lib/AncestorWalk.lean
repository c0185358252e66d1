import AgentConvert.Lib.Fallible
import Mathlib.Data.List.Nodup
import Mathlib.Data.List.Perm.Subperm

/-!
# Walks along parent links

A node of a graph is checked by following its parent links to a node without a parent.  Every
node on the way is identified and its parent is looked up; both can fail.  A walk also fails when
it meets an identity for the second time, or when it runs out of fuel.

Over a finite set of nodes that are told apart by their identities the two guards never fire on a
chain that ends: the walk is accepted exactly when the chain of parents reaches a root
(`AncestorWalk.run_accepts_iff`).

## Main definitions

* `AncestorWalk` — how nodes are identified and how parents are found
* `AncestorWalk.run` — the walk
* `AncestorWalk.Chain` — a list of nodes from a node to a root
* `AncestorWalk.Rooted` — some chain leads from the node to a root
-/

namespace AgentConvert

/-- How a walk identifies a node, finds its parent and words its own two errors.  Looking up a
parent also leaves notes. -/
structure AncestorWalk (ε α ι κ ν : Type) where
  identify : α → Except ε ι
  mark : ι → κ
  parent : α → ι → Except ε (Option α × List ν)
  tooDeep : α → ε
  cycle : α → κ → ε

namespace AncestorWalk

variable {ε α ι κ ν : Type} [BEq κ] [LawfulBEq κ] {w : AncestorWalk ε α ι κ ν}

/-- The nodes from `current` to the root, and the notes of the way.  `seen` has the marks of the
nodes before. -/
def run (w : AncestorWalk ε α ι κ ν) : Nat → α → List κ → Except ε (List α × List ν)
  | 0, current, _ => .error (w.tooDeep current)
  | fuel + 1, current, seen => do
    let identity ← w.identify current
    if seen.contains (w.mark identity) then .error (w.cycle current (w.mark identity))
    else
      let (next, notes) ← w.parent current identity
      match next with
      | none => pure ([current], notes)
      | some ancestor =>
        let (ancestors, more) ← w.run fuel ancestor (w.mark identity :: seen)
        pure (current :: ancestors, notes ++ more)

/-- The nodes from a node to a root, each the parent of the one before. -/
inductive Chain (w : AncestorWalk ε α ι κ ν) : α → List α → Prop
  | root {a : α} {identity : ι} {notes : List ν} (hidentity : w.identify a = .ok identity)
      (hparent : w.parent a identity = .ok (none, notes)) : Chain w a [a]
  | child {a b : α} {identity : ι} {notes : List ν} {ancestors : List α}
      (hidentity : w.identify a = .ok identity)
      (hparent : w.parent a identity = .ok (some b, notes))
      (hrest : Chain w b ancestors) : Chain w a (a :: ancestors)

/-- The chain of parents of the node reaches a root. -/
def Rooted (w : AncestorWalk ε α ι κ ν) (a : α) : Prop := ∃ ancestors, w.Chain a ancestors

/-! ### A walk follows a chain -/

omit [LawfulBEq κ] in
/-- What an accepted walk returns is a chain. -/
theorem chain_of_run {fuel : Nat} {a : α} {seen : List κ} {ancestors : List α} {notes : List ν}
    (h : w.run fuel a seen = .ok (ancestors, notes)) : w.Chain a ancestors := by
  induction fuel generalizing a seen ancestors notes with
  | zero => cases h
  | succ fuel ih =>
    rw [run] at h
    obtain ⟨identity, hidentity, h⟩ := bind_ok_iff.mp h
    split at h
    · cases h
    · obtain ⟨⟨next, found⟩, hparent, h⟩ := bind_ok_iff.mp h
      cases next with
      | none =>
        cases h
        exact Chain.root hidentity hparent
      | some ancestor =>
        obtain ⟨⟨rest, more⟩, hrest, hpure⟩ := bind_ok_iff.mp h
        cases hpure
        exact Chain.child hidentity hparent (ih hrest)

/-! ### Chains do not repeat a node -/

namespace Chain

omit [BEq κ] [LawfulBEq κ]

/-- A node has one chain. -/
theorem unique {a : α} {l l' : List α} (h : w.Chain a l) (h' : w.Chain a l') : l = l' := by
  induction h generalizing l' with
  | root hidentity hparent =>
    cases h' with
    | root => rfl
    | child hidentity' hparent' =>
      cases hidentity.symm.trans hidentity'
      cases hparent.symm.trans hparent'
  | child hidentity hparent _ ih =>
    cases h' with
    | root hidentity' hparent' =>
      cases hidentity.symm.trans hidentity'
      cases hparent.symm.trans hparent'
    | child hidentity' hparent' hrest' =>
      cases hidentity.symm.trans hidentity'
      cases hparent.symm.trans hparent'
      rw [ih hrest']

/-- The chain of a node on a chain is the rest of that chain. -/
theorem exists_suffix {a b : α} {l : List α} (h : w.Chain a l) (hb : b ∈ l) :
    ∃ rest, w.Chain b rest ∧ rest <:+ l := by
  induction h with
  | root hidentity hparent =>
    cases List.mem_singleton.mp hb
    exact ⟨_, Chain.root hidentity hparent, List.suffix_refl _⟩
  | child hidentity hparent hrest ih =>
    rcases List.mem_cons.mp hb with rfl | hb
    · exact ⟨_, Chain.child hidentity hparent hrest, List.suffix_refl _⟩
    · obtain ⟨rest, hchain, hsuffix⟩ := ih hb
      exact ⟨rest, hchain, hsuffix.trans (List.suffix_cons _ _)⟩

/-- A node with a parent is not among its ancestors: its chain would be part of itself. -/
theorem not_mem_ancestors {a : α} {ancestors : List α} (h : w.Chain a (a :: ancestors)) :
    a ∉ ancestors := by
  intro hmem
  cases h with
  | root => cases hmem
  | child hidentity hparent hrest =>
    obtain ⟨rest, hchain, hsuffix⟩ := hrest.exists_suffix hmem
    have hsame := (Chain.child hidentity hparent hrest).unique hchain
    have hlength := hsuffix.length_le
    rw [← hsame, List.length_cons] at hlength
    omega

theorem nodup {a : α} {l : List α} (h : w.Chain a l) : l.Nodup := by
  induction h with
  | root => exact List.nodup_singleton _
  | child hidentity hparent hrest ih =>
    exact List.nodup_cons.mpr
      ⟨(Chain.child hidentity hparent hrest).not_mem_ancestors, ih⟩

/-- A property that parents inherit holds along the chain. -/
theorem forall_mem {inv : α → Prop}
    (hstep : ∀ a identity b notes, inv a → w.identify a = .ok identity →
      w.parent a identity = .ok (some b, notes) → inv b)
    {a : α} {l : List α} (h : w.Chain a l) (ha : inv a) : ∀ b ∈ l, inv b := by
  induction h with
  | root =>
    intro b hb
    cases List.mem_singleton.mp hb
    exact ha
  | child hidentity hparent _ ih =>
    intro b hb
    rcases List.mem_cons.mp hb with rfl | hb
    · exact ha
    · exact ih (hstep _ _ _ _ ha hidentity hparent) b hb

/-- Every node of a chain was identified and had its parent looked up. -/
theorem resolved {a b : α} {l : List α} (h : w.Chain a l) (hb : b ∈ l) :
    ∃ identity found, w.identify b = .ok identity ∧ w.parent b identity = .ok found := by
  obtain ⟨rest, hchain, _⟩ := h.exists_suffix hb
  cases hchain with
  | root hidentity hparent => exact ⟨_, _, hidentity, hparent⟩
  | child hidentity hparent _ => exact ⟨_, _, hidentity, hparent⟩

end Chain

/-! ### Walks with enough fuel -/

/-- A walk along a chain is accepted when the fuel covers the chain and no mark is met twice. -/
theorem run_ok_of_chain {a : α} {l : List α} (h : w.Chain a l) {fuel : Nat} {seen : List κ}
    (hfuel : l.length ≤ fuel)
    (hfresh : ∀ b ∈ l, ∀ identity, w.identify b = .ok identity → w.mark identity ∉ seen)
    (hmarks : ∀ b ∈ l, ∀ c ∈ l, ∀ i j, w.identify b = .ok i → w.identify c = .ok j →
      w.mark i = w.mark j → b = c) :
    ∃ notes, w.run fuel a seen = .ok (l, notes) := by
  induction h generalizing fuel seen with
  | @root a identity notes hidentity hparent =>
    obtain ⟨fuel, rfl⟩ : ∃ n, fuel = n + 1 := Nat.exists_eq_add_one.mpr hfuel
    have hnew := hfresh _ (List.mem_singleton.mpr rfl) _ hidentity
    refine ⟨notes, ?_⟩
    rw [run, hidentity]
    simp only [bind, Except.bind, List.contains_iff_mem, if_neg hnew, hparent]
    rfl
  | @child a b identity notes ancestors hidentity hparent hrest ih =>
    obtain ⟨fuel, rfl⟩ : ∃ n, fuel = n + 1 := ⟨fuel - 1, by simp at hfuel; omega⟩
    have hself := (Chain.child hidentity hparent hrest).not_mem_ancestors
    have hnew := hfresh _ List.mem_cons_self _ hidentity
    have hfresh' : ∀ c ∈ ancestors, ∀ i, w.identify c = .ok i →
        w.mark i ∉ w.mark identity :: seen := by
      intro c hc i hi hmem
      rcases List.mem_cons.mp hmem with heq | hmem
      · -- Equal marks are equal nodes, and `a` is not its own ancestor.
        have hca := hmarks c (List.mem_cons_of_mem _ hc) a List.mem_cons_self i identity hi
          hidentity heq
        exact hself (hca ▸ hc)
      · exact hfresh c (List.mem_cons_of_mem _ hc) i hi hmem
    obtain ⟨more, hrun⟩ := ih (by simpa using hfuel) hfresh' fun c hc d hd =>
      hmarks c (List.mem_cons_of_mem _ hc) d (List.mem_cons_of_mem _ hd)
    refine ⟨notes ++ more, ?_⟩
    rw [run, hidentity]
    simp only [bind, Except.bind, List.contains_iff_mem, if_neg hnew, hparent, hrun]
    rfl

/-- **A walk over finitely many nodes with distinct marks is accepted exactly when the chain of
parents reaches a root.** -/
theorem run_accepts_iff {nodes : List α} (inv : α → Prop)
    (hstep : ∀ a identity b notes, inv a → w.identify a = .ok identity →
      w.parent a identity = .ok (some b, notes) → inv b)
    (hnodes : ∀ a, inv a → a ∈ nodes)
    (hmarks : ∀ a b i j found found', inv a → inv b → w.identify a = .ok i →
      w.identify b = .ok j → w.parent a i = .ok found → w.parent b j = .ok found' →
      w.mark i = w.mark j → a = b)
    {a : α} (ha : inv a) :
    Accepts (w.run nodes.length a []) ↔ w.Rooted a := by
  constructor
  · rintro ⟨⟨ancestors, notes⟩, h⟩
    exact ⟨ancestors, chain_of_run h⟩
  · rintro ⟨ancestors, h⟩
    have hinv := h.forall_mem hstep ha
    have hlength : ancestors.length ≤ nodes.length :=
      (h.nodup.subperm fun b hb => hnodes b (hinv b hb)).length_le
    have hdistinct : ∀ b ∈ ancestors, ∀ c ∈ ancestors, ∀ i j, w.identify b = .ok i →
        w.identify c = .ok j → w.mark i = w.mark j → b = c := by
      intro b hb c hc i j hi hj hmark
      obtain ⟨i', found, hi', hfound⟩ := h.resolved hb
      obtain ⟨j', found', hj', hfound'⟩ := h.resolved hc
      cases hi.symm.trans hi'
      cases hj.symm.trans hj'
      exact hmarks b c i j found found' (hinv b hb) (hinv c hc) hi hj hfound hfound' hmark
    obtain ⟨notes, hrun⟩ :=
      run_ok_of_chain h hlength (fun _ _ _ _ => List.not_mem_nil) hdistinct
    exact ⟨_, hrun⟩

end AncestorWalk

end AgentConvert
