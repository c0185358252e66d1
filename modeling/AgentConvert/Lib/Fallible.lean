import Mathlib.Data.List.Basic
import Mathlib.Data.List.Forall2
import Mathlib.Data.List.Induction

/-!
# Fallible readers

A reader returns a result or an error.  This module has the rules for reasoning about programs
made of readers: sequencing, the traversals `mapM` and `forM`, and the loop `foldlM`.

## Main definitions

* `Accepts` — the reader produces some result
* `Returns` — whatever the reader produces has a property

## Main statements

* `mapM_ok_iff`, `forM_ok_iff` — an accepted traversal is one accepted call for every item
* `mapM_ok_of_isPrefix`, `foldlM_ok_of_isPrefix` — what a traversal returns on a first part
* `foldlM_ok_invariant` — what one pass of a loop preserves holds after the loop
-/

namespace AgentConvert

universe u

variable {ε : Type*} {α β σ : Type u}

/-! ### Results of fallible readers -/

/-- The reader produces a result. -/
def Accepts (result : Except ε α) : Prop := ∃ a, result = .ok a

/-- Acceptance as the Boolean test a program makes. -/
theorem isOk_iff_accepts {result : Except ε α} : result.isOk = true ↔ Accepts result := by
  cases result with
  | error _ => simp [Accepts, Except.isOk, Except.toBool]
  | ok a => simp [Accepts, Except.isOk, Except.toBool]

/-- A value that is there was returned. -/
theorem ok_of_toOption_eq_some {result : Except ε α} {a : α} (h : result.toOption = some a) :
    result = .ok a := by
  cases result with
  | error e => cases h
  | ok b =>
    cases h
    rfl

/-- An error is not accepted. -/
@[simp] theorem not_accepts_error (e : ε) : ¬ Accepts (.error e : Except ε α) := by
  simp [Accepts]

/-- A result is accepted. -/
@[simp] theorem accepts_ok (a : α) : Accepts (.ok a : Except ε α) := ⟨a, rfl⟩

/-- A result is accepted. -/
@[simp] theorem accepts_pure (a : α) : Accepts (pure a : Except ε α) := ⟨a, rfl⟩

/-- Two steps produce `b` when the first produces something on which the second produces `b`. -/
theorem bind_ok_iff {e : Except ε α} {f : α → Except ε β} {b : β} :
    (e >>= f) = .ok b ↔ ∃ a, e = .ok a ∧ f a = .ok b := by
  cases e with
  | error _ => simp [bind, Except.bind]
  | ok a => simp [bind, Except.bind]

/-- Two steps are accepted when the first produces something on which the second is accepted. -/
theorem accepts_bind_iff {e : Except ε α} {f : α → Except ε β} :
    Accepts (e >>= f) ↔ ∃ a, e = .ok a ∧ Accepts (f a) := by
  cases e with
  | error _ => simp [Accepts, bind, Except.bind]
  | ok a => simp [Accepts, bind, Except.bind]

/-- A total last step changes nothing about acceptance. -/
theorem accepts_bind_pure_iff {e : Except ε α} {f : α → β} :
    Accepts (e >>= fun a => (pure (f a) : Except ε β)) ↔ Accepts e := by
  rw [accepts_bind_iff]
  constructor
  · rintro ⟨a, ha, _⟩
    exact ⟨a, ha⟩
  · rintro ⟨a, ha⟩
    exact ⟨a, ha, accepts_pure (f a)⟩

/-- A check whose result is not used is accepted together with the step behind it. -/
theorem accepts_seq_iff {e : Except ε α} {f : Except ε β} :
    Accepts (e >>= fun _ => f) ↔ Accepts e ∧ Accepts f := by
  rw [accepts_bind_iff]
  constructor
  · rintro ⟨a, ha, hf⟩
    exact ⟨⟨a, ha⟩, hf⟩
  · rintro ⟨⟨a, ha⟩, hf⟩
    exact ⟨a, ha, hf⟩

/-- Whatever the reader produces has the property. -/
def Returns (P : α → Prop) (result : Except ε α) : Prop := ∀ a, result = .ok a → P a

/-- What is returned has every weaker property. -/
theorem Returns.mono {P Q : α → Prop} {result : Except ε α} (h : Returns P result)
    (hPQ : ∀ a, P a → Q a) : Returns Q result := by
  intro a ha
  exact hPQ a (h a ha)

/-- An error returns nothing. -/
theorem returns_error {P : α → Prop} (e : ε) : Returns P (.error e : Except ε α) := by
  intro a h
  cases h

/-- A returned value has the property. -/
theorem returns_pure {P : α → Prop} {a : α} (h : P a) : Returns P (pure a : Except ε α) := by
  intro b hb
  cases hb
  exact h

/-- What holds of the last step holds of the whole.  The last step works on a result of the
first. -/
theorem returns_bind_of_ok {P : β → Prop} {e : Except ε α} {f : α → Except ε β}
    (h : ∀ a, e = .ok a → Returns P (f a)) : Returns P (e >>= f) := by
  intro b hb
  obtain ⟨a, ha, hb⟩ := bind_ok_iff.mp hb
  exact h a ha b hb

/-- What holds of the last step holds of the whole, whatever came before. -/
theorem returns_bind {P : β → Prop} {e : Except ε α} {f : α → Except ε β}
    (h : ∀ a, Returns P (f a)) : Returns P (e >>= f) :=
  returns_bind_of_ok fun a _ => h a

/-- A check in front of a step produces nothing of its own. -/
theorem returns_guard {P : β → Prop} {c : Prop} [Decidable c] {e : Except ε PUnit}
    {f : PUnit → Except ε β} (h : ∀ u, Returns P (f u)) :
    Returns P (if c then e >>= f else f ⟨⟩) := by
  split
  · exact returns_bind h
  · exact h ⟨⟩

/-! ### Traversals -/

/-- An accepted `mapM` is one accepted call for every item, in order. -/
theorem mapM_ok_iff {f : α → Except ε β} {xs : List α} {ys : List β} :
    xs.mapM f = .ok ys ↔ List.Forall₂ (fun x y => f x = .ok y) xs ys := by
  induction xs generalizing ys with
  | nil => simp [pure, Except.pure, eq_comm]
  | cons x xs ih =>
    rw [List.mapM_cons, bind_ok_iff]
    constructor
    · rintro ⟨y, hy, htail⟩
      obtain ⟨ys', hys', hpure⟩ := bind_ok_iff.mp htail
      cases hpure
      exact List.Forall₂.cons hy (ih.mp hys')
    · intro h
      cases h with
      | cons hy htail =>
        refine ⟨_, hy, bind_ok_iff.mpr ⟨_, ih.mpr htail, rfl⟩⟩

/-- Every result of an accepted `mapM` comes from an item. -/
theorem exists_of_mem_mapM_ok {f : α → Except ε β} {xs : List α} {ys : List β}
    (h : xs.mapM f = .ok ys) {y : β} (hy : y ∈ ys) : ∃ x ∈ xs, f x = .ok y := by
  have hall := mapM_ok_iff.mp h
  clear h
  induction hall with
  | nil => cases hy
  | @cons x _ _ _ hx _ ih =>
    rcases List.mem_cons.mp hy with rfl | hy
    · exact ⟨x, List.mem_cons_self, hx⟩
    · obtain ⟨x', hx', hfx'⟩ := ih hy
      exact ⟨x', List.mem_cons_of_mem _ hx', hfx'⟩

/-- Every item of an accepted `mapM` has a result. -/
theorem exists_mem_of_mapM_ok {f : α → Except ε β} {xs : List α} {ys : List β}
    (h : xs.mapM f = .ok ys) {x : α} (hx : x ∈ xs) : ∃ y ∈ ys, f x = .ok y := by
  have hall := mapM_ok_iff.mp h
  clear h
  induction hall with
  | nil => cases hx
  | @cons _ y _ _ hy _ ih =>
    rcases List.mem_cons.mp hx with rfl | hx
    · exact ⟨y, List.mem_cons_self, hy⟩
    · obtain ⟨y', hy', hfy'⟩ := ih hx
      exact ⟨y', List.mem_cons_of_mem _ hy', hfy'⟩

/-- A result of an accepted `mapM` comes from the item at its place. -/
theorem exists_getElem?_of_mapM_ok {f : α → Except ε β} {xs : List α} {ys : List β}
    (h : xs.mapM f = .ok ys) {i : Nat} {y : β} (hy : ys[i]? = some y) :
    ∃ x, xs[i]? = some x ∧ f x = .ok y := by
  have hall := mapM_ok_iff.mp h
  clear h
  induction hall generalizing i with
  | nil => cases hy
  | @cons x _ _ _ hx _ ih =>
    cases i with
    | zero =>
      cases hy
      exact ⟨x, rfl, hx⟩
    | succ i => exact ih hy

/-- On a first part, an accepted `mapM` returns a first part of its results. -/
theorem mapM_ok_of_isPrefix {f : α → Except ε β} {xs xs' : List α} {ys : List β}
    (hcut : xs' <+: xs) (h : xs.mapM f = .ok ys) :
    ∃ ys', xs'.mapM f = .ok ys' ∧ ys' <+: ys := by
  obtain ⟨rest, rfl⟩ := hcut
  rw [List.mapM_append] at h
  obtain ⟨ys', hys', h⟩ := bind_ok_iff.mp h
  obtain ⟨zs, _, hpure⟩ := bind_ok_iff.mp h
  cases hpure
  exact ⟨ys', hys', List.prefix_append _ _⟩

/-- A `mapM` whose calls can do what the calls of another one did returns the same. -/
theorem mapM_ok_mono {f g : α → Except ε β} {xs : List α} {ys : List β}
    (hfg : ∀ x ∈ xs, ∀ y, f x = .ok y → g x = .ok y) (h : xs.mapM f = .ok ys) :
    xs.mapM g = .ok ys := by
  have hall := mapM_ok_iff.mp h
  clear h
  refine mapM_ok_iff.mpr ?_
  induction hall with
  | nil => exact List.Forall₂.nil
  | @cons x y _ _ hx _ ih =>
    refine List.Forall₂.cons (hfg x List.mem_cons_self y hx) (ih fun x' hx' => ?_)
    exact hfg x' (List.mem_cons_of_mem _ hx')

/-- A `mapM` is accepted when every call is. -/
theorem accepts_mapM_iff {f : α → Except ε β} {xs : List α} :
    Accepts (xs.mapM f) ↔ ∀ x ∈ xs, Accepts (f x) := by
  induction xs with
  | nil => simp [pure, Except.pure]
  | cons x xs ih =>
    rw [List.mapM_cons, accepts_bind_iff, List.forall_mem_cons, ← ih]
    constructor
    · rintro ⟨y, hy, htail⟩
      exact ⟨⟨y, hy⟩, accepts_bind_pure_iff.mp htail⟩
    · rintro ⟨⟨y, hy⟩, htail⟩
      exact ⟨y, hy, accepts_bind_pure_iff.mpr htail⟩

/-- An accepted `forM` is one accepted call for every item. -/
theorem forM_ok_iff {f : α → Except ε PUnit} {xs : List α} {u : PUnit} :
    xs.forM f = .ok u ↔ ∀ x ∈ xs, f x = .ok ⟨⟩ := by
  induction xs with
  | nil => simp [List.forM, pure, Except.pure]
  | cons x xs ih =>
    rw [List.forM, bind_ok_iff]
    constructor
    · rintro ⟨_, hx, htail⟩ y hy
      rcases List.mem_cons.mp hy with rfl | hy
      · exact hx
      · exact ih.mp htail y hy
    · intro h
      exact ⟨⟨⟩, h x (by simp), ih.mpr fun y hy => h y (by simp [hy])⟩

/-- A `forM` is accepted when every call is. -/
theorem accepts_forM_iff {f : α → Except ε PUnit} {xs : List α} :
    Accepts (xs.forM f) ↔ ∀ x ∈ xs, Accepts (f x) := by
  constructor
  · rintro ⟨_, h⟩ x hx
    exact ⟨⟨⟩, forM_ok_iff.mp h x hx⟩
  · intro h
    refine ⟨⟨⟩, forM_ok_iff.mpr fun x hx => ?_⟩
    obtain ⟨_, hfx⟩ := h x hx
    exact hfx

/-- On a first part, an accepted `foldlM` reaches a state from which it goes on with the rest. -/
theorem foldlM_ok_of_isPrefix {f : σ → α → Except ε σ} {start final : σ} {xs xs' : List α}
    (hcut : xs' <+: xs) (h : xs.foldlM f start = .ok final) :
    ∃ reached, xs'.foldlM f start = .ok reached ∧
      ∃ rest : List α, rest.foldlM f reached = .ok final := by
  obtain ⟨rest, rfl⟩ := hcut
  rw [List.foldlM_append] at h
  obtain ⟨reached, hreached, hrest⟩ := bind_ok_iff.mp h
  exact ⟨reached, hreached, rest, hrest⟩

/-- A `foldlM` whose steps can do what the steps of another one did reaches the same state. -/
theorem foldlM_ok_mono {f g : σ → α → Except ε σ}
    (hfg : ∀ s a s', f s a = .ok s' → g s a = .ok s') {xs : List α} {start final : σ}
    (h : xs.foldlM f start = .ok final) : xs.foldlM g start = .ok final := by
  induction xs generalizing start with
  | nil => exact h
  | cons x xs ih =>
    rw [List.foldlM_cons, bind_ok_iff] at h ⊢
    obtain ⟨mid, hmid, htail⟩ := h
    exact ⟨mid, hfg start x mid hmid, ih htail⟩

/-- An invariant of the steps holds of the state that an accepted `foldlM` reaches.  It may
speak of the items that were read. -/
theorem foldlM_ok_invariant {f : σ → α → Except ε σ} (inv : List α → σ → Prop) {xs : List α}
    (hstep : ∀ done s a s', done ++ [a] <+: xs → inv done s → f s a = .ok s' →
      inv (done ++ [a]) s')
    {start final : σ} (hstart : inv [] start) (h : xs.foldlM f start = .ok final) :
    inv xs final := by
  induction xs using List.reverseRecOn generalizing final with
  | nil =>
    cases h
    exact hstart
  | append_singleton xs x ih =>
    rw [List.foldlM_append, bind_ok_iff] at h
    obtain ⟨mid, hmid, hlast⟩ := h
    obtain ⟨final', hfinal', hpure⟩ := bind_ok_iff.mp hlast
    cases hpure
    have hmid' : inv xs mid := by
      refine ih (fun done s a s' hcut => hstep done s a s' ?_) hmid
      exact hcut.trans (List.prefix_append _ _)
    exact hstep xs mid x _ List.prefix_rfl hmid' hfinal'

/-- What the steps only add to is a first part of what an accepted `foldlM` ends with. -/
theorem foldlM_ok_grows {f : σ → α → Except ε σ} (out : σ → List β)
    (hstep : ∀ s a s', f s a = .ok s' → out s <+: out s') {xs : List α} {start final : σ}
    (h : xs.foldlM f start = .ok final) : out start <+: out final := by
  refine foldlM_ok_invariant (fun _ s => out start <+: out s) ?_ List.prefix_rfl h
  exact fun _ s a s' _ hs hstep' => hs.trans (hstep s a s' hstep')

/-! ### Readers without an error -/

/-- A list is read as its images when each of its values is. -/
theorem mapM_eq_some_map {f : α → Option β} {g : α → β} {xs : List α}
    (h : ∀ x ∈ xs, f x = some (g x)) : xs.mapM f = some (xs.map g) := by
  induction xs with
  | nil => rfl
  | cons x xs ih =>
    obtain ⟨hfirst, hrest⟩ := List.forall_mem_cons.mp h
    rw [List.mapM_cons, hfirst, ih hrest]
    rfl

/-- A list is read when each of its values is. -/
theorem exists_mapM_eq_some {f : α → Option β} {R : β → α → Prop} {xs : List α}
    (h : ∀ x ∈ xs, ∃ y, f x = some y ∧ R y x) :
    ∃ ys, xs.mapM f = some ys ∧ List.Forall₂ R ys xs := by
  induction xs with
  | nil => exact ⟨[], rfl, .nil⟩
  | cons x xs ih =>
    obtain ⟨y, hy, hR⟩ := h x List.mem_cons_self
    obtain ⟨ys, hys, hRs⟩ := ih fun x' hx' => h x' (List.mem_cons_of_mem _ hx')
    refine ⟨y :: ys, ?_, .cons hR hRs⟩
    rw [List.mapM_cons, hy, hys]
    rfl

/-- What is read was read from a value of the list. -/
theorem exists_of_mem_mapM_eq_some {f : α → Option β} {xs : List α} {ys : List β}
    (h : xs.mapM f = some ys) : ∀ y ∈ ys, ∃ x ∈ xs, f x = some y := by
  induction xs generalizing ys with
  | nil =>
    cases h
    exact fun y hy => by cases hy
  | cons x xs ih =>
    rw [List.mapM_cons] at h
    obtain ⟨y, hy, h⟩ := Option.bind_eq_some_iff.mp h
    obtain ⟨ys', hys', h⟩ := Option.bind_eq_some_iff.mp h
    cases h
    refine List.forall_mem_cons.mpr ⟨⟨x, List.mem_cons_self, hy⟩, fun y' hy' => ?_⟩
    obtain ⟨x', hx', hread⟩ := ih hys' y' hy'
    exact ⟨x', List.mem_cons_of_mem _ hx', hread⟩

end AgentConvert
