import AgentConvert.Lib.RootedList
import AgentConvert.Pi.Links

/-!
# The entry tree of a Pi session

Three checks of the importer speak of ids and parents only: ids are unique, only the first entry
is a root, and a parent stands on an earlier line.  Together they say that the entries list a tree
parents first (`piTree_accepts_iff`), one entry at a time: each check of the entries with one more
behind them is the check of the entries and something about the last one.
-/

namespace AgentConvert.Pi

/-- The entries as nodes of a tree. -/
def piNodes (raws : List RawEntry) : List (String × Option String) :=
  raws.map fun raw => (raw.id, raw.parentId)

/-- The nodes are named by the identifiers. -/
theorem nodeNames_piNodes (raws : List RawEntry) :
    nodeNames (piNodes raws) = raws.map RawEntry.id := by
  unfold nodeNames piNodes
  rw [List.map_map]
  rfl

theorem piNodes_concat (raws : List RawEntry) (raw : RawEntry) :
    piNodes (raws ++ [raw]) = piNodes raws ++ [(raw.id, raw.parentId)] := by
  unfold piNodes
  rw [List.map_append]
  rfl

/-! ### One more entry -/

theorem find?_fst_eq_none_iff {α : Type} {pairs : List (String × α)} {id : String} :
    pairs.find? (fun pair => pair.1 == id) = none ↔ id ∉ pairs.map Prod.fst := by
  rw [List.find?_eq_none, List.mem_map, not_exists]
  constructor
  · rintro h pair ⟨hpair, rfl⟩
    exact h pair hpair (beq_self_eq_true _)
  · intro h pair hpair heq
    exact h pair ⟨hpair, beq_iff_eq.mp heq⟩

/-- Identifiers are unique when the first is new and the rest are unique behind it. -/
theorem accepts_validateUniquePiEntryIds_cons {raw : RawEntry} {rest : List RawEntry}
    {seen : List (String × Nat)} :
    Accepts (validateUniquePiEntryIds (raw :: rest) seen) ↔
      raw.id ∉ seen.map Prod.fst ∧
        Accepts (validateUniquePiEntryIds rest ((raw.id, raw.line) :: seen)) := by
  rw [← find?_fst_eq_none_iff, validateUniquePiEntryIds]
  cases hfind : seen.find? fun prior => prior.1 == raw.id with
  | none => simp
  | some prior => simp [piSchemaError]

/-- Identifiers stay unique behind an entry with a new one. -/
theorem accepts_validateUniquePiEntryIds_concat {raws : List RawEntry} {raw : RawEntry}
    {seen : List (String × Nat)} :
    Accepts (validateUniquePiEntryIds (raws ++ [raw]) seen) ↔
      Accepts (validateUniquePiEntryIds raws seen) ∧
        raw.id ∉ seen.map Prod.fst ∧ raw.id ∉ raws.map RawEntry.id := by
  induction raws generalizing seen with
  | nil =>
    rw [List.nil_append, accepts_validateUniquePiEntryIds_cons]
    simp [validateUniquePiEntryIds]
  | cons first raws ih =>
    rw [List.cons_append, accepts_validateUniquePiEntryIds_cons,
      accepts_validateUniquePiEntryIds_cons, ih]
    simp only [List.map_cons, List.mem_cons, not_or]
    tauto

theorem accepts_validatePiRoot_cons {root : RawEntry} {rest : List RawEntry} :
    Accepts (validatePiRoot (root :: rest)) ↔
      root.parentId = none ∧ ∀ entry ∈ rest, entry.parentId ≠ none := by
  rw [validatePiRoot]
  cases hroot : root.parentId with
  | some parent => simp [piSchemaError]
  | none =>
    simp only [Option.isSome_none, Bool.false_eq_true, if_false, true_and]
    cases hfind : rest.find? fun entry => entry.parentId.isNone with
    | none =>
      rw [List.find?_eq_none] at hfind
      simpa using hfind
    | some extraRoot =>
      have hmem := List.mem_of_find?_eq_some hfind
      have hnone := List.find?_some hfind
      rw [Option.isNone_iff_eq_none] at hnone
      simp only [piSchemaError, not_accepts_error, false_iff, not_forall]
      exact ⟨extraRoot, hmem, fun hne => hne hnone⟩

/-- The root check passes one more entry exactly if the first entry alone is a root. -/
theorem accepts_validatePiRoot_concat {raws : List RawEntry} {raw : RawEntry} :
    Accepts (validatePiRoot (raws ++ [raw])) ↔
      Accepts (validatePiRoot raws) ∧ (raw.parentId = none ↔ raws = []) := by
  cases raws with
  | nil =>
    rw [List.nil_append, accepts_validatePiRoot_cons]
    simp [validatePiRoot]
  | cons root rest =>
    rw [List.cons_append, accepts_validatePiRoot_cons, accepts_validatePiRoot_cons]
    simp only [List.mem_append, List.mem_singleton, or_imp, forall_and, forall_eq,
      reduceCtorEq, iff_false]
    tauto

/-- A parent is found exactly if it was seen. -/
theorem accepts_piParentIndex_iff {raws : List RawEntry} {seen : List (String × Nat)}
    {raw : RawEntry} :
    Accepts (piParentIndex raws seen raw) ↔
      ∀ parent ∈ raw.parentId, parent ∈ seen.map Prod.fst := by
  unfold piParentIndex
  cases hparent : raw.parentId with
  | none => simp
  | some parent =>
    simp only [Option.mem_def, Option.some.injEq, forall_eq']
    cases hfind : seen.find? fun pair => pair.1 == parent with
    | none =>
      have hmissing := find?_fst_eq_none_iff.mp hfind
      dsimp only
      split
      · simpa [piSchemaError] using hmissing
      · simpa [piSchemaError] using hmissing
    | some pair =>
      have hmem : parent ∈ seen.map Prod.fst := by
        by_contra hmissing
        rw [find?_fst_eq_none_iff.mpr hmissing] at hfind
        cases hfind
      simpa using hmem

/-- The parents of one more entry are found exactly if its parent came earlier. -/
theorem accepts_piParentIndices_concat {raws : List RawEntry} {raw : RawEntry} :
    Accepts (piParentIndices (raws ++ [raw])) ↔
      Accepts (piParentIndices raws) ∧
        ∀ parent ∈ raw.parentId, parent ∈ raws.map RawEntry.id := by
  -- The ids the loop has seen before the last entry are the ids of the entries before it.
  have hseen : ∀ {seen parents},
      raws.zipIdx.foldlM (piParentStep raws) ([], []) = .ok (seen, parents) →
        ∀ id, id ∈ seen.map Prod.fst ↔ id ∈ raws.map RawEntry.id := by
    intro seen parents hloop id
    have hids : raws.zipIdx.map (fun item => item.1.id) = raws.map RawEntry.id := by
      conv_rhs => rw [← List.zipIdx_map_fst 0 raws]
      rw [List.map_map]
      rfl
    rw [(piParentLoop_inv hloop).names id, hids]
  constructor
  · rintro ⟨parents, h⟩
    obtain ⟨seen, hloop⟩ := piParentIndices_ok_iff.mp h
    rw [List.zipIdx_append, List.foldlM_append] at hloop
    obtain ⟨⟨seen', parents'⟩, hfirst, hlast⟩ := bind_ok_iff.mp hloop
    obtain ⟨_, hstep, _⟩ := bind_ok_iff.mp hlast
    obtain ⟨parent, hparent, _⟩ := bind_ok_iff.mp hstep
    have hfirst' : raws.zipIdx.foldlM (piParentStep raws) ([], []) = .ok (seen', parents') :=
      foldlM_ok_mono (fun _ _ _ => piParentStep_ok) hfirst
    refine ⟨⟨parents', piParentIndices_ok_iff.mpr ⟨seen', hfirst'⟩⟩, fun name hname => ?_⟩
    exact (hseen hfirst' name).mp (accepts_piParentIndex_iff.mp ⟨parent, hparent⟩ name hname)
  · rintro ⟨⟨parents, h⟩, hparent⟩
    obtain ⟨seen, hloop⟩ := piParentIndices_ok_iff.mp h
    have hfirst : raws.zipIdx.foldlM (piParentStep (raws ++ [raw])) ([], []) =
        .ok (seen, parents) := foldlM_ok_mono (fun _ _ _ => piParentStep_ok) hloop
    obtain ⟨parent, hlast⟩ : Accepts (piParentIndex (raws ++ [raw]) seen raw) :=
      accepts_piParentIndex_iff.mpr fun name hname => (hseen hloop name).mpr (hparent name hname)
    refine ⟨parents ++ [parent], piParentIndices_ok_iff.mpr ⟨(raw.id, raws.length) :: seen, ?_⟩⟩
    rw [List.zipIdx_append, List.foldlM_append]
    refine bind_ok_iff.mpr ⟨_, hfirst, ?_⟩
    refine bind_ok_iff.mpr ⟨_, bind_ok_iff.mpr ⟨parent, hlast, rfl⟩, ?_⟩
    simp [pure, Except.pure]

/-- **The checks of ids and parents accept the entries exactly when they list a tree parents
first.** -/
theorem piTree_accepts_iff {raws : List RawEntry} :
    (Accepts (validateUniquePiEntryIds raws []) ∧ Accepts (validatePiRoot raws) ∧
      Accepts (piParentIndices raws)) ↔ RootedList (piNodes raws) := by
  induction raws using List.reverseRecOn with
  | nil => simp [validateUniquePiEntryIds, validatePiRoot, piNodes, RootedList.nil, piParentIndices]
  | append_singleton raws raw ih =>
    rw [accepts_validateUniquePiEntryIds_concat, accepts_validatePiRoot_concat,
      accepts_piParentIndices_concat, piNodes_concat, rootedList_concat_iff, ← ih]
    unfold FitsBehind
    rw [nodeNames_piNodes]
    cases hparent : raw.parentId with
    | none =>
      simp only [piNodes, List.map_eq_nil_iff, true_iff, Option.mem_def, reduceCtorEq,
        false_implies, implies_true, and_true, List.map_nil, List.not_mem_nil, not_false_eq_true,
        true_and]
      tauto
    | some parent =>
      have hnonempty : parent ∈ raws.map RawEntry.id → raws ≠ [] := by
        rintro hmem rfl
        cases hmem
      simp only [Option.mem_def, Option.some.injEq, forall_eq', reduceCtorEq, false_iff,
        List.map_nil, List.not_mem_nil, not_false_eq_true, true_and]
      tauto

end AgentConvert.Pi
