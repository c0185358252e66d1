import AgentConvert.Cli.Publication

/-!
# The places of a publication

A publication uses six paths: the main file and the sidecar directory, and a stage and a backup
for each.  What its operations do is described by what stands at these six places.

## Main definitions

* `Slot`, `layout` — the places, and what stands at them
* `Publication` — a candidate, and the files it is published to
* `Publication.Shows` — the places are as described, and everything else is as before

## Main statements

* `slot_path_injective_claude` — a session file and its sidecar directory give six places
* `attempts_move` — what a checked rename does
* `attempts_ensureExpectedSidecarDirectory` — a directory that may be replaced has nothing in it
  that the program would not write
* `attempts_stageBundle` — the candidate is written without touching the prior generation
-/

namespace AgentConvert.Cli

open FilePrograms

/-! ### The six paths -/

/-- The places a publication uses. -/
inductive Slot where
  | main
  | sidecars
  | mainStage
  | sidecarStage
  | mainBackup
  | sidecarBackup
  deriving Repr, DecidableEq

/-- Where each slot is on the file system. -/
def Slot.path (path subDir : String) : Slot → String
  | .main => path
  | .sidecars => subDir
  | .mainStage => path ++ ".agent-convert-stage"
  | .sidecarStage => subDir ++ ".agent-convert-stage"
  | .mainBackup => path ++ ".agent-convert-backup"
  | .sidecarBackup => subDir ++ ".agent-convert-backup"

/-- The places of a session file and its sidecar directory are six paths. -/
theorem slot_path_injective_claude (path : String) :
    Function.Injective (Slot.path path (claudeSubagentsDir path)) := by
  have hlength : (claudeSubagentsDir path).length = path.length + 4 ∨
      (claudeSubagentsDir path).length = path.length + 10 := by
    unfold claudeSubagentsDir
    dsimp only
    split
    next hsuffix =>
      have hlong := congrArg List.length (eq_of_beq hsuffix)
      rw [List.length_drop, String.length_toList] at hlong
      have hsix : 6 ≤ path.length := by
        have hsuffixLength : ".jsonl".toList.length = 6 := by decide
        omega
      refine Or.inl ?_
      rw [String.length_append, String.length_ofList, List.length_take, String.length_toList]
      have hname : "/subagents".length = 10 := by decide
      omega
    · exact Or.inr (String.length_append ..)
  intro s s' hsame
  have hlengths := congrArg String.length hsame
  have hstage : ".agent-convert-stage".length = 20 := by decide
  have hbackup : ".agent-convert-backup".length = 21 := by decide
  cases s <;> cases s' <;> first | rfl | skip
  all_goals
    simp only [Slot.path, String.length_append] at hlengths
    omega

/-- What stands at the six places. -/
def layout (main sidecars mainStage sidecarStage mainBackup sidecarBackup : Option Node) :
    Slot → Option Node
  | .main => main
  | .sidecars => sidecars
  | .mainStage => mainStage
  | .sidecarStage => sidecarStage
  | .mainBackup => mainBackup
  | .sidecarBackup => sidecarBackup

section Updates

variable (a b c d e g x : Option Node)

@[simp] theorem update_layout_main :
    Function.update (layout a b c d e g) .main x = layout x b c d e g := by
  funext s
  cases s <;> rfl

@[simp] theorem update_layout_sidecars :
    Function.update (layout a b c d e g) .sidecars x = layout a x c d e g := by
  funext s
  cases s <;> rfl

@[simp] theorem update_layout_mainStage :
    Function.update (layout a b c d e g) .mainStage x = layout a b x d e g := by
  funext s
  cases s <;> rfl

@[simp] theorem update_layout_sidecarStage :
    Function.update (layout a b c d e g) .sidecarStage x = layout a b c x e g := by
  funext s
  cases s <;> rfl

@[simp] theorem update_layout_mainBackup :
    Function.update (layout a b c d e g) .mainBackup x = layout a b c d x g := by
  funext s
  cases s <;> rfl

@[simp] theorem update_layout_sidecarBackup :
    Function.update (layout a b c d e g) .sidecarBackup x = layout a b c d e x := by
  funext s
  cases s <;> rfl

end Updates

/-- The candidate directory. -/
def candidateEntries (children : List SidecarChildOutput) : List (String × Node) :=
  children.flatMap fun child =>
    [(child.transcriptName, .file child.transcriptText),
      (child.metadataName, .file child.metadataText)]

/-- A candidate, where it is to be published, and the files before the run. -/
structure Publication where
  path : String
  subDir : String
  /-- The six places are six paths. -/
  distinct : Function.Injective (Slot.path path subDir)
  before : Files
  output : String
  children : List SidecarChildOutput

namespace Publication

variable (pub : Publication)

/-- The path of a slot of the publication. -/
def place (s : Slot) : String := s.path pub.path pub.subDir

/-- The prior main file. -/
def main : Option Node := pub.before pub.path

/-- The prior sidecars. -/
def sidecars : Option Node := pub.before pub.subDir

/-- The candidate main file. -/
def candidate : Node := .file pub.output

/-- The candidate sidecars. -/
def bundle : Node := .dir (candidateEntries pub.children)

/-- The places are as described, and everything else is as it was before. -/
structure Shows (v : Slot → Option Node) (f : Files) : Prop where
  places : ∀ s, f (pub.place s) = v s
  others : ∀ p, (∀ s, p ≠ pub.place s) → f p = pub.before p

/-- The prior generation is in place, and nothing is set aside. -/
def InPlace (f : Files) : Prop :=
  ∃ x y, pub.Shows (layout pub.main pub.sidecars x y none none) f

variable {pub}

/-- What the slots show follows a change to one of them. -/
theorem Shows.update {v : Slot → Option Node} {f : Files} (h : pub.Shows v f) (s : Slot)
    (x : Option Node) :
    pub.Shows (Function.update v s x) (Function.update f (pub.place s) x) where
  places := by
    intro s'
    by_cases hs : s' = s
    · subst hs
      simp
    · have hne : pub.place s' ≠ pub.place s := fun hsame => hs (pub.distinct hsame)
      rw [Function.update_of_ne hne, Function.update_of_ne hs]
      exact h.places s'
  others := by
    intro p hp
    rw [Function.update_of_ne (hp s)]
    exact h.others p hp

/-- A change of the stages leaves the prior generation in place. -/
theorem InPlace.update_stages {f : Files} (h : pub.InPlace f) (x : Option Node) :
    pub.InPlace (Function.update f (pub.place .mainStage) x) ∧
      pub.InPlace (Function.update f (pub.place .sidecarStage) x) := by
  obtain ⟨y, z, hshows⟩ := h
  refine ⟨⟨x, z, ?_⟩, ⟨y, x, ?_⟩⟩
  · simpa using hshows.update .mainStage x
  · simpa using hshows.update .sidecarStage x

end Publication

variable {pub : Publication} {crash S : Files → Prop} {n : Nat}

/-! ### Single operations -/

/-- Inspecting a path tells its type. -/
theorem attempts_sidecarPathType? (p : String) :
    Attempts crash S 1 (sidecarPathType? p) (fun t f => S f ∧ t = (f p).map Node.type) S :=
  (attempts_probe p).bind (fun _ _ => Triple.pure fun _ hm => hm) fun _ n =>
    Triple.pure fun _ hm => ⟨n, rfl, hm⟩

/-- **One move of the swap.** -/
theorem attempts_move {v : Slot → Option Node} {source destination : Slot} {node : Node}
    (operation : String) (hsource : v source = some node) (hdestination : v destination = none)
    (hcrash : ∀ f, pub.Shows
      (Function.update (Function.update v source none) destination (some node)) f → crash f) :
    Attempts crash (pub.Shows v) 1
      (renameIntoAbsent (pub.place source) (pub.place destination) operation)
      (fun _ => pub.Shows
        (Function.update (Function.update v source none) destination (some node)))
      (pub.Shows v) := by
  refine (attempts_sidecarPathType? _).bind (fun kind n => ?_) fun _ n =>
    Triple.pure fun _ hm => ⟨n, rfl, hm⟩
  cases kind with
  | some kind =>
    -- nothing stands at the destination
    intro m hm
    obtain ⟨⟨hshows, hkind⟩, _⟩ := hm
    rw [hshows.places, hdestination] at hkind
    cases hkind
  | none =>
    have hrename : Attempts crash (fun f => pub.Shows v f ∧ none =
        (f (pub.place destination)).map Node.type) 1
        (rename (pub.place source) (pub.place destination))
        (fun _ => pub.Shows
          (Function.update (Function.update v source none) destination (some node)))
        (fun f => pub.Shows v f ∧ none =
          (f (pub.place destination)).map Node.type) := by
      have hthere : ∀ f, (pub.Shows v f ∧ none = (f (pub.place destination)).map Node.type) →
          f (pub.place source) = some node := fun f hf => by rw [hf.1.places, hsource]
      refine attempts_rename hthere (fun f hf => ?_) fun f hf => ?_
      · rw [hf.1.places, hdestination]
      · have hmoved := (hf.1.update source none).update destination (some node)
        exact ⟨hcrash _ hmoved, hmoved⟩
    refine hrename.bind (fun _ _ => ?_) (fun _ k => ?_) n
    · exact Triple.pure fun _ hm => hm
    · exact Triple.pure fun _ hm => ⟨k, rfl, hm.mono (fun _ h => h.1) (Nat.le_refl k)⟩

/-- Removing paths that the description says nothing about leaves the description true. -/
theorem triple_removeOwnedPathsChecked {paths : List String}
    (hany : ∀ p ∈ paths, ∀ f x, S f → crash (Function.update f p x) ∧ S (Function.update f p x)) :
    Triple crash (Within S n) (removeOwnedPathsChecked paths) fun _ => Within S n := by
  induction paths with
  | nil => exact Triple.pure fun _ hm => hm
  | cons p paths ih =>
    have hp := hany p List.mem_cons_self
    have hremove : Triple crash (Within S n) (removeOwnedPathChecked p) fun _ => Within S n := by
      unfold removeOwnedPathChecked
      refine (attempts_sidecarPathType? p).free.bind (Q := fun n _ => Within S n)
        (fun kind n => ?_) (fun _ n => ?_) n
      · cases kind with
        | none => exact Triple.pure fun _ hm => hm.mono (fun _ h => h.1) (Nat.le_refl n)
        | some kind =>
          have hgone : Attempts crash (fun f => S f ∧ some kind = (f p).map Node.type) 1 (remove p)
              (fun _ => S) S :=
            attempts_remove (fun f h => hp f none h.1) (fun f entries h => hp f _ h.1)
              fun f h => h.1
          refine hgone.free.bind (Q := fun n _ => Within S n) (fun _ k => ?_) (fun _ k => ?_) n
          · exact Triple.pure fun _ hm => hm
          · exact Triple.pure fun _ hm => hm
      · exact Triple.pure fun _ hm => hm
    refine hremove.bind fun removed => ?_
    refine (ih fun q hq => hany q (List.mem_cons_of_mem p hq)).bind fun errors => ?_
    cases removed with
    | ok _ => exact Triple.pure fun _ hm => hm
    | error _ => exact Triple.pure fun _ hm => hm

/-! ### Ownership -/

/-- The entry is a regular file with one of the generated names. -/
def EntryOwned (allowed : List String) (entries : List (String × Node)) (name : String) : Prop :=
  name ∈ allowed ∧ entryType entries name = some .file

/-- The directory is not there, or has only entries that the program may replace. -/
def SidecarsOwned (allowed : List String) : Option Node → Prop
  | none => True
  | some (.dir entries) => ∀ p ∈ entries, EntryOwned allowed entries p.1
  | some _ => False

/-- Without blockers every entry is owned. -/
theorem triple_unownedEntries {dir : String} {allowed : List String}
    {entries : List (String × Node)} (hdir : ∀ f, S f → f dir = some (.dir entries))
    (rest : List (String × Node)) :
    Triple crash (Within S n) (unownedEntries dir allowed rest) fun blockers m =>
      Within S n m ∧ (blockers = [] → ∀ p ∈ rest, EntryOwned allowed entries p.1) := by
  induction rest generalizing n with
  | nil => exact Triple.pure fun _ hm => ⟨hm, fun _ p hp => by cases hp⟩
  | cons p rest ih =>
    obtain ⟨name, node⟩ := p
    have hkind : Attempts crash S 0 (sidecarEntryType? dir name)
        (fun t f => S f ∧ t = entryType entries name) S := by
      unfold sidecarEntryType?
      refine (attempts_probeIn hdir).free.bind (fun _ n => ?_) fun _ n => ?_
      · exact Triple.pure fun _ hm => hm
      · exact Triple.pure fun _ hm => ⟨n, rfl, hm⟩
    unfold unownedEntries
    refine hkind.bind (Q := fun n blockers m => Within S n m ∧
      (blockers = [] → ∀ p ∈ (name, node) :: rest, EntryOwned allowed entries p.1))
      (fun kind n => ?_) (fun e n => ?_) n
    · refine Triple.assume (fun m hm => hm.1.2) fun hkind => ?_
      refine (ih.weaken (fun m hm => hm.mono (fun _ h => h.1) (Nat.le_refl n))
        fun _ _ h => h).bind fun blockers => ?_
      cases kind with
      | none => exact Triple.pure fun _ hm => ⟨hm.1, fun h => by cases h⟩
      | some kind =>
        dsimp only
        split
        · exact Triple.pure fun _ hm => ⟨hm.1, fun h => by cases h⟩
        next hname =>
          split
          · exact Triple.pure fun _ hm => ⟨hm.1, fun h => by cases h⟩
          next hfile =>
            refine Triple.pure fun _ hm => ⟨hm.1, fun h => ?_⟩
            refine List.forall_mem_cons.mpr ⟨⟨?_, ?_⟩, hm.2 h⟩
            · simpa using hname
            · rw [← hkind]
              simpa using hfile
    · refine ih.bind fun blockers => ?_
      exact Triple.pure fun _ hm => ⟨hm.1, fun h => by cases h⟩

/-- **A directory that may be replaced has nothing in it that the program would not write.** -/
theorem attempts_ensureExpectedSidecarDirectory (family dir : String) (allowed : List String) :
    Attempts crash S 0 (ensureExpectedSidecarDirectory family dir allowed)
      (fun _ f => S f ∧ SidecarsOwned allowed (f dir)) S := by
  unfold ensureExpectedSidecarDirectory
  refine (attempts_sidecarPathType? dir).free.bind_attempts (fun kind => ?_) fun e => ⟨e, rfl⟩
  cases kind with
  | none =>
    refine attempts_ok fun f h => ⟨h.1, ?_⟩
    rw [Option.map_eq_none_iff.mp h.2.symm]
    trivial
  | some kind =>
    dsimp only
    split
    · exact attempts_error fun _ h => h.1
    next hdir =>
      have hdir : kind = .dir := by simpa using hdir
      subst hdir
      have hread : Attempts crash (fun f => S f ∧ some .dir = (f dir).map Node.type) 1 (readDir dir)
          _ _ := attempts_readDir fun f h => h.2.symm
      have hlisted := hread.free.weaken (F := S) (fun _ h => h) (fun _ _ h => h) fun _ h => h.1
      refine hlisted.bind_attempts (fun entries n => ?_) fun e => ⟨_, rfl⟩
      refine (triple_unownedEntries (fun f h => h.2) entries).bind fun blockers => ?_
      split
      next hempty =>
        refine Triple.pure fun m hm => ⟨⟨hm.1.1.1.1, ?_⟩, hm.1.2⟩
        rw [hm.1.1.2]
        exact hm.2 (List.isEmpty_iff.mp hempty)
      · exact Triple.pure fun _ hm => ⟨n, rfl, hm.1.mono (fun _ h => h.1.1) (Nat.le_refl n)⟩

/-! ### Before the swap -/

/-- The check for traces of an earlier run finds none exactly when there are none. -/
theorem attempts_staleReservedPaths (paths : List String) :
    Attempts crash S 1 (staleReservedPaths paths)
      (fun stale f => S f ∧ (stale = [] ↔ ∀ p ∈ paths, f p = none)) S := by
  induction paths generalizing S with
  | nil => exact attempts_ok fun _ h => ⟨h, by simp⟩
  | cons p paths ih =>
    unfold staleReservedPaths
    refine (attempts_sidecarPathType? p).andThen fun kind => ?_
    refine (ih.weaken (F := S) (fun _ h => h) (fun _ _ h => h) fun _ h => h.1).andThen
      fun stale => ?_
    cases kind with
    | none =>
      refine attempts_ok fun f h => ⟨h.1.1, ?_⟩
      have hfree : f p = none := Option.map_eq_none_iff.mp h.1.2.symm
      rw [h.2, List.forall_mem_cons, and_iff_right hfree]
    | some kind =>
      refine attempts_ok fun f h => ⟨h.1.1, ?_⟩
      have htaken : f p ≠ none := by
        intro hfree
        have hkind := h.1.2
        rw [hfree] at hkind
        cases hkind
      simp [htaken]

section Staging

variable (hcrash : ∀ f, pub.InPlace f → crash f)

include hcrash

/-- **The stage directory gets the files of the children**, or some of them. -/
theorem attempts_stageChildren (children : List SidecarChildOutput) (x : Option Node)
    (entries : List (String × Node)) :
    Attempts crash (pub.Shows (layout pub.main pub.sidecars x (some (.dir entries)) none none))
      0 (stageChildren (pub.place .sidecarStage) children)
      (fun _ => pub.Shows (layout pub.main pub.sidecars x
        (some (.dir (entries ++ candidateEntries children))) none none))
      pub.InPlace := by
  have hwrite : ∀ entries name text, Attempts crash
      (pub.Shows (layout pub.main pub.sidecars x (some (.dir entries)) none none)) 0
      (writeNewIn (pub.place .sidecarStage) name text)
      (fun _ => pub.Shows
        (layout pub.main pub.sidecars x (some (.dir (entries ++ [(name, .file text)]))) none none))
      pub.InPlace := by
    intro entries name text
    have hput : ∀ entries' node f,
        pub.Shows (layout pub.main pub.sidecars x (some (.dir entries')) none none) f →
          crash (Function.update f (pub.place .sidecarStage) node) ∧
            pub.Shows (layout pub.main pub.sidecars x node none none)
              (Function.update f (pub.place .sidecarStage) node) := by
      intro entries' node f hf
      have hshows := hf.update .sidecarStage node
      rw [update_layout_sidecarStage] at hshows
      exact ⟨hcrash _ ⟨x, node, hshows⟩, hshows⟩
    refine (attempts_writeNewIn (T := fun w => pub.Shows
      (layout pub.main pub.sidecars x (some (.dir (entries ++ [(name, .file w)]))) none none))
      (fun f hf => hf.places .sidecarStage) (hput entries _) fun w => hput _ _).weaken
      (fun _ h => h) (fun _ _ h => h) fun f hf => ?_
    rcases hf with hf | ⟨w, hf⟩
    · exact ⟨x, _, hf⟩
    · exact ⟨x, _, hf⟩
  induction children generalizing entries with
  | nil =>
    refine attempts_ok fun f hf => ?_
    simpa [candidateEntries] using hf
  | cons child children ih =>
    unfold stageChildren
    refine (hwrite _ _ _).andThen fun _ => (hwrite _ _ _).andThen fun _ => ?_
    refine (ih _).weaken (fun _ h => h) (fun _ f hf => ?_) fun _ h => h
    simpa [candidateEntries] using hf

/-- **The stages hold the candidate**, or the prior generation is still in place. -/
theorem attempts_stageBundle :
    Attempts crash (pub.Shows (layout pub.main pub.sidecars none none none none)) 0
      (stageBundle (pub.place .mainStage) (pub.place .sidecarStage) pub.output pub.children)
      (fun _ => pub.Shows
        (layout pub.main pub.sidecars (some pub.candidate) (some pub.bundle) none none))
      pub.InPlace := by
  have hstart : ∀ f, pub.Shows (layout pub.main pub.sidecars none none none none) f →
      pub.InPlace f := fun f hf => ⟨none, none, hf⟩
  unfold stageBundle
  refine (attempts_attempt.free.weaken (fun _ h => h) (fun _ _ h => h) hstart).andThen fun _ => ?_
  have hdir : Attempts crash (pub.Shows (layout pub.main pub.sidecars none none none none)) 1
      (createDir (pub.place .sidecarStage))
      (fun _ => pub.Shows (layout pub.main pub.sidecars none (some (.dir [])) none none))
      (pub.Shows (layout pub.main pub.sidecars none none none none)) := by
    refine attempts_createDir (fun f hf => hf.places .sidecarStage) fun f hf => ?_
    have hmade := hf.update .sidecarStage (some (.dir []))
    rw [update_layout_sidecarStage] at hmade
    exact ⟨hcrash _ ⟨_, _, hmade⟩, hmade⟩
  refine (hdir.free.weaken (fun _ h => h) (fun _ _ h => h) hstart).andThen fun _ => ?_
  have hput : ∀ node node' f,
      pub.Shows (layout pub.main pub.sidecars node (some (.dir [])) none none) f →
        crash (Function.update f (pub.place .mainStage) node') ∧
          pub.Shows (layout pub.main pub.sidecars node' (some (.dir [])) none none)
            (Function.update f (pub.place .mainStage) node') := by
    intro node node' f hf
    have hshows := hf.update .mainStage node'
    rw [update_layout_mainStage] at hshows
    exact ⟨hcrash _ ⟨_, _, hshows⟩, hshows⟩
  have hmain : Attempts crash _ 1 (writeNew (pub.place .mainStage) pub.output) _ _ :=
    attempts_writeNew (T := fun w => pub.Shows
      (layout pub.main pub.sidecars (some (.file w)) (some (.dir [])) none none))
      (fun f hf => hf.places .mainStage) (hput none _) fun w => hput _ _
  refine (hmain.free.weaken (fun _ h => h) (fun _ _ h => h) fun f hf => ?_).andThen fun _ => ?_
  · rcases hf with hf | ⟨w, hf⟩
    · exact ⟨_, _, hf⟩
    · exact ⟨_, _, hf⟩
  · exact attempts_stageChildren hcrash pub.children (some pub.candidate) []

end Staging

/-- Only a regular file is replaced. -/
def MainReplaceable : Option Node → Prop
  | none => True
  | some (.file _) => True
  | some _ => False

/-- Nothing and a regular file can be replaced. -/
theorem mainReplaceable_of_type {node : Option Node}
    (h : node.map Node.type = none ∨ node.map Node.type = some .file) : MainReplaceable node := by
  cases node with
  | none => trivial
  | some node =>
    cases node with
    | file text => trivial
    | dir entries => simp [Node.type] at h
    | symlink => simp [Node.type] at h
    | other => simp [Node.type] at h

/-- The destinations are of the right types, and what is in them may be replaced. -/
theorem attempts_preflight (family path subDir : String) (expectedNames : List String) :
    Attempts crash S 0 (preflight family path subDir expectedNames)
      (fun types f => S f ∧ types = ((f path).map Node.type, (f subDir).map Node.type) ∧
        MainReplaceable (f path) ∧ SidecarsOwned expectedNames (f subDir)) S := by
  unfold preflight
  refine (attempts_sidecarPathType? path).free.andThen fun mainType => ?_
  have hrest : mainType = none ∨ mainType = some .file →
      Attempts crash (fun f => S f ∧ mainType = (f path).map Node.type) 0
      (andThen (ensureExpectedSidecarDirectory family subDir expectedNames) fun _ =>
        andThen (sidecarPathType? subDir) fun sidecarType => pure (.ok (mainType, sidecarType)))
      (fun types f => S f ∧ types = ((f path).map Node.type, (f subDir).map Node.type) ∧
        MainReplaceable (f path) ∧ SidecarsOwned expectedNames (f subDir)) S := by
    intro hmain
    refine ((attempts_ensureExpectedSidecarDirectory family subDir expectedNames).weaken
      (fun _ h => h) (fun _ _ h => h) fun _ h => h.1).andThen fun _ => ?_
    refine ((attempts_sidecarPathType? subDir).free.weaken (F := S) (fun _ h => h)
      (fun _ _ h => h) fun _ h => h.1.1).andThen fun sidecarType => ?_
    refine attempts_ok fun f h => ⟨h.1.1.1, by rw [h.1.1.2, h.2], ?_, h.1.2⟩
    rw [h.1.1.2] at hmain
    exact mainReplaceable_of_type hmain
  split
  · exact hrest (Or.inl rfl)
  · exact hrest (Or.inr rfl)
  · exact attempts_error fun _ h => h.1

/-- The second inspection changes nothing. -/
theorem attempts_recheck (family path subDir : String) (expectedNames : List String)
    (mainType sidecarType : Option FileType) :
    Attempts crash S 0 (recheck family path subDir expectedNames mainType sidecarType)
      (fun _ => S) S := by
  have hprobe : ∀ p, Attempts crash S 0 (sidecarPathType? p) (fun _ => S) S := fun p =>
    (attempts_sidecarPathType? p).free.weaken (fun _ h => h) (fun _ _ h => h.1) fun _ h => h
  have howned : Attempts crash S 0 (ensureExpectedSidecarDirectory family subDir expectedNames)
      (fun _ => S) S :=
    (attempts_ensureExpectedSidecarDirectory family subDir expectedNames).weaken (fun _ h => h)
      (fun _ _ h => h.1) fun _ h => h
  unfold recheck
  refine howned.bind_attempts (fun _ => ?_) fun e => ⟨_, rfl⟩
  refine (hprobe path).andThen fun mainType' => (hprobe subDir).andThen fun sidecarType' => ?_
  split
  · exact attempts_error fun _ h => h
  · exact attempts_ok fun _ h => h

/-- Giving up before the swap leaves the prior generation in place. -/
theorem triple_abandonStage (hcrash : ∀ f, pub.InPlace f → crash f)
    (message : String) :
    Triple crash (Within pub.InPlace n)
      (abandonStage (pub.place .mainStage) (pub.place .sidecarStage) message)
      fun r m => (∃ e, r = .error e) ∧ Within pub.InPlace n m := by
  unfold abandonStage
  refine (triple_removeOwnedPathsChecked fun p hp f x hf => ?_).bind fun errors =>
    Triple.pure fun _ hm => ⟨⟨_, rfl⟩, hm⟩
  obtain ⟨hmain, hsidecar⟩ := hf.update_stages x
  rcases List.mem_pair.mp hp with rfl | rfl
  · exact ⟨hcrash _ hmain, hmain⟩
  · exact ⟨hcrash _ hsidecar, hsidecar⟩

end AgentConvert.Cli
