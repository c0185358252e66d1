import AgentConvert.Cli.Places

/-!
# What a reader sees of a publication

Whatever operations fail, and wherever a crash stops the run, the six places of a publication are
in one of a few states (`Publication.Passed`), and in each of them a visible main file stands
beside the sidecars of its own generation.

## Main statements

* `writeSidecarBundle_crash` — what a crash can leave
* `writeSidecarBundle_result` — what a success and a failure mean
* `writeSidecarBundle_restores` — a single failure is undone completely
* `writeSidecarBundle_rerun` — the next run refuses what a crash left half done
-/

namespace AgentConvert.Cli

open FilePrograms

namespace Publication

variable (pub : Publication)

/-! ### Phases -/

/-- What stands at the places when the swap has reached a phase. -/
def phaseLayout : SidecarCommitPhase → Slot → Option Node
  | .staged => layout pub.main pub.sidecars (some pub.candidate) (some pub.bundle) none none
  | .mainHidden => layout none pub.sidecars (some pub.candidate) (some pub.bundle) pub.main none
  | .originalsQuarantined =>
    layout none none (some pub.candidate) (some pub.bundle) pub.main pub.sidecars
  | .candidateSidecarsVisible =>
    layout none (some pub.bundle) (some pub.candidate) none pub.main pub.sidecars
  | .committed => layout (some pub.candidate) (some pub.bundle) none none pub.main pub.sidecars

/-- The files are at a phase of the swap. -/
def AtPhase (phase : SidecarCommitPhase) : Files → Prop := pub.Shows (pub.phaseLayout phase)

/-- The candidate is in place, and only the backups may differ. -/
def Published (f : Files) : Prop :=
  ∃ x y, pub.Shows (layout (some pub.candidate) (some pub.bundle) none none x y) f

/-- No main file is visible, and the prior generation is where the swap put it. -/
def Hidden (f : Files) : Prop :=
  ∃ phase, phase ≠ .staged ∧ phase ≠ .committed ∧ pub.AtPhase phase f

/-- Only what the program would write itself is replaced. -/
def Replaceable : Prop :=
  MainReplaceable pub.main ∧ SidecarsOwned (sidecarOutputNames pub.children) pub.sidecars

/-- What a run may pass. -/
def Passed (f : Files) : Prop := pub.InPlace f ∨ pub.Hidden f ∨ pub.Published f

variable {pub}

/-- A state of a phase is one that the run passes through. -/
theorem AtPhase.passed {phase : SidecarCommitPhase} {f : Files} (h : pub.AtPhase phase f) :
    pub.Passed f := by
  by_cases hstaged : phase = .staged
  · subst hstaged
    exact Or.inl ⟨_, _, h⟩
  · by_cases hcommitted : phase = .committed
    · subst hcommitted
      exact Or.inr (Or.inr ⟨_, _, h⟩)
    · exact Or.inr (Or.inl ⟨phase, hstaged, hcommitted, h⟩)

/-- Without a prior main file there is nothing to hide. -/
theorem phaseLayout_mainHidden_of_none (h : pub.main = none) :
    pub.phaseLayout .mainHidden = pub.phaseLayout .staged := by
  unfold phaseLayout
  rw [h]

/-- Without prior sidecars there is nothing to set aside. -/
theorem phaseLayout_originalsQuarantined_of_none (h : pub.sidecars = none) :
    pub.phaseLayout .originalsQuarantined = pub.phaseLayout .mainHidden := by
  unfold phaseLayout
  rw [h]

/-- How a swap ends: at `committed`, or with an error at the phase it names.  The failure uses up
`cost` of the faults. -/
def Swapped (pub : Publication) (cost n : Nat) :
    SidecarCommitPhase × Except String Unit → Machine → Prop
  | (_, .ok _), m => Within (pub.AtPhase .committed) n m
  | (phase, .error _), m =>
    phase ≠ .committed ∧ ∃ k, n = k + cost ∧ Within (pub.AtPhase phase) k m

/-- What the steps back have reached: the phase, without errors, or nothing is visible and there
are errors. -/
def RolledTo (pub : Publication) (cost : Nat) (phase : SidecarCommitPhase) (n : Nat)
    (r : List String × Bool) (m : Machine) : Prop :=
  (r = ([], true) ∧ Within (pub.AtPhase phase) n m) ∨
    (r.1 ≠ [] ∧ r.2 = false ∧ ∃ k, n = k + cost ∧ Within pub.Hidden k m)

/-- How the way back ends: the prior generation is in place, or there are errors and nothing is
visible. -/
def Restored (pub : Publication) (cost n : Nat) (errors : List String) (m : Machine) : Prop :=
  (errors = [] ∧ Within pub.InPlace n m) ∨
    (errors ≠ [] ∧ ∃ k, n = k + cost ∧ Within pub.Hidden k m)

/-- In the phases that lie out as the first the prior outputs are in place. -/
theorem AtPhase.inPlace {phase : SidecarCommitPhase} {f : Files}
    (hphase : pub.phaseLayout phase = pub.phaseLayout .staged) (h : pub.AtPhase phase f) :
    pub.InPlace f := by
  unfold AtPhase at h
  rw [hphase] at h
  exact ⟨_, _, h⟩

/-- After a failed step back the others are not made. -/
theorem RolledTo.of_failed {cost n : Nat} {phase target : SidecarCommitPhase}
    {r : List String × Bool} {m : Machine} (h : pub.RolledTo cost phase n r m) (hr : r.2 = false) :
    pub.RolledTo cost target n r m := by
  rcases h with ⟨rfl, _⟩ | hfailed
  · cases hr
  · exact Or.inr hfailed

end Publication

section Run

variable {pub : Publication} {n cost : Nat} {fault : SidecarFaultInjection}

/-! ### The moves -/

/-- A move from one phase to another, in either direction. -/
theorem attempts_moveTo {phase next : SidecarCommitPhase} {source destination : Slot} {node : Node}
    (operation : String) (hsource : pub.phaseLayout phase source = some node)
    (hdestination : pub.phaseLayout phase destination = none)
    (hnext : Function.update (Function.update (pub.phaseLayout phase) source none) destination
      (some node) = pub.phaseLayout next) :
    Attempts pub.Passed (pub.AtPhase phase) 1
      (renameIntoAbsent (pub.place source) (pub.place destination) operation)
      (fun _ => pub.AtPhase next) (pub.AtPhase phase) := by
  have hpassed : ∀ f, pub.Shows (Function.update (Function.update (pub.phaseLayout phase) source
      none) destination (some node)) f → pub.Passed f := by
    intro f hf
    rw [hnext] at hf
    exact Publication.AtPhase.passed hf
  have hmove := attempts_move operation hsource hdestination hpassed
  rw [hnext] at hmove
  exact hmove

/-- **Hiding the prior main file.** -/
theorem attempts_hideMain :
    Attempts pub.Passed (pub.AtPhase .staged) 1
      (if pub.main.isSome then renameIntoAbsent (pub.place .main) (pub.place .mainBackup)
        "cannot hide prior main marker" else pure (.ok ()))
      (fun _ => pub.AtPhase .mainHidden) (pub.AtPhase .staged) := by
  cases hmain : pub.main with
  | none =>
    refine attempts_ok fun f hf => ?_
    rw [Publication.AtPhase, Publication.phaseLayout_mainHidden_of_none hmain]
    exact hf
  | some node =>
    refine attempts_moveTo _ hmain rfl ?_
    simp [Publication.phaseLayout, hmain]

/-- **Setting the prior sidecars aside.** -/
theorem attempts_quarantineOriginals :
    Attempts pub.Passed (pub.AtPhase .mainHidden) 1
      (if pub.sidecars.isSome then renameIntoAbsent (pub.place .sidecars)
        (pub.place .sidecarBackup) "cannot quarantine prior sidecars" else pure (.ok ()))
      (fun _ => pub.AtPhase .originalsQuarantined) (pub.AtPhase .mainHidden) := by
  cases hsidecars : pub.sidecars with
  | none =>
    refine attempts_ok fun f hf => ?_
    rw [Publication.AtPhase, Publication.phaseLayout_originalsQuarantined_of_none hsidecars]
    exact hf
  | some node =>
    refine attempts_moveTo _ hsidecars rfl ?_
    simp [Publication.phaseLayout, hsidecars]

/-- **Making the candidate sidecars visible.** -/
theorem attempts_installSidecars :
    Attempts pub.Passed (pub.AtPhase .originalsQuarantined) 1
      (renameIntoAbsent (pub.place .sidecarStage) (pub.place .sidecars)
        "cannot install candidate sidecars")
      (fun _ => pub.AtPhase .candidateSidecarsVisible) (pub.AtPhase .originalsQuarantined) :=
  attempts_moveTo _ rfl rfl (by simp [Publication.phaseLayout])

/-- **Publishing the candidate main file.** -/
theorem attempts_publishMain :
    Attempts pub.Passed (pub.AtPhase .candidateSidecarsVisible) 1
      (renameIntoAbsent (pub.place .mainStage) (pub.place .main)
        "cannot publish candidate main marker")
      (fun _ => pub.AtPhase .committed) (pub.AtPhase .candidateSidecarsVisible) :=
  attempts_moveTo _ rfl rfl (by simp [Publication.phaseLayout])

/-! ### The swap -/

/-- **One step of the swap goes to the next phase, or ends the swap at a phase it has reached.** -/
theorem triple_commitStep {phase next : SidecarCommitPhase} {p : Prog (Except String Unit)}
    {rest : Prog (SidecarCommitPhase × Except String Unit)} (hcost : cost ≤ 1)
    (hfault : cost = 1 → fault.failCommitAt = none)
    (hphase : phase ≠ .committed) (hnext : next ≠ .committed)
    (hp : Attempts pub.Passed (pub.AtPhase phase) 1 p (fun _ => pub.AtPhase next)
      (pub.AtPhase phase))
    (hrest : ∀ n, Triple pub.Passed (Within (pub.AtPhase next) n) rest (pub.Swapped cost n)) :
    Triple pub.Passed (Within (pub.AtPhase phase) n) (commitStep fault phase next p rest)
      (pub.Swapped cost n) := by
  unfold commitStep
  refine hp.bind (Q := pub.Swapped cost) (fun _ n => ?_) (fun e n => ?_) n
  · dsimp only
    split
    next error herror =>
      -- an injected failure uses up no fault, so that it is counted only when `cost` is zero
      refine Triple.pure fun m hm => ⟨hnext, n, ?_, hm⟩
      have hzero : cost ≠ 1 := by
        intro hone
        simp [sidecarCommitFault?, hfault hone] at herror
      omega
    · exact hrest n
  · exact Triple.pure fun m hm =>
      ⟨hphase, n + 1 - cost, by omega, hm.mono (fun _ h => h) (by omega)⟩

/-- **The swap ends at `committed`, or where its error says.** -/
theorem triple_commitBundle (hcost : cost ≤ 1) (hfault : cost = 1 → fault.failCommitAt = none) :
    Triple pub.Passed (Within (pub.AtPhase .staged) n)
      (commitBundle (pub.place .main) (pub.place .sidecars) (pub.place .mainStage)
        (pub.place .sidecarStage) (pub.place .mainBackup) (pub.place .sidecarBackup)
        pub.main.isSome pub.sidecars.isSome fault)
      (pub.Swapped cost n) := by
  unfold commitBundle
  refine triple_commitStep hcost hfault (by decide) (by decide) attempts_hideMain fun n => ?_
  refine triple_commitStep hcost hfault (by decide) (by decide) attempts_quarantineOriginals
    fun n => ?_
  refine triple_commitStep hcost hfault (by decide) (by decide) attempts_installSidecars
    fun n => ?_
  refine attempts_publishMain.bind (Q := pub.Swapped cost) (fun _ n => ?_) (fun e n => ?_) n
  · exact Triple.pure fun m hm => hm
  · exact Triple.pure fun m hm =>
      ⟨by decide, n + 1 - cost, by omega, hm.mono (fun _ h => h) (by omega)⟩

/-! ### The way back -/

/-- **One step back is made, or the main file stays hidden.** -/
theorem triple_rollbackStep {phase target : SidecarCommitPhase} {point : SidecarRollbackPoint}
    {restore : Prog (Except String Unit)} (hcost : cost ≤ 1)
    (hfault : cost = 1 → fault.failRollbackAt = none)
    (hstaged : phase ≠ .staged) (hcommitted : phase ≠ .committed)
    (hrestore : Attempts pub.Passed (pub.AtPhase phase) 1 restore (fun _ => pub.AtPhase target)
      (pub.AtPhase phase)) :
    Triple pub.Passed (Within (pub.AtPhase phase) n) (rollbackStep fault point restore [])
      (pub.RolledTo cost target n) := by
  have hhidden : ∀ f, pub.AtPhase phase f → pub.Hidden f :=
    fun f hf => ⟨phase, hstaged, hcommitted, hf⟩
  unfold rollbackStep
  split
  next error herror =>
    refine Triple.pure fun m hm => Or.inr ⟨by simp, rfl, n, ?_, hm.mono hhidden (Nat.le_refl n)⟩
    have hzero : cost ≠ 1 := by
      intro hone
      simp [sidecarRollbackFault?, hfault hone] at herror
    omega
  · refine hrestore.bind (Q := pub.RolledTo cost target) (fun _ n => ?_) (fun e n => ?_) n
    · exact Triple.pure fun m hm => Or.inl ⟨rfl, hm⟩
    · exact Triple.pure fun m hm =>
        Or.inr ⟨by simp, rfl, n + 1 - cost, by omega, hm.mono hhidden (by omega)⟩

/-- What was reached so far is known as long as no step has failed. -/
theorem Publication.RolledTo.of_ready {phase : SidecarCommitPhase} {errors : List String}
    {m : Machine} (h : pub.RolledTo cost phase n (errors, true) m) :
    errors = [] ∧ Within (pub.AtPhase phase) n m := by
  rcases h with ⟨hr, hwithin⟩ | ⟨_, hr, _⟩
  · exact ⟨congrArg Prod.fst hr, hwithin⟩
  · cases hr

/-- A step back after steps back that were made. -/
theorem triple_rollbackStep_of_ready {phase target : SidecarCommitPhase}
    {point : SidecarRollbackPoint} {restore : Prog (Except String Unit)} {errors : List String}
    (hcost : cost ≤ 1) (hfault : cost = 1 → fault.failRollbackAt = none)
    (hstaged : phase ≠ .staged) (hcommitted : phase ≠ .committed)
    (hrestore : Attempts pub.Passed (pub.AtPhase phase) 1 restore (fun _ => pub.AtPhase target)
      (pub.AtPhase phase)) :
    Triple pub.Passed (pub.RolledTo cost phase n (errors, true))
      (rollbackStep fault point restore errors) (pub.RolledTo cost target n) := by
  refine Triple.assume (fun m hm => hm.of_ready.1) fun herrors => ?_
  subst herrors
  exact (triple_rollbackStep hcost hfault hstaged hcommitted hrestore).weaken
    (fun m hm => hm.of_ready.2) fun _ _ h => h

/-- Where two phases look the same, no step is needed between them. -/
theorem Publication.RolledTo.of_same {phase target : SidecarCommitPhase} {r : List String × Bool}
    {m : Machine} (hsame : pub.phaseLayout phase = pub.phaseLayout target)
    (h : pub.RolledTo cost phase n r m) : pub.RolledTo cost target n r m := by
  rcases h with ⟨hr, hwithin⟩ | hfailed
  · refine Or.inl ⟨hr, ?_⟩
    rw [Publication.AtPhase, ← hsame]
    exact hwithin
  · exact Or.inr hfailed

/-- The phase that is left when the candidate sidecars are out of view. -/
def SidecarCommitPhase.withoutCandidate : SidecarCommitPhase → SidecarCommitPhase
  | .candidateSidecarsVisible => .originalsQuarantined
  | phase => phase

/-- The phase that is left when the prior sidecars are back as well. -/
def SidecarCommitPhase.withSidecars : SidecarCommitPhase → SidecarCommitPhase
  | .staged => .staged
  | _ => .mainHidden

section Restoring

variable (hcost : cost ≤ 1) (hfault : cost = 1 → fault.failRollbackAt = none)

include hcost hfault

/-- **The candidate sidecars go out of view.** -/
theorem triple_quarantineCandidate {phase : SidecarCommitPhase} :
    Triple pub.Passed (Within (pub.AtPhase phase) n)
      (quarantineCandidate (pub.place .sidecars) (pub.place .sidecarStage) phase fault)
      (pub.RolledTo cost phase.withoutCandidate n) := by
  unfold quarantineCandidate
  dsimp only
  split
  next hphase =>
    have hphase : phase = .candidateSidecarsVisible := by simpa using hphase
    subst hphase
    refine triple_rollbackStep hcost hfault (by decide) (by decide) ?_
    exact attempts_moveTo _ rfl rfl (by
      simp [Publication.phaseLayout, SidecarCommitPhase.withoutCandidate])
  next hphase =>
    have hsame : phase.withoutCandidate = phase := by
      cases phase <;> first | rfl | exact absurd rfl hphase
    rw [hsame]
    exact Triple.pure fun m hm => Or.inl ⟨rfl, hm⟩

/-- **The prior sidecars come back** once the candidate is out of view. -/
theorem triple_restoreSidecars {phase : SidecarCommitPhase} (hcommitted : phase ≠ .committed)
    (r : List String × Bool) :
    Triple pub.Passed (pub.RolledTo cost phase.withoutCandidate n r)
      (restoreSidecars (pub.place .sidecars) (pub.place .sidecarBackup) pub.sidecars.isSome phase
        fault r)
      (pub.RolledTo cost phase.withSidecars n) := by
  unfold restoreSidecars
  obtain ⟨errors, ready⟩ := r
  by_cases hquarantined : phase.withoutCandidate = .originalsQuarantined
  · have hphase : (phase == .originalsQuarantined || phase == .candidateSidecarsVisible) = true ∧
        phase.withSidecars = .mainHidden := by
      cases phase <;> first | exact ⟨rfl, rfl⟩ | cases hquarantined
    dsimp only
    rw [hphase.1, hphase.2, hquarantined]
    cases ready with
    | false => exact Triple.pure fun m hm => hm.of_failed rfl
    | true =>
      cases hsidecars : pub.sidecars with
      | none =>
        exact Triple.pure fun m hm =>
          hm.of_same (Publication.phaseLayout_originalsQuarantined_of_none hsidecars)
      | some node =>
        refine triple_rollbackStep_of_ready hcost hfault (by decide) (by decide) ?_
        refine attempts_moveTo _ hsidecars rfl ?_
        simp [Publication.phaseLayout, hsidecars]
  · have hphase : (phase == .originalsQuarantined || phase == .candidateSidecarsVisible) = false ∧
        phase.withSidecars = phase.withoutCandidate := by
      cases phase <;> first | exact ⟨rfl, rfl⟩ | exact absurd rfl hquarantined |
        exact absurd rfl hcommitted
    dsimp only
    rw [hphase.1, hphase.2, Bool.and_false, Bool.false_and]
    exact Triple.pure fun m hm => hm

/-- **The prior main file comes back last**, and only beside its own sidecars. -/
theorem triple_restoreMain {phase : SidecarCommitPhase} (r : List String × Bool) :
    Triple pub.Passed (pub.RolledTo cost phase.withSidecars n r)
      (restoreMain (pub.place .main) (pub.place .mainBackup) pub.main.isSome phase fault r)
      (pub.Restored cost n) := by
  have hdone : ∀ errors ready m, phase.withSidecars = .staged ∨ pub.main = none →
      pub.RolledTo cost phase.withSidecars n (errors, ready) m → pub.Restored cost n errors m := by
    intro errors ready m hstaged hm
    rcases hm with ⟨hr, hwithin⟩ | ⟨herrors, _, hwithin⟩
    · refine Or.inl ⟨congrArg Prod.fst hr, hwithin.mono (fun f hf => ?_) (Nat.le_refl n)⟩
      refine Publication.AtPhase.inPlace ?_ hf
      rcases hstaged with hstaged | hnone
      · rw [hstaged]
      · cases phase with
        | staged => rfl
        | _ => exact Publication.phaseLayout_mainHidden_of_none hnone
    · exact Or.inr ⟨herrors, hwithin⟩
  obtain ⟨errors, ready⟩ := r
  unfold restoreMain
  dsimp only
  by_cases hneeded : phase ≠ .staged ∧ pub.main.isSome
  · obtain ⟨node, hnode⟩ := Option.isSome_iff_exists.mp hneeded.2
    have htarget : phase.withSidecars = .mainHidden := by
      cases phase <;> first | rfl | exact absurd rfl hneeded.1
    rw [if_pos (by simpa using hneeded), htarget]
    cases ready with
    | false =>
      refine Triple.pure fun m hm => Or.inr ⟨by simp, ?_⟩
      rcases hm with ⟨hr, _⟩ | ⟨_, _, hwithin⟩
      · cases hr
      · exact hwithin
    | true =>
      have hmove : Attempts pub.Passed (pub.AtPhase .mainHidden) 1
          (renameIntoAbsent (pub.place .mainBackup) (pub.place .main)
            "cannot restore prior main marker") (fun _ => pub.AtPhase .staged)
          (pub.AtPhase .mainHidden) :=
        attempts_moveTo _ hnode rfl (by simp [Publication.phaseLayout, hnode])
      refine (triple_rollbackStep_of_ready hcost hfault (by decide) (by decide) hmove).bind
        fun restored => Triple.pure fun m hm => ?_
      rcases hm with ⟨hr, hwithin⟩ | ⟨herrors, _, hwithin⟩
      · exact Or.inl ⟨congrArg Prod.fst hr, hwithin.mono (fun _ hf => ⟨_, _, hf⟩) (Nat.le_refl n)⟩
      · exact Or.inr ⟨herrors, hwithin⟩
  · rw [if_neg (by simpa using hneeded)]
    refine Triple.pure fun m hm => hdone errors ready m ?_ hm
    by_cases hstaged : phase = .staged
    · exact Or.inl (by rw [hstaged]; rfl)
    · exact Or.inr (Option.not_isSome_iff_eq_none.mp fun hsome => hneeded ⟨hstaged, hsome⟩)

end Restoring

/-- Removing the stages leaves the prior generation in place. -/
theorem triple_removeStages :
    Triple pub.Passed (Within pub.InPlace n)
      (removeOwnedPathsChecked [pub.place .mainStage, pub.place .sidecarStage])
      fun _ => Within pub.InPlace n := by
  refine triple_removeOwnedPathsChecked fun p hp f x hf => ?_
  obtain ⟨hmain, hsidecar⟩ := hf.update_stages x
  rcases List.mem_pair.mp hp with rfl | rfl
  · exact ⟨Or.inl hmain, hmain⟩
  · exact ⟨Or.inl hsidecar, hsidecar⟩

/-- **The way back is complete, or its report says that it is not.** -/
theorem triple_rollbackSidecarBundle (hcost : cost ≤ 1)
    (hfault : cost = 1 → fault.failRollbackAt = none) {phase : SidecarCommitPhase}
    (hcommitted : phase ≠ .committed) :
    Triple pub.Passed (Within (pub.AtPhase phase) n)
      (rollbackSidecarBundle (pub.place .main) (pub.place .sidecars) (pub.place .mainStage)
        (pub.place .sidecarStage) (pub.place .mainBackup) (pub.place .sidecarBackup)
        pub.main.isSome pub.sidecars.isSome phase fault)
      fun report m => (report.priorOutputsSafe = true ∧ Within pub.InPlace n m) ∨
        (report.priorOutputsSafe = false ∧ ∃ k, n = k + cost ∧ Within pub.Hidden k m) := by
  unfold rollbackSidecarBundle
  refine (triple_quarantineCandidate hcost hfault).bind fun r => ?_
  refine (triple_restoreSidecars hcost hfault hcommitted r).bind fun r' => ?_
  refine (triple_restoreMain hcost hfault r').bind fun errors => ?_
  cases errors with
  | cons error errors =>
    have hcleanup : Triple pub.Passed (pub.Restored cost n (error :: errors))
        (cleanupStages (pub.place .mainStage) (pub.place .sidecarStage) fault (error :: errors))
        fun _ => pub.Restored cost n (error :: errors) := Triple.pure fun _ hm => hm
    refine hcleanup.bind fun cleanupErrors => Triple.pure fun m hm => Or.inr ⟨rfl, ?_⟩
    rcases hm with ⟨herrors, _⟩ | ⟨_, hwithin⟩
    · cases herrors
    · exact hwithin
  | nil =>
    have hplace : ∀ m, pub.Restored cost n [] m → Within pub.InPlace n m := by
      rintro m (⟨_, hwithin⟩ | ⟨herrors, _⟩)
      · exact hwithin
      · exact absurd rfl herrors
    have hcleanup : Triple pub.Passed (pub.Restored cost n [])
        (cleanupStages (pub.place .mainStage) (pub.place .sidecarStage) fault [])
        fun _ => Within pub.InPlace n := by
      unfold cleanupStages
      rw [if_pos (by rfl)]
      split
      · exact Triple.pure hplace
      · exact triple_removeStages.weaken hplace fun _ _ h => h
    exact hcleanup.bind fun cleanupErrors => Triple.pure fun m hm => Or.inl ⟨rfl, hm⟩

/-! ### The end of a run -/

/-- Removing the backups leaves the candidate in place. -/
theorem triple_cleanupBackups :
    Triple pub.Passed (Within pub.Published n)
      (cleanupBackups (pub.place .mainBackup) (pub.place .sidecarBackup) fault)
      fun _ => Within pub.Published n := by
  unfold cleanupBackups
  split
  · exact Triple.pure fun _ hm => hm
  · refine triple_removeOwnedPathsChecked fun p hp f x hf => ?_
    obtain ⟨y, z, hshows⟩ := hf
    have hpublished : pub.Published (Function.update f p x) := by
      rcases List.mem_pair.mp hp with rfl | rfl
      · exact ⟨x, z, by simpa using hshows.update .mainBackup x⟩
      · exact ⟨y, x, by simpa using hshows.update .sidecarBackup x⟩
    exact ⟨Or.inr (Or.inr hpublished), hpublished⟩

/-- How a run ends: with the candidate in place, or with an error and the prior generation in
place, or with an error and no main file.  The last takes two failures. -/
def Publication.Finished (pub : Publication) (cost n : Nat) :
    Except String SidecarPublishSuccess → Machine → Prop
  | .ok _, m => pub.Published m.files ∧ pub.Replaceable
  | .error _, m => pub.InPlace m.files ∨ (pub.Hidden m.files ∧ 2 * cost ≤ n)

/-- **After the swap the backups go, or the steps are undone.** -/
theorem triple_finishBundle (hcost : cost ≤ 1) (hfault : cost = 1 → fault.failRollbackAt = none)
    (hprior : pub.Replaceable) (family : String) (reserved : List String)
    (outcome : SidecarCommitPhase × Except String Unit) :
    Triple pub.Passed (pub.Swapped cost n outcome)
      (finishBundle family (pub.place .main) (pub.place .sidecars) (pub.place .mainStage)
        (pub.place .sidecarStage) (pub.place .mainBackup) (pub.place .sidecarBackup) reserved
        pub.main.isSome pub.sidecars.isSome fault outcome)
      (pub.Finished cost n) := by
  obtain ⟨phase, result⟩ := outcome
  cases result with
  | ok _ =>
    have hcleanup : Triple pub.Passed (pub.Swapped cost n (phase, .ok ()))
        (cleanupBackups (pub.place .mainBackup) (pub.place .sidecarBackup) fault)
        fun _ => Within pub.Published n :=
      triple_cleanupBackups.weaken (fun m hm => hm.mono (fun _ hf => ⟨_, _, hf⟩) (Nat.le_refl n))
        fun _ _ h => h
    exact hcleanup.bind fun cleanupErrors => Triple.pure fun m hm => ⟨hm.1, hprior⟩
  | error commitError =>
    refine Triple.assume (fun m hm => hm.1) fun hcommitted => ?_
    rintro m ⟨_, k, rfl, hwithin⟩
    refine (triple_rollbackSidecarBundle hcost hfault hcommitted).bind (fun report => ?_) m hwithin
    dsimp only
    split
    next hsafe =>
      refine Triple.pure fun m hm => Or.inl ?_
      rcases hm with ⟨_, hplace⟩ | ⟨hreport, _⟩
      · exact hplace.1
      · rw [hsafe] at hreport
        cases hreport
    next hunsafe =>
      refine Triple.pure fun m hm => ?_
      rcases hm with ⟨hreport, _⟩ | ⟨_, j, rfl, hhidden⟩
      · exact absurd hreport hunsafe
      · exact Or.inr ⟨hhidden.1, by omega⟩

/-- **A whole run**, from files without traces of an earlier one. -/
theorem triple_writeSidecarBundle (hcost : cost ≤ 1)
    (hfault : cost = 1 → fault.failCommitAt = none ∧ fault.failRollbackAt = none)
    (family : String) :
    Triple pub.Passed (Within (pub.Shows (layout pub.main pub.sidecars none none none none)) n)
      (writeSidecarBundle family pub.path pub.output pub.subDir pub.children fault)
      (pub.Finished cost n) := by
  have hstart : ∀ f, pub.Shows (layout pub.main pub.sidecars none none none none) f →
      pub.InPlace f := fun f hf => ⟨_, _, hf⟩
  have habandon : ∀ n message, Triple pub.Passed (Within pub.InPlace n)
      (abandonStage (pub.place .mainStage) (pub.place .sidecarStage) message)
      (pub.Finished cost n) := by
    intro n message
    refine (triple_abandonStage (fun f hf => Or.inl hf) message).weaken (fun m hm => hm)
      fun r m hr => ?_
    obtain ⟨⟨e, rfl⟩, hplace⟩ := hr
    exact Or.inl hplace.1
  unfold writeSidecarBundle
  dsimp only
  refine (attempts_staleReservedPaths _).free.andThen_triple (Q := pub.Finished cost)
    (fun stale n => ?_) (fun e n m hm => Or.inl (hstart _ hm.1)) n
  split
  · exact Triple.pure fun m hm => Or.inl (hstart _ hm.1.1)
  refine Triple.forget ?_
  refine (attempts_preflight family pub.path pub.subDir _).andThen_triple (Q := pub.Finished cost)
    (fun types n => ?_) (fun e n m hm => Or.inl (hstart _ hm.1)) n
  -- what the preflight found is what was there before the run
  refine Triple.assume (C := types = (pub.main.map Node.type, pub.sidecars.map Node.type) ∧
    pub.Replaceable) (fun m hm => ?_) fun hfound => ?_
  · obtain ⟨hshows, htypes, hmain, hsidecars⟩ := hm.1
    have hprior : m.files pub.path = pub.main ∧ m.files pub.subDir = pub.sidecars :=
      ⟨hshows.places .main, hshows.places .sidecars⟩
    rw [hprior.1] at htypes hmain
    rw [hprior.2] at htypes hsidecars
    exact ⟨htypes, hmain, hsidecars⟩
  obtain ⟨rfl, hprior⟩ := hfound
  refine Triple.forget ?_
  have hstage : Attempts pub.Passed _ 0 _ _ pub.InPlace :=
    attempts_stageBundle fun f hf => Or.inl hf
  refine hstage.bind (Q := pub.Finished cost) (fun _ n => ?_) (fun e n => habandon n _) n
  refine (attempts_recheck family pub.path pub.subDir _ _ _).bind (Q := pub.Finished cost)
    (fun _ n => ?_) (fun e n => ?_) n
  · dsimp only
    rw [Option.isSome_map, Option.isSome_map]
    exact (triple_commitBundle hcost fun hone => (hfault hone).1).bind fun outcome =>
      triple_finishBundle hcost (fun hone => (hfault hone).2) hprior family _ outcome
  · exact (habandon n e).weaken (fun m hm => hm.mono (fun f hf => ⟨_, _, hf⟩) (Nat.le_refl n))
      fun _ _ h => h

/-- **A run that finds traces of an earlier one changes nothing.** -/
theorem triple_writeSidecarBundle_stale {before : Files} {path subDir : String}
    (hstale : ∃ p ∈ sidecarReservedPaths path subDir, before p ≠ none) (family output : String)
    (children : List SidecarChildOutput) (fault : SidecarFaultInjection) :
    Triple (fun f => f = before) (Within (fun f => f = before) n)
      (writeSidecarBundle family path output subDir children fault)
      fun r m => (∃ e, r = .error e) ∧ m.files = before := by
  unfold writeSidecarBundle
  dsimp only
  refine (attempts_staleReservedPaths _).free.andThen_triple
    (Q := fun _ r m => (∃ e, r = .error e) ∧ m.files = before)
    (fun stale n => ?_) (fun e n m hm => ⟨⟨e, rfl⟩, hm.1⟩) n
  refine Triple.assume (C := stale ≠ []) (fun m hm hempty => ?_) fun htaken => ?_
  · obtain ⟨p, hp, hfound⟩ := hstale
    have hfree := hm.1.2.mp hempty p hp
    rw [hm.1.1] at hfree
    exact hfound hfree
  · rw [if_pos (by simpa using htaken)]
    exact Triple.pure fun m hm => ⟨⟨_, rfl⟩, hm.1.1⟩

end Run

/-! ### What a reader finds -/

namespace Publication

variable (pub : Publication)

/-- The main file and the sidecars are those of before. -/
def Prior (f : Files) : Prop := f pub.path = pub.main ∧ f pub.subDir = pub.sidecars

/-- The main file and the sidecars are the candidate. -/
def New (f : Files) : Prop := f pub.path = some pub.candidate ∧ f pub.subDir = some pub.bundle

/-- What a reader may find at any time. -/
structure Consistent (f : Files) : Prop where
  /-- A visible main file stands beside the sidecars of its own generation. -/
  visible : f pub.path = none ∨ pub.Prior f ∨ pub.New f
  /-- Until the candidate is published, nothing of the prior generation is lost. -/
  kept : pub.New f ∨
    ((f pub.path = pub.main ∨ f (pub.place .mainBackup) = pub.main) ∧
      (f pub.subDir = pub.sidecars ∨ f (pub.place .sidecarBackup) = pub.sidecars))
  /-- No other path is touched. -/
  others : ∀ p, (∀ s, p ≠ pub.place s) → f p = pub.before p

/-- The run of the program on the files. -/
def run (family : String) (fault : SidecarFaultInjection) (faults : List (Option Fault)) :
    Except String SidecarPublishSuccess × Machine :=
  writeSidecarBundle family pub.path pub.output pub.subDir pub.children fault
    (Machine.start pub.before faults)

variable {pub}

/-- With the outputs in place the prior state is kept. -/
theorem InPlace.prior {f : Files} (h : pub.InPlace f) : pub.Prior f := by
  obtain ⟨x, y, hshows⟩ := h
  exact ⟨hshows.places .main, hshows.places .sidecars⟩

/-- After the commit the new outputs are in place. -/
theorem Published.new {f : Files} (h : pub.Published f) : pub.New f := by
  obtain ⟨x, y, hshows⟩ := h
  exact ⟨hshows.places .main, hshows.places .sidecars⟩

/-- A hidden session has no main file. -/
theorem Hidden.main {f : Files} (h : pub.Hidden f) : f pub.path = none := by
  obtain ⟨phase, hstaged, hcommitted, hshows⟩ := h
  have hmain : f pub.path = pub.phaseLayout phase .main := hshows.places .main
  rw [hmain]
  cases phase with
  | staged => exact absurd rfl hstaged
  | committed => exact absurd rfl hcommitted
  | _ => rfl

/-- While no main file is visible, the prior main file is set aside, and the prior sidecars are in
place or set aside. -/
theorem Hidden.kept {f : Files} (h : pub.Hidden f) : f (pub.place .mainBackup) = pub.main ∧
    (f pub.subDir = pub.sidecars ∨ f (pub.place .sidecarBackup) = pub.sidecars) := by
  obtain ⟨phase, hstaged, hcommitted, hshows⟩ := h
  have hbackup := hshows.places .mainBackup
  have hsidecars : f pub.subDir = pub.phaseLayout phase .sidecars := hshows.places .sidecars
  have hsidecarBackup := hshows.places .sidecarBackup
  cases phase with
  | staged => exact absurd rfl hstaged
  | committed => exact absurd rfl hcommitted
  | mainHidden => exact ⟨hbackup, Or.inl hsidecars⟩
  | originalsQuarantined => exact ⟨hbackup, Or.inr hsidecarBackup⟩
  | candidateSidecarsVisible => exact ⟨hbackup, Or.inr hsidecarBackup⟩

/-- **What a run passes is consistent.** -/
theorem Passed.consistent {f : Files} (h : pub.Passed f) : pub.Consistent f := by
  rcases h with hplace | hhidden | hpublished
  · have hprior := hplace.prior
    obtain ⟨_, _, hshows⟩ := hplace
    exact {
      visible := Or.inr (Or.inl hprior)
      kept := Or.inr ⟨Or.inl hprior.1, Or.inl hprior.2⟩
      others := hshows.others }
  · have hmain := hhidden.main
    have hkept := hhidden.kept
    obtain ⟨_, _, _, hshows⟩ := hhidden
    exact {
      visible := Or.inl hmain
      kept := Or.inr ⟨Or.inr hkept.1, hkept.2⟩
      others := hshows.others }
  · have hnew := hpublished.new
    obtain ⟨_, _, hshows⟩ := hpublished
    exact {
      visible := Or.inr (Or.inr hnew)
      kept := Or.inl hnew
      others := hshows.others }

/-- The files of before are consistent. -/
theorem consistent_before : pub.Consistent pub.before where
  visible := Or.inr (Or.inl ⟨rfl, rfl⟩)
  kept := Or.inr ⟨Or.inl rfl, Or.inl rfl⟩
  others := fun _ _ => rfl

/-- A candidate half way in place has left traces. -/
theorem Hidden.traces {f : Files} (h : pub.Hidden f) :
    ∃ p ∈ sidecarReservedPaths pub.path pub.subDir, f p ≠ none := by
  obtain ⟨phase, hstaged, hcommitted, hshows⟩ := h
  have hstage : f (pub.place .mainStage) = pub.phaseLayout phase .mainStage :=
    hshows.places .mainStage
  refine ⟨pub.place .mainStage, List.mem_cons_self, ?_⟩
  rw [hstage]
  cases phase with
  | staged => exact absurd rfl hstaged
  | committed => exact absurd rfl hcommitted
  | _ => exact Option.some_ne_none _

/-- There are no traces of an earlier run. -/
def Fresh (pub : Publication) : Prop :=
  ∀ p ∈ sidecarReservedPaths pub.path pub.subDir, pub.before p = none

/-- The files before a fresh run. -/
theorem Fresh.shows (h : pub.Fresh) :
    pub.Shows (layout pub.main pub.sidecars none none none none) pub.before where
  places := by
    intro s
    have hreserved : ∀ s, pub.place s ∈ sidecarReservedPaths pub.path pub.subDir →
        pub.before (pub.place s) = none := fun s hs => h _ hs
    cases s with
    | main => rfl
    | sidecars => rfl
    | mainStage => exact hreserved .mainStage (by simp [sidecarReservedPaths, place, Slot.path])
    | sidecarStage =>
      exact hreserved .sidecarStage (by simp [sidecarReservedPaths, place, Slot.path])
    | mainBackup => exact hreserved .mainBackup (by simp [sidecarReservedPaths, place, Slot.path])
    | sidecarBackup =>
      exact hreserved .sidecarBackup (by simp [sidecarReservedPaths, place, Slot.path])
  others := fun _ _ => rfl

/-- A publication is not fresh if something stands at a reserved path. -/
theorem not_fresh_iff :
    ¬pub.Fresh ↔ ∃ p ∈ sidecarReservedPaths pub.path pub.subDir, pub.before p ≠ none := by
  unfold Fresh
  push Not
  rfl

/-- **A fresh run**: what it passes, and how it ends. -/
theorem run_of_fresh (hfresh : pub.Fresh) {cost : Nat} (hcost : cost ≤ 1)
    {fault : SidecarFaultInjection}
    (hfault : cost = 1 → fault.failCommitAt = none ∧ fault.failRollbackAt = none)
    (family : String) (faults : List (Option Fault)) :
    (∀ f ∈ (pub.run family fault faults).2.seen, pub.Passed f) ∧
      pub.Finished cost (faults.countP Option.isSome) (pub.run family fault faults).1
        (pub.run family fault faults).2 := by
  refine triple_writeSidecarBundle hcost hfault family (Machine.start pub.before faults)
    ⟨hfresh.shows, Nat.le_refl _⟩ fun f hf => ?_
  rw [List.mem_singleton.mp hf]
  exact Or.inl ⟨none, none, hfresh.shows⟩

/-- **A run that is not fresh** fails and changes nothing. -/
theorem run_of_not_fresh (hstale : ¬pub.Fresh) (family : String) (fault : SidecarFaultInjection)
    (faults : List (Option Fault)) :
    (∀ f ∈ (pub.run family fault faults).2.seen, f = pub.before) ∧
      (∃ e, (pub.run family fault faults).1 = .error e) ∧
      (pub.run family fault faults).2.files = pub.before := by
  refine triple_writeSidecarBundle_stale (not_fresh_iff.mp hstale) family pub.output pub.children
    fault (Machine.start pub.before faults) ⟨rfl, Nat.le_refl _⟩ fun f hf => ?_
  exact List.mem_singleton.mp hf

end Publication

/-- **What a crash can leave.**  Whatever operations fail, and wherever the run is cut off, a
visible main file stands beside the sidecars of its own generation, and the prior generation is
there until the candidate is. -/
theorem writeSidecarBundle_crash (pub : Publication) (family : String)
    (fault : SidecarFaultInjection) (faults : List (Option Fault)) :
    ∀ f ∈ (pub.run family fault faults).2.seen, pub.Consistent f := by
  intro f hf
  by_cases hfresh : pub.Fresh
  · have hpassed := (pub.run_of_fresh hfresh (Nat.zero_le 1) (by simp) family faults).1 f hf
    exact hpassed.consistent
  · rw [(pub.run_of_not_fresh hfresh family fault faults).1 f hf]
    exact Publication.consistent_before

/-- **What a success and a failure mean.**  After a success the candidate is in place, and what it
replaced were files of the program's own; after a failure the prior generation is in place, or no
main file is visible and the prior one is set aside. -/
theorem writeSidecarBundle_result (pub : Publication) (family : String)
    (fault : SidecarFaultInjection) (faults : List (Option Fault)) :
    ((∃ s, (pub.run family fault faults).1 = .ok s) →
      pub.New (pub.run family fault faults).2.files ∧ pub.Replaceable) ∧
    ((∃ e, (pub.run family fault faults).1 = .error e) →
      pub.Prior (pub.run family fault faults).2.files ∨
        ((pub.run family fault faults).2.files pub.path = none ∧
          (pub.run family fault faults).2.files (pub.place .mainBackup) = pub.main)) := by
  by_cases hfresh : pub.Fresh
  · obtain ⟨_, hfinished⟩ := pub.run_of_fresh hfresh (Nat.zero_le 1) (by simp) family faults
    constructor
    · rintro ⟨s, hrun⟩
      rw [hrun] at hfinished
      exact ⟨hfinished.1.new, hfinished.2⟩
    · rintro ⟨e, hrun⟩
      rw [hrun] at hfinished
      rcases hfinished with hplace | ⟨hhidden, _⟩
      · exact Or.inl hplace.prior
      · exact Or.inr ⟨hhidden.main, hhidden.kept.1⟩
  · obtain ⟨_, ⟨e, hrun⟩, hfiles⟩ := pub.run_of_not_fresh hfresh family fault faults
    constructor
    · rintro ⟨s, hok⟩
      rw [hrun] at hok
      cases hok
    · intro _
      rw [hfiles]
      exact Or.inl ⟨rfl, rfl⟩

/-- **A single failure is undone completely**: nothing but the stages may differ from before. -/
theorem writeSidecarBundle_restores (pub : Publication) (family : String)
    {fault : SidecarFaultInjection} {faults : List (Option Fault)} {e : String}
    (hone : faults.countP Option.isSome ≤ 1) (hcommit : fault.failCommitAt = none)
    (hrollback : fault.failRollbackAt = none)
    (hrun : (pub.run family fault faults).1 = .error e) (p : String)
    (hmain : p ≠ pub.place .mainStage) (hsidecar : p ≠ pub.place .sidecarStage) :
    (pub.run family fault faults).2.files p = pub.before p := by
  by_cases hfresh : pub.Fresh
  · obtain ⟨_, hfinished⟩ :=
      pub.run_of_fresh hfresh (Nat.le_refl 1) (fun _ => ⟨hcommit, hrollback⟩) family faults
    rw [hrun] at hfinished
    rcases hfinished with hplace | ⟨_, htwo⟩
    · obtain ⟨x, y, hshows⟩ := hplace
      by_cases hplaced : ∃ s, p = pub.place s
      · obtain ⟨s, rfl⟩ := hplaced
        rw [hshows.places s, hfresh.shows.places s]
        cases s with
        | mainStage => exact absurd rfl hmain
        | sidecarStage => exact absurd rfl hsidecar
        | _ => rfl
      · exact hshows.others p fun s hs => hplaced ⟨s, hs⟩
    · omega
  · rw [(pub.run_of_not_fresh hfresh family fault faults).2.2]

/-- A session without children that goes where nothing is yet. -/
def emptySession : Publication where
  path := "session.jsonl"
  subDir := claudeSubagentsDir "session.jsonl"
  distinct := slot_path_injective_claude "session.jsonl"
  before := fun _ => none
  output := "\x7b\x7d\n"
  children := []

/-- The first inspection of a path fails. -/
theorem writeSidecarBundle_restores_emptySession :
    (emptySession.run "Claude" {} [some { message := "denied", progress := 0 }]).2.files
      "session.jsonl" = none :=
  writeSidecarBundle_restores emptySession "Claude" (by decide) rfl rfl rfl "session.jsonl"
    (by decide) (by decide)

/-- **The next run.**  Started on what a crash left, it refuses as long as there are traces, and
changes nothing; where there are none, the crash left one whole generation. -/
theorem writeSidecarBundle_rerun (pub : Publication) (family : String)
    (fault : SidecarFaultInjection) (faults : List (Option Fault)) {f : Files}
    (hcrash : f ∈ (pub.run family fault faults).2.seen) (next : Publication)
    (hpath : next.path = pub.path) (hsubDir : next.subDir = pub.subDir) (hbefore : next.before = f)
    (fault' : SidecarFaultInjection) (faults' : List (Option Fault)) :
    ((∃ e, (next.run family fault' faults').1 = .error e) ∧
        ∀ g ∈ (next.run family fault' faults').2.seen, g = f) ∨ pub.Prior f ∨ pub.New f := by
  by_cases hfresh : next.Fresh
  · refine Or.inr ?_
    by_cases hfirst : pub.Fresh
    · rcases (pub.run_of_fresh hfirst (Nat.zero_le 1) (by simp) family faults).1 f hcrash with
        hplace | hhidden | hpublished
      · exact Or.inl hplace.prior
      · obtain ⟨p, hp, htaken⟩ := hhidden.traces
        rw [← hpath, ← hsubDir] at hp
        exact absurd (hbefore ▸ hfresh p hp) htaken
      · exact Or.inr hpublished.new
    · rw [(pub.run_of_not_fresh hfirst family fault faults).1 f hcrash]
      exact Or.inl ⟨rfl, rfl⟩
  · obtain ⟨hseen, herror, _⟩ := next.run_of_not_fresh hfresh family fault' faults'
    rw [hbefore] at hseen
    exact Or.inl ⟨herror, hseen⟩

/-- A run after one that was cut off at its beginning. -/
theorem writeSidecarBundle_rerun_emptySession :
    ((∃ e, (emptySession.run "Claude" {} []).1 = .error e) ∧
        ∀ g ∈ (emptySession.run "Claude" {} []).2.seen, g = emptySession.before) ∨
      emptySession.Prior emptySession.before ∨ emptySession.New emptySession.before :=
  writeSidecarBundle_rerun emptySession "Claude" {} [some { message := "denied", progress := 0 }]
    (List.mem_singleton.mpr rfl) emptySession rfl rfl rfl {} []

end AgentConvert.Cli
