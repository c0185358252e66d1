import Mathlib.Logic.Function.Basic
import Mathlib.Data.List.Basic

/-!
# Programs on files

Programs that probe, create, rename and remove files, where every operation may fail and the
machine may stop between any two of them.  A run consumes a list of faults, one for each
operation, and records every state of the files it passes: a crash leaves one of these states.

`Triple crash pre prog post` says that the program, started where `pre` holds, passes only states
with `crash` and ends where `post` holds.

## Main definitions

* `Files`, `Machine`, `Prog` — files by their paths, a run in progress, programs
* `probe`, `createDir`, `writeNew`, `writeNewIn`, `rename`, `remove` — the operations
* `Triple` — pre- and postcondition with a condition on all states passed

## Main statements

* `Triple.bind`, `Triple.weaken` — programs in sequence, and the rule of consequence
* `triple_rename`, `triple_createDir`, … — what each operation does, and what it may leave when it
  fails
-/

namespace AgentConvert.FilePrograms

/-! ### Files -/

/-- The type of what a path names, as the probe of the program tells it. -/
inductive FileType where
  | file
  | dir
  | symlink
  | other
  deriving Repr, DecidableEq

/-- What stands at a path. -/
inductive Node where
  | file (text : String)
  | dir (entries : List (String × Node))
  | symlink
  | other

/-- The type of a node. -/
def Node.type : Node → FileType
  | .file _ => .file
  | .dir _ => .dir
  | .symlink => .symlink
  | .other => .other

/-- The files by their paths.  Paths are taken apart nowhere: a directory is one node, with what
it contains. -/
abbrev Files := String → Option Node

/-- How an operation fails: the text of the error, and how far it got. -/
structure Fault where
  message : String
  progress : Nat

/-- A run in progress: the files, all states of them so far, and what is to happen to the
operations to come.  Operations beyond the end of the list succeed. -/
structure Machine where
  files : Files
  seen : List Files
  faults : List (Option Fault)

/-- How many operations are still to fail. -/
def Machine.budget (m : Machine) : Nat := m.faults.countP Option.isSome

/-- The beginning of a run. -/
def Machine.start (files : Files) (faults : List (Option Fault)) : Machine :=
  { files, seen := [files], faults }

/-- A program: what it returns, and the run behind it. -/
def Prog (α : Type) : Type := Machine → α × Machine

instance : Monad Prog where
  pure a := fun m => (a, m)
  bind p k := fun m => k (p m).1 (p m).2

variable {α β : Type}

/-! ### Operations -/

/-- What happens to the next operation. -/
def takeFault : Prog (Option Fault) := fun m =>
  match m.faults with
  | [] => (none, m)
  | fault :: faults => (fault, { m with faults })

/-- Look at a path. This is part of other operations and never fails. -/
def look (path : String) : Prog (Option Node) := fun m => (m.files path, m)

/-- Change what stands at a path. -/
def store (path : String) (node : Option Node) : Prog Unit := fun m =>
  let files := Function.update m.files path node
  ((), { m with files, seen := files :: m.seen })

/-- An operation that changes nothing the model records. -/
def attempt : Prog (Except String Unit) := do
  match ← takeFault with
  | some fault => pure (.error fault.message)
  | none => pure (.ok ())

/-- The type of what stands at a path; links are not followed. -/
def probe (path : String) : Prog (Except String (Option FileType)) := do
  match ← takeFault with
  | some fault => pure (.error fault.message)
  | none => do
    let node ← look path
    pure (.ok (node.map Node.type))

/-- The same, of an entry of a directory. -/
def probeIn (dir name : String) : Prog (Except String (Option FileType)) := do
  match ← takeFault with
  | some fault => pure (.error fault.message)
  | none =>
    match ← look dir with
    | some (.dir entries) =>
      pure (.ok ((entries.find? fun p => p.1 == name).map fun p => p.2.type))
    | _ => pure (.ok none)

/-- Read the entries of a directory. -/
def readDir (path : String) : Prog (Except String (List (String × Node))) := do
  match ← takeFault with
  | some fault => pure (.error fault.message)
  | none =>
    match ← look path with
    | some (.dir entries) => pure (.ok entries)
    | _ => pure (.error "not a directory")

/-- Create an empty directory where nothing stands. -/
def createDir (path : String) : Prog (Except String Unit) := do
  match ← takeFault with
  | some fault => pure (.error fault.message)
  | none =>
    match ← look path with
    | some _ => pure (.error "already exists")
    | none => do
      store path (some (.dir []))
      pure (.ok ())

/-- Fill a file that was just created.  A write that fails leaves a first part of the text. -/
def fill (text : String) (put : String → Prog Unit) : Prog (Except String Unit) := do
  match ← takeFault with
  | some fault => do
    put (String.ofList (text.toList.take fault.progress))
    pure (.error fault.message)
  | none => do
    put text
    pure (.ok ())

/-- Create a file that must not exist yet, and write the text to it. -/
def writeNew (path text : String) : Prog (Except String Unit) := do
  match ← takeFault with
  | some fault => pure (.error fault.message)
  | none =>
    match ← look path with
    | some _ => pure (.error "already exists")
    | none => do
      store path (some (.file ""))
      fill text fun written => store path (some (.file written))

/-- Create a file in a directory; the name must not be taken. -/
def writeNewIn (dir name text : String) : Prog (Except String Unit) := do
  match ← takeFault with
  | some fault => pure (.error fault.message)
  | none =>
    match ← look dir with
    | some (.dir entries) =>
      if entries.any fun p => p.1 == name then pure (.error "already exists")
      else do
        store dir (some (.dir (entries ++ [(name, .file "")])))
        fill text fun written => store dir (some (.dir (entries ++ [(name, .file written)])))
    | _ => pure (.error "not a directory")

/-- Whether a node can be put in the place of another. -/
def Node.replaces : Node → Node → Bool
  | .dir _, .dir entries => entries.isEmpty
  | .dir _, _ => false
  | _, .dir _ => false
  | _, _ => true

/-- Move what stands at a path, in one step. -/
def rename (source destination : String) : Prog (Except String Unit) := do
  match ← takeFault with
  | some fault => pure (.error fault.message)
  | none =>
    match ← look source with
    | none => pure (.error "no such file or directory")
    | some node =>
      match ← look destination with
      | some old =>
        if node.replaces old then move node else pure (.error "cannot replace the destination")
      | none => move node
where
  move (node : Node) : Prog (Except String Unit) := fun m =>
    let files := Function.update (Function.update m.files source none) destination (some node)
    (.ok (), { m with files, seen := files :: m.seen })

/-- Remove what stands at a path, a directory with its contents.  A removal that fails may have
removed some of them. -/
def remove (path : String) : Prog (Except String Unit) := do
  match ← takeFault with
  | some fault =>
    match ← look path with
    | some (.dir entries) => do
      store path (some (.dir (entries.drop fault.progress)))
      pure (.error fault.message)
    | _ => pure (.error fault.message)
  | none => do
    store path none
    pure (.ok ())

/-- One program after the other; a failure ends both. -/
def andThen (p : Prog (Except String α)) (k : α → Prog (Except String β)) :
    Prog (Except String β) := do
  match ← p with
  | .ok a => k a
  | .error e => pure (.error e)

/-! ### Pre- and postconditions -/

/-- Started where `pre` holds, the program passes only states with `crash` and ends where `post`
holds. -/
def Triple (crash : Files → Prop) (pre : Machine → Prop) (prog : Prog α)
    (post : α → Machine → Prop) : Prop :=
  ∀ m, pre m → (∀ f ∈ m.seen, crash f) →
    (∀ f ∈ (prog m).2.seen, crash f) ∧ post (prog m).1 (prog m).2

variable {crash : Files → Prop} {pre pre' : Machine → Prop}

/-- A returned value meets what the precondition gives. -/
theorem Triple.pure {a : α} {post : α → Machine → Prop} (h : ∀ m, pre m → post a m) :
    Triple crash pre (Pure.pure a) post := fun m hm hseen => ⟨hseen, h m hm⟩

/-- The postcondition of the first program is the precondition of the second. -/
theorem Triple.bind {p : Prog α} {k : α → Prog β} {R : α → Machine → Prop}
    {post : β → Machine → Prop} (hp : Triple crash pre p R)
    (hk : ∀ a, Triple crash (R a) (k a) post) : Triple crash pre (p >>= k) post := by
  intro m hm hseen
  obtain ⟨hseen', hmid⟩ := hp m hm hseen
  exact hk (p m).1 (p m).2 hmid hseen'

/-- The rule of consequence. -/
theorem Triple.weaken {p : Prog α} {post post' : α → Machine → Prop} (hp : Triple crash pre p post)
    (hpre : ∀ m, pre' m → pre m) (hpost : ∀ a m, post a m → post' a m) :
    Triple crash pre' p post' := fun m hm hseen =>
  ⟨(hp m (hpre m hm) hseen).1, hpost _ _ (hp m (hpre m hm) hseen).2⟩

/-- What the precondition says about other things than the machine may be used. -/
theorem Triple.assume {C : Prop} {p : Prog α} {post : α → Machine → Prop}
    (hC : ∀ m, pre m → C) (hp : C → Triple crash pre p post) : Triple crash pre p post :=
  fun m hm hseen => hp (hC m hm) m hm hseen

/-- The files are as described, and no more than `n` operations are still to fail. -/
def Within (S : Files → Prop) (n : Nat) (m : Machine) : Prop := S m.files ∧ m.budget ≤ n

/-- The files may be described more weakly, and the operations counted more generously. -/
theorem Within.mono {S T : Files → Prop} {n k : Nat} {m : Machine} (h : Within S n m)
    (hS : ∀ f, S f → T f) (hle : n ≤ k) : Within T k m := ⟨hS _ h.1, Nat.le_trans h.2 hle⟩

/-- What was found out about the files need not be used. -/
theorem Triple.forget {S : Files → Prop} {D : Files → Prop} {n : Nat} {p : Prog α}
    {post : α → Machine → Prop} (hp : Triple crash (Within S n) p post) :
    Triple crash (Within (fun f => S f ∧ D f) n) p post :=
  hp.weaken (fun _ hm => hm.mono (fun _ h => h.1) (Nat.le_refl n)) fun _ _ h => h

/-- What an operation leaves: one thing when it succeeds, another when it fails.  A failure uses
up `cost` of the faults. -/
def Settled (cost : Nat) (done : α → Files → Prop) (failed : Files → Prop) (n : Nat) :
    Except String α → Machine → Prop
  | .ok a, m => Within (done a) n m
  | .error _, m => ∃ k, n = k + cost ∧ Within failed k m

/-- From files as described, the operation leaves what it should, whatever happens to it. -/
def Attempts (crash : Files → Prop) (S : Files → Prop) (cost : Nat) (p : Prog (Except String α))
    (done : α → Files → Prop) (failed : Files → Prop) : Prop :=
  ∀ n, Triple crash (Within S n) p (Settled cost done failed n)

variable {S S' failed F : Files → Prop} {cost : Nat} {done done' : α → Files → Prop}

/-- What follows an operation is looked at twice: once for its success, once for its failure. -/
theorem Attempts.bind {p : Prog (Except String α)} {k : Except String α → Prog β}
    {Q : Nat → β → Machine → Prop} (hp : Attempts crash S cost p done failed)
    (hdone : ∀ a n, Triple crash (Within (done a) n) (k (.ok a)) (Q n))
    (hfailed : ∀ e n, Triple crash (Within failed n) (k (.error e)) (Q (n + cost))) (n : Nat) :
    Triple crash (Within S n) (p >>= k) (Q n) := by
  refine (hp n).bind fun r => ?_
  cases r with
  | ok a => exact hdone a n
  | error e =>
    intro m hm hseen
    obtain ⟨k', rfl, hwithin⟩ := hm
    exact hfailed e k' m hwithin hseen

/-- The consequence rule of attempts. -/
theorem Attempts.weaken {p : Prog (Except String α)} (hp : Attempts crash S cost p done failed)
    (hS : ∀ f, S' f → S f) (hdone : ∀ a f, done a f → done' a f)
    (hfailed : ∀ f, failed f → F f) : Attempts crash S' cost p done' F := by
  intro n
  refine (hp n).weaken (fun m hm => hm.mono hS (Nat.le_refl n)) fun r m hr => ?_
  cases r with
  | ok a => exact Within.mono hr (hdone a) (Nat.le_refl n)
  | error e =>
    obtain ⟨k, hk, hwithin⟩ := hr
    exact ⟨k, hk, hwithin.mono hfailed (Nat.le_refl k)⟩

/-- A failure that uses up a fault is in particular a failure. -/
theorem Attempts.free {p : Prog (Except String α)} (hp : Attempts crash S cost p done failed) :
    Attempts crash S 0 p done failed := by
  intro n
  refine (hp n).weaken (fun m hm => hm) fun r m hr => ?_
  cases r with
  | ok a => exact hr
  | error e =>
    obtain ⟨k, hk, hwithin⟩ := hr
    exact ⟨n, rfl, hwithin.mono (fun _ h => h) (by omega)⟩

/-- A program that returns touches nothing. -/
theorem attempts_ok {a : α} (h : ∀ f, S f → done a f) :
    Attempts crash S cost (Pure.pure (.ok a)) done failed := fun n =>
  Triple.pure fun _ hm => hm.mono h (Nat.le_refl n)

/-- A program that gives up touches nothing. -/
theorem attempts_error {e : String} (h : ∀ f, S f → failed f) :
    Attempts crash S 0 (Pure.pure (.error e)) done failed := fun n =>
  Triple.pure fun _ hm => ⟨n, rfl, hm.mono h (Nat.le_refl n)⟩

/-- An operation whose failure is passed on. -/
theorem Attempts.bind_attempts {p : Prog (Except String α)} {done' : β → Files → Prop}
    {k : Except String α → Prog (Except String β)}
    (hp : Attempts crash S cost p done failed)
    (hdone : ∀ a, Attempts crash (done a) cost (k (.ok a)) done' failed)
    (hfailed : ∀ e, ∃ e', k (.error e) = Pure.pure (.error e')) :
    Attempts crash S cost (p >>= k) done' failed :=
  hp.bind hdone fun e n => by
    obtain ⟨e', he⟩ := hfailed e
    rw [he]
    exact Triple.pure fun _ hm => ⟨n, rfl, hm⟩

/-- A second attempt is made only after a first one that succeeded. -/
theorem Attempts.andThen {p : Prog (Except String α)} {k : α → Prog (Except String β)}
    {done' : β → Files → Prop} (hp : Attempts crash S cost p done failed)
    (hk : ∀ a, Attempts crash (done a) cost (k a) done' failed) :
    Attempts crash S cost (FilePrograms.andThen p k) done' failed :=
  hp.bind_attempts hk fun e => ⟨e, rfl⟩

/-- The same, where what follows is described by a postcondition of its own. -/
theorem Attempts.andThen_triple {p : Prog (Except String α)} {k : α → Prog (Except String β)}
    {Q : Nat → Except String β → Machine → Prop} (hp : Attempts crash S cost p done failed)
    (hdone : ∀ a n, Triple crash (Within (done a) n) (k a) (Q n))
    (hfailed : ∀ e n m, Within failed n m → Q (n + cost) (.error e) m) (n : Nat) :
    Triple crash (Within S n) (FilePrograms.andThen p k) (Q n) := by
  unfold FilePrograms.andThen
  refine hp.bind (Q := Q) (fun a n => ?_) (fun e n => ?_) n
  · exact hdone a n
  · exact Triple.pure (hfailed e n)

/-! ### What the operations do -/

/-- The next operation goes through, or a fault is used up. -/
theorem triple_takeFault (S : Files → Prop) (n : Nat) :
    Triple crash (Within S n) takeFault fun r m =>
      (r = none ∧ Within S n m) ∨ ∃ fault k, r = some fault ∧ n = k + 1 ∧ Within S k m := by
  rintro ⟨files, seen, faults⟩ ⟨hfiles, hbudget⟩ hseen
  unfold Machine.budget at hbudget
  unfold takeFault
  cases faults with
  | nil => exact ⟨hseen, Or.inl ⟨rfl, hfiles, hbudget⟩⟩
  | cons fault faults =>
    refine ⟨hseen, ?_⟩
    cases fault with
    | none => exact Or.inl ⟨rfl, hfiles, by unfold Machine.budget; simpa using hbudget⟩
    | some fault =>
      simp only [List.countP_cons, Option.isSome_some, if_true] at hbudget
      refine Or.inr ⟨fault, n - 1, rfl, by omega, hfiles, ?_⟩
      show faults.countP Option.isSome ≤ n - 1
      omega

/-- Storing a node keeps the crash condition when the changed files meet it. -/
theorem triple_store {path : String} {node : Option Node} (n : Nat)
    (h : ∀ f, S f → crash (Function.update f path node) ∧ S' (Function.update f path node)) :
    Triple crash (Within S n) (store path node) fun _ => Within S' n := by
  rintro m ⟨hfiles, hbudget⟩ hseen
  obtain ⟨hcrash, hstored⟩ := h _ hfiles
  exact ⟨List.forall_mem_cons.mpr ⟨hcrash, hseen⟩, hstored, hbudget⟩

/-- An operation is one thing when it goes through, and another when a fault is due. -/
theorem attempts_of_takeFault {k : Option Fault → Prog (Except String α)} (hcost : cost ≤ 1)
    (hfault : ∀ fault n, Triple crash (Within S n) (k (some fault))
      fun r m => ∃ e, r = .error e ∧ Within failed n m)
    (hnone : ∀ n, Triple crash (Within S n) (k none) (Settled cost done failed n)) :
    Attempts crash S cost (takeFault >>= k) done failed := by
  intro n
  refine (triple_takeFault S n).bind fun r => ?_
  cases r with
  | none =>
    refine (hnone n).weaken (fun m hm => ?_) fun _ _ h => h
    rcases hm with ⟨_, hwithin⟩ | ⟨fault, _, hr, _⟩
    · exact hwithin
    · cases hr
  | some fault =>
    intro m hm hseen
    rcases hm with ⟨hr, _⟩ | ⟨_, left, _, hn, hwithin⟩
    · cases hr
    · obtain ⟨hseen', e, he, hfailed⟩ := hfault fault left m hwithin hseen
      refine ⟨hseen', ?_⟩
      rw [he]
      exact ⟨n - cost, by omega, hfailed.mono (fun _ h => h) (by omega)⟩

/-- An operation that gives up at once leaves everything as it was. -/
theorem triple_giveUp (e : String) (hS : ∀ f, S f → failed f) (n : Nat) :
    Triple crash (Within S n) (Pure.pure (.error e) : Prog (Except String α))
      fun r m => ∃ e, r = .error e ∧ Within failed n m :=
  Triple.pure fun _ hm => ⟨e, rfl, hm.mono hS (Nat.le_refl n)⟩

/-- An attempted operation either goes through or leaves the files alone. -/
theorem attempts_attempt : Attempts crash S 1 attempt (fun _ => S) S :=
  attempts_of_takeFault (Nat.le_refl 1) (fun _ => triple_giveUp _ fun _ h => h) fun _ =>
    Triple.pure fun _ hm => hm

/-- **A probe tells what is there.** -/
theorem attempts_probe (path : String) :
    Attempts crash S 1 (probe path) (fun t f => S f ∧ t = (f path).map Node.type) S :=
  attempts_of_takeFault (Nat.le_refl 1) (fun _ => triple_giveUp _ fun _ h => h) fun _ _ hm hseen =>
    ⟨hseen, ⟨hm.1, rfl⟩, hm.2⟩

/-- A program that goes on with what stands at a path. -/
theorem triple_look {path : String} {k : Option Node → Prog β} {n : Nat}
    {post : β → Machine → Prop}
    (h : ∀ node, Triple crash (Within (fun f => S f ∧ f path = node) n) (k node) post) :
    Triple crash (Within S n) (look path >>= k) post := fun m hm hseen =>
  h (m.files path) m ⟨⟨hm.1, rfl⟩, hm.2⟩ hseen

/-- The same, where it is known what stands there. -/
theorem triple_look_of {path : String} {k : Option Node → Prog β} {n : Nat} {node : Option Node}
    {post : β → Machine → Prop} (hnode : ∀ f, S f → f path = node)
    (h : Triple crash (Within S n) (k node) post) :
    Triple crash (Within S n) (look path >>= k) post := by
  intro m hm hseen
  have hlook : (look path >>= k) m = k node m := by
    show k (m.files path) m = k node m
    rw [hnode _ hm.1]
  rw [hlook]
  exact h m hm hseen

/-- The type of the entry of a directory, where entries are found by their names. -/
def entryType (entries : List (String × Node)) (name : String) : Option FileType :=
  (entries.find? fun p => p.1 == name).map fun p => p.2.type

/-- A probe reads the type of an entry of a directory. -/
theorem attempts_probeIn {dir name : String} {entries : List (String × Node)}
    (hdir : ∀ f, S f → f dir = some (.dir entries)) :
    Attempts crash S 1 (probeIn dir name) (fun t f => S f ∧ t = entryType entries name) S :=
  attempts_of_takeFault (Nat.le_refl 1) (fun _ => triple_giveUp _ fun _ h => h) fun _ =>
    triple_look_of hdir (Triple.pure fun _ hm => ⟨⟨hm.1, rfl⟩, hm.2⟩)

/-- Reading a directory gives its entries. -/
theorem attempts_readDir {path : String} (hdir : ∀ f, S f → (f path).map Node.type = some .dir) :
    Attempts crash S 1 (readDir path) (fun entries f => S f ∧ f path = some (.dir entries)) S := by
  refine attempts_of_takeFault (Nat.le_refl 1) (fun _ => triple_giveUp _ fun _ h => h) fun n => ?_
  refine triple_look fun node =>
    Triple.assume (C := node.map Node.type = some .dir) ?_ fun hnode => ?_
  · rintro m ⟨⟨hS, hlook⟩, _⟩
    rw [← hlook]
    exact hdir _ hS
  · cases node with
    | none => cases hnode
    | some node =>
      cases node with
      | dir entries => exact Triple.pure fun _ hm => hm
      | file text => cases hnode
      | symlink => cases hnode
      | other => cases hnode

/-- **A directory is created where nothing was.** -/
theorem attempts_createDir {path : String} (hfree : ∀ f, S f → f path = none)
    (hmade : ∀ f, S f → crash (Function.update f path (some (.dir []))) ∧
      S' (Function.update f path (some (.dir [])))) :
    Attempts crash S 1 (createDir path) (fun _ => S') S :=
  attempts_of_takeFault (Nat.le_refl 1) (fun _ => triple_giveUp _ fun _ h => h) fun n =>
    triple_look_of hfree ((triple_store n hmade).bind fun _ => Triple.pure fun _ hm => hm)

/-- The text is written, or a first part of it. -/
theorem attempts_fill {T : String → Files → Prop} {text : String} {put : String → Prog Unit}
    (hput : ∀ w n, Triple crash (Within (T "") n) (put w) fun _ => Within (T w) n) :
    Attempts crash (T "") 1 (fill text put) (fun _ => T text) (fun f => ∃ w, T w f) := by
  intro n
  refine (triple_takeFault (T "") n).bind fun r => ?_
  cases r with
  | none =>
    refine Triple.bind ((hput text n).weaken (fun m hm => ?_) fun _ _ h => h) fun _ =>
      Triple.pure fun _ hm => hm
    rcases hm with ⟨_, hwithin⟩ | ⟨fault, _, hr, _⟩
    · exact hwithin
    · cases hr
  | some fault =>
    intro m hm hseen
    rcases hm with ⟨hr, _⟩ | ⟨_, k, _, rfl, hwithin⟩
    · cases hr
    · obtain ⟨hseen', hwritten⟩ :=
        hput (String.ofList (text.toList.take fault.progress)) k m hwithin hseen
      exact ⟨hseen', k, rfl, ⟨_, hwritten.1⟩, hwritten.2⟩

/-- **A new file has the text, or a first part of it when the write fails.** -/
theorem attempts_writeNew {path text : String} {T : String → Files → Prop}
    (hfree : ∀ f, S f → f path = none)
    (hmade : ∀ f, S f → crash (Function.update f path (some (.file ""))) ∧
      T "" (Function.update f path (some (.file ""))))
    (hput : ∀ w f, T "" f → crash (Function.update f path (some (.file w))) ∧
      T w (Function.update f path (some (.file w)))) :
    Attempts crash S 1 (writeNew path text) (fun _ => T text) (fun f => S f ∨ ∃ w, T w f) := by
  refine attempts_of_takeFault (Nat.le_refl 1) (fun _ => triple_giveUp _ fun _ h => Or.inl h)
    fun n => ?_
  refine triple_look_of hfree ((triple_store n hmade).bind fun _ => ?_)
  exact ((attempts_fill fun w n => triple_store n (hput w)).weaken (fun _ h => h)
    (fun _ _ h => h) (fun _ h => Or.inr h)) n

/-- **A new file in a directory.**  It is also refused when its name is taken, which uses up no
fault. -/
theorem attempts_writeNewIn {dir name text : String} {entries : List (String × Node)}
    {T : String → Files → Prop} (hdir : ∀ f, S f → f dir = some (.dir entries))
    (hmade : ∀ f, S f →
      crash (Function.update f dir (some (.dir (entries ++ [(name, .file "")])))) ∧
        T "" (Function.update f dir (some (.dir (entries ++ [(name, .file "")])))))
    (hput : ∀ w f, T "" f →
      crash (Function.update f dir (some (.dir (entries ++ [(name, .file w)])))) ∧
        T w (Function.update f dir (some (.dir (entries ++ [(name, .file w)]))))) :
    Attempts crash S 0 (writeNewIn dir name text) (fun _ => T text)
      (fun f => S f ∨ ∃ w, T w f) := by
  refine attempts_of_takeFault (Nat.zero_le 1) (fun _ => triple_giveUp _ fun _ h => Or.inl h)
    fun n => triple_look_of hdir ?_
  dsimp only
  split
  · exact Triple.pure fun m hm => ⟨n, rfl, hm.mono (fun _ h => Or.inl h) (Nat.le_refl n)⟩
  · refine (triple_store n hmade).bind fun _ => ?_
    exact (((attempts_fill fun w n => triple_store n (hput w)).weaken (fun _ h => h)
      (fun _ _ h => h) (fun _ h => Or.inr h)).free) n

/-- **A renamed node is where it was sent, and no longer where it was.** -/
theorem attempts_rename {source destination : String} {node : Node}
    (hsource : ∀ f, S f → f source = some node)
    (hdestination : ∀ f, S f → f destination = none)
    (hmoved : ∀ f, S f →
      crash (Function.update (Function.update f source none) destination (some node)) ∧
        S' (Function.update (Function.update f source none) destination (some node))) :
    Attempts crash S 1 (rename source destination) (fun _ => S') S := by
  refine attempts_of_takeFault (Nat.le_refl 1) (fun _ => triple_giveUp _ fun _ h => h) fun n => ?_
  refine triple_look_of hsource ?_
  refine triple_look_of hdestination ?_
  rintro m ⟨hfiles, hbudget⟩ hseen
  obtain ⟨hcrash, hmoved⟩ := hmoved _ hfiles
  exact ⟨List.forall_mem_cons.mpr ⟨hcrash, hseen⟩, hmoved, hbudget⟩

/-- **What is removed is gone**, or a directory has lost some of its entries. -/
theorem attempts_remove {path : String}
    (hgone : ∀ f, S f → crash (Function.update f path none) ∧ S' (Function.update f path none))
    (hpart : ∀ f entries, S f → crash (Function.update f path (some (.dir entries))) ∧
      failed (Function.update f path (some (.dir entries))))
    (hS : ∀ f, S f → failed f) :
    Attempts crash S 1 (remove path) (fun _ => S') failed := by
  refine attempts_of_takeFault (Nat.le_refl 1) (fun fault n => triple_look fun node => ?_) fun n =>
    (triple_store n hgone).bind fun _ => Triple.pure fun _ hm => hm
  have hgiveUp : Triple crash (Within (fun f => S f ∧ f path = node) n)
      (Pure.pure (.error fault.message) : Prog (Except String Unit))
      fun r m => ∃ e, r = .error e ∧ Within failed n m :=
    triple_giveUp _ (fun f h => hS f h.1) n
  split
  next entries =>
    refine (triple_store n fun f h => hpart f _ h.1).bind fun _ => ?_
    exact triple_giveUp _ (fun _ h => h) n
  · exact hgiveUp

end AgentConvert.FilePrograms
