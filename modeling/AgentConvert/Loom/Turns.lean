import Mathlib.Data.List.Induction
import Mathlib.Data.List.Nodup
import AgentConvert.Loom.Core

/-!
# Turns

A turn is a user message with what follows it up to the next one.  Turns are not stored: they are
computed from the entries of a transcript in order, so the same view serves every format.

## Main statements

* `flatMap_turns_entries` — every entry is in one turn, and the turns keep the order
* `turnCount_eq` — there is a turn for every user message, and one for what comes before the first
* `turnOfEntry_eq_some_iff` — an entry belongs to the turn that lists it
* `turnsGrow_of_isPrefix` — a transcript that goes on keeps its turns; only the last one may grow
-/

namespace AgentConvert

/-- A user message opens a turn; nothing else does. -/
def Payload.isTurnBoundary : Payload → Bool
  | .userMsg _ => true
  | _ => false

/-- One turn: the index of its opening user message, `none` for what comes before any, and the
indices of its entries. -/
structure Turn where
  opener : Option Nat
  entries : List Nat
  deriving Repr, DecidableEq

/-- The variables of the loop that groups entries. -/
structure TurnState where
  result : List Turn
  cur : Option Turn

/-- One pass of the loop. -/
def turnStep (state : TurnState) (item : Entry × Nat) : TurnState :=
  let (e, i) := item
  if e.payload.isTurnBoundary then
    { result := state.result ++ state.cur.toList
      cur := some { opener := some i, entries := [i] } }
  else
    match state.cur with
    | some c => { state with cur := some { c with entries := c.entries ++ [i] } }
    | none => { state with cur := some { opener := none, entries := [i] } }

/-- The turns the loop has found so far. -/
def TurnState.all (state : TurnState) : List Turn := state.result ++ state.cur.toList

/-- The state of the loop behind the entries. -/
def turnState (entries : List Entry) : TurnState :=
  entries.zipIdx.foldl turnStep { result := [], cur := none }

/-- The entries of a transcript, grouped into turns. -/
def turns (t : Transcript) : List Turn := (turnState t.entries).all

/-- The number of turns. -/
def turnCount (t : Transcript) : Nat := (turns t).length

/-- Which turn an entry belongs to. -/
def turnOfEntry (t : Transcript) (entryIdx : Nat) : Option Nat :=
  (turns t).findIdx? fun turn => turn.entries.contains entryIdx

/-! ### One pass -/

/-- One more entry is one more step. -/
theorem turnState_concat (entries : List Entry) (e : Entry) :
    turnState (entries ++ [e]) = turnStep (turnState entries) (e, entries.length) := by
  unfold turnState
  rw [List.zipIdx_append, List.foldl_append, Nat.zero_add]
  rfl

/-- The loop has a current turn from the first entry on. -/
theorem turnState_cur_isSome {entries : List Entry} (h : entries ≠ []) :
    (turnState entries).cur.isSome = true := by
  obtain ⟨before, e, rfl⟩ := (List.eq_nil_or_concat' entries).resolve_left h
  rw [turnState_concat]
  unfold turnStep
  dsimp only
  split
  · rfl
  · split
    · rfl
    · rfl

/-- What the next entry does to the turns: it opens a turn, or the last turn grows. -/
inductive NextTurns (entries : List Entry) (e : Entry) : List Turn → List Turn → Prop where
  | user (turns : List Turn) : e.payload.isTurnBoundary = true →
      NextTurns entries e turns
        (turns ++ [{ opener := some entries.length, entries := [entries.length] }])
  | preamble : e.payload.isTurnBoundary = false → entries = [] →
      NextTurns entries e [] [{ opener := none, entries := [entries.length] }]
  | response (before : List Turn) (last : Turn) : e.payload.isTurnBoundary = false →
      entries ≠ [] →
      NextTurns entries e (before ++ [last])
        (before ++ [{ last with entries := last.entries ++ [entries.length] }])

/-- The step of the state is one of the ways turns can grow. -/
theorem nextTurns_turnState (entries : List Entry) (e : Entry) :
    NextTurns entries e (turnState entries).all (turnState (entries ++ [e])).all := by
  rw [turnState_concat]
  unfold turnStep
  dsimp only
  by_cases hboundary : e.payload.isTurnBoundary = true
  · rw [if_pos hboundary]
    exact NextTurns.user _ hboundary
  · rw [if_neg hboundary]
    rw [Bool.not_eq_true] at hboundary
    by_cases hnil : entries = []
    · subst hnil
      exact NextTurns.preamble hboundary rfl
    · obtain ⟨last, hlast⟩ := Option.isSome_iff_exists.mp (turnState_cur_isSome hnil)
      unfold TurnState.all
      rw [hlast]
      exact NextTurns.response (turnState entries).result last hboundary hnil

/-! ### What the turns are -/

/-- **Every entry is in one turn, and the turns keep the order of the entries.** -/
theorem flatMap_turns_entries (t : Transcript) :
    (turns t).flatMap Turn.entries = List.range t.entries.length := by
  unfold turns
  induction t.entries using List.reverseRecOn with
  | nil => rfl
  | append_singleton entries e ih =>
    rw [List.length_append, List.length_singleton, List.range_succ, ← ih]
    have hnext := nextTurns_turnState entries e
    generalize (turnState entries).all = turns at hnext ⊢
    generalize (turnState (entries ++ [e])).all = turns' at hnext ⊢
    cases hnext with
    | user => simp
    | preamble => simp
    | response before last => simp

/-- The opener of a turn is its first entry and a user message, and no other entry of it is. -/
structure TurnShape (entries : List Entry) (turn : Turn) : Prop where
  opener : ∀ i, turn.opener = some i → turn.entries.head? = some i ∧
    ∃ e, entries[i]? = some e ∧ e.payload.isTurnBoundary = true
  others : ∀ i ∈ turn.entries, turn.opener ≠ some i →
    ∃ e, entries[i]? = some e ∧ e.payload.isTurnBoundary = false

/-- A turn keeps its shape when the session grows. -/
theorem TurnShape.append {entries : List Entry} {turn : Turn} (h : TurnShape entries turn)
    (rest : List Entry) : TurnShape (entries ++ rest) turn where
  opener := by
    intro i hi
    obtain ⟨hhead, e, he, hboundary⟩ := h.opener i hi
    refine ⟨hhead, e, ?_, hboundary⟩
    rw [List.getElem?_append_left (List.getElem?_eq_some_iff.mp he).1]
    exact he
  others := by
    intro i hi hne
    obtain ⟨e, he, hboundary⟩ := h.others i hi hne
    refine ⟨e, ?_, hboundary⟩
    rw [List.getElem?_append_left (List.getElem?_eq_some_iff.mp he).1]
    exact he

/-- A turn opens with its user message, if it has one, and goes on up to the next. -/
theorem turnShape_of_mem_turns (t : Transcript) : ∀ turn ∈ turns t, TurnShape t.entries turn := by
  unfold turns
  induction t.entries using List.reverseRecOn with
  | nil => exact fun turn hturn => absurd hturn List.not_mem_nil
  | append_singleton entries e ih =>
    have hlast : (entries ++ [e])[entries.length]? = some e := List.getElem?_concat_length
    have hnext := nextTurns_turnState entries e
    generalize (turnState entries).all = turns at hnext ih
    generalize (turnState (entries ++ [e])).all = turns' at hnext ⊢
    intro turn hturn
    cases hnext with
    | user _ hboundary =>
      rcases List.mem_append.mp hturn with hturn | hturn
      · exact (ih turn hturn).append [e]
      · rw [List.mem_singleton.mp hturn]
        refine ⟨fun i hi => ?_, fun i hi hne => ?_⟩
        · cases hi
          exact ⟨rfl, e, hlast, hboundary⟩
        · exact absurd (congrArg some (List.mem_singleton.mp hi).symm) hne
    | preamble hboundary _ =>
      rw [List.mem_singleton.mp hturn]
      refine ⟨fun i hi => ?_, fun i hi _ => ?_⟩
      · cases hi
      · rw [List.mem_singleton.mp hi]
        exact ⟨e, hlast, hboundary⟩
    | response before last hboundary _ =>
      rcases List.mem_append.mp hturn with hturn | hturn
      · exact (ih turn (List.mem_append_left _ hturn)).append [e]
      · rw [List.mem_singleton.mp hturn]
        have hshape := (ih last (by simp)).append [e]
        refine ⟨fun i hi => ?_, fun i hi hne => ?_⟩
        · obtain ⟨hhead, huser⟩ := hshape.opener i hi
          refine ⟨?_, huser⟩
          dsimp only
          rw [List.head?_append, hhead]
          rfl
        · rcases List.mem_append.mp hi with hi | hi
          · exact hshape.others i hi hne
          · rw [List.mem_singleton.mp hi]
            exact ⟨e, hlast, hboundary⟩

/-- One for what comes before the first user message, if there is anything. -/
def preambleCount (entries : List Entry) : Nat :=
  if entries.head?.any (fun e => !e.payload.isTurnBoundary) then 1 else 0

/-- **There is a turn for every user message, and one for what comes before the first.** -/
theorem turnCount_eq (t : Transcript) :
    turnCount t = preambleCount t.entries +
      t.entries.countP fun e => e.payload.isTurnBoundary := by
  unfold turnCount turns
  induction t.entries using List.reverseRecOn with
  | nil => rfl
  | append_singleton entries e ih =>
    have hpreamble : entries ≠ [] → preambleCount (entries ++ [e]) = preambleCount entries := by
      intro hne
      unfold preambleCount
      rw [List.head?_append_of_ne_nil _ hne]
    have hnext := nextTurns_turnState entries e
    generalize (turnState entries).all = turns at hnext ih
    generalize (turnState (entries ++ [e])).all = turns' at hnext ⊢
    rw [List.countP_append]
    cases hnext with
    | user _ hboundary =>
      have hsame : preambleCount (entries ++ [e]) = preambleCount entries := by
        by_cases hnil : entries = []
        · subst hnil
          simp [preambleCount, hboundary]
        · exact hpreamble hnil
      rw [hsame, List.length_append, ih]
      simp [hboundary]
      omega
    | preamble hboundary hnil =>
      subst hnil
      simp [preambleCount, hboundary]
    | response before last hboundary hne =>
      rw [hpreamble hne]
      rw [List.length_append] at ih ⊢
      simp [hboundary]
      simpa using ih

/-! ### Transcripts that go on -/

/-- Turns that were followed by another one are unchanged, and the last one has perhaps more
entries. -/
structure TurnsGrow (turns turns' : List Turn) : Prop where
  closed : turns.dropLast <+: turns'.dropLast
  grown : ∀ (k : Nat) (turn : Turn), turns[k]? = some turn →
    ∃ turn', turns'[k]? = some turn' ∧ turn'.opener = turn.opener ∧
      turn.entries <+: turn'.entries

/-- Turns that stay the same have grown. -/
theorem TurnsGrow.refl (turns : List Turn) : TurnsGrow turns turns where
  closed := List.prefix_rfl
  grown := fun _ turn hturn => ⟨turn, hturn, rfl, List.prefix_rfl⟩

/-- Growing is transitive. -/
theorem TurnsGrow.trans {turns turns' turns'' : List Turn} (h : TurnsGrow turns turns')
    (h' : TurnsGrow turns' turns'') : TurnsGrow turns turns'' where
  closed := h.closed.trans h'.closed
  grown := by
    intro k turn hturn
    obtain ⟨turn', hturn', hopener, hentries⟩ := h.grown k turn hturn
    obtain ⟨turn'', hturn'', hopener', hentries'⟩ := h'.grown k turn' hturn'
    exact ⟨turn'', hturn'', hopener'.trans hopener, hentries.trans hentries'⟩

/-- Turns never become fewer. -/
theorem TurnsGrow.length_le {turns turns' : List Turn} (h : TurnsGrow turns turns') :
    turns.length ≤ turns'.length := by
  by_contra hlt
  have hk : turns'.length < turns.length := Nat.not_le.mp hlt
  obtain ⟨turn', hturn', _⟩ := h.grown turns'.length _ (List.getElem?_eq_getElem hk)
  exact Nat.lt_irrefl _ (List.getElem?_eq_some_iff.mp hturn').1

/-- One entry makes turns grow. -/
theorem NextTurns.grow {entries : List Entry} {e : Entry} {turns turns' : List Turn}
    (h : NextTurns entries e turns turns') : TurnsGrow turns turns' := by
  cases h with
  | user =>
    refine ⟨?_, fun k turn hturn => ⟨turn, ?_, rfl, List.prefix_rfl⟩⟩
    · rw [List.dropLast_concat]
      exact List.dropLast_prefix turns
    · rw [List.getElem?_append_left (List.getElem?_eq_some_iff.mp hturn).1]
      exact hturn
  | preamble => exact ⟨List.prefix_rfl, fun k turn hturn => by cases hturn⟩
  | response before last =>
    refine ⟨?_, fun k turn hturn => ?_⟩
    · simp only [List.dropLast_concat, List.prefix_rfl]
    · have hk : k < before.length + 1 := by
        simpa using (List.getElem?_eq_some_iff.mp hturn).1
      rcases Nat.lt_succ_iff_lt_or_eq.mp hk with hlt | rfl
      · refine ⟨turn, ?_, rfl, List.prefix_rfl⟩
        rw [List.getElem?_append_left hlt] at hturn ⊢
        exact hturn
      · rw [List.getElem?_concat_length] at hturn
        cases hturn
        exact ⟨_, List.getElem?_concat_length, rfl, List.prefix_append _ _⟩

/-- **A transcript that goes on keeps its turns**; entries are only added to the last one. -/
theorem turnsGrow_of_isPrefix {part whole : Transcript} (h : part.entries <+: whole.entries) :
    TurnsGrow (turns part) (turns whole) := by
  unfold turns
  obtain ⟨rest, hrest⟩ := h
  rw [← hrest]
  clear hrest
  induction rest using List.reverseRecOn with
  | nil =>
    rw [List.append_nil]
    exact TurnsGrow.refl _
  | append_singleton rest e ih =>
    rw [← List.append_assoc]
    exact ih.trans (nextTurns_turnState _ e).grow

/-! ### The turn of an entry -/

/-- **An entry belongs to the turn that lists it.** -/
theorem turnOfEntry_eq_some_iff {t : Transcript} {i k : Nat} :
    turnOfEntry t i = some k ↔ ∃ turn, (turns t)[k]? = some turn ∧ i ∈ turn.entries := by
  unfold turnOfEntry
  rw [List.findIdx?_eq_some_iff_getElem]
  constructor
  · rintro ⟨hk, hmem, _⟩
    exact ⟨(turns t)[k], List.getElem?_eq_getElem hk, by simpa using hmem⟩
  · rintro ⟨turn, hturn, hmem⟩
    obtain ⟨hk, rfl⟩ := List.getElem?_eq_some_iff.mp hturn
    refine ⟨hk, by simpa using hmem, fun j hj => ?_⟩
    -- no entry is listed twice
    have hnodup : ((turns t).flatMap Turn.entries).Nodup := by
      rw [flatMap_turns_entries]
      exact List.nodup_range
    have hdisjoint := List.pairwise_iff_getElem.mp (List.nodup_flatMap.mp hnodup).2 j k
      (Nat.lt_trans hj hk) hk hj
    intro hearlier
    exact hdisjoint (by simpa using hearlier) hmem

/-- The entries of the transcript are the ones that belong to a turn. -/
theorem turnOfEntry_isSome_iff {t : Transcript} {i : Nat} :
    (turnOfEntry t i).isSome = true ↔ i < t.entries.length := by
  rw [← List.mem_range, ← flatMap_turns_entries, List.mem_flatMap, Option.isSome_iff_exists]
  constructor
  · rintro ⟨k, hk⟩
    obtain ⟨turn, hturn, hmem⟩ := turnOfEntry_eq_some_iff.mp hk
    exact ⟨turn, List.mem_of_getElem? hturn, hmem⟩
  · rintro ⟨turn, hturn, hmem⟩
    obtain ⟨k, hk, rfl⟩ := List.mem_iff_getElem.mp hturn
    exact ⟨k, turnOfEntry_eq_some_iff.mpr ⟨_, List.getElem?_eq_getElem hk, hmem⟩⟩

end AgentConvert
