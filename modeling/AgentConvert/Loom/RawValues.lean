import AgentConvert.Loom.Core
import Mathlib.Data.List.Basic

/-!
# Values kept in their source form

A transcript keeps some values as the source had them: the arguments of a call, blocks and events
of an unknown kind, and the fields an importer read but did not model.  What the formats do to
these values is stated here for the transcript as a whole.

## Main definitions

* `Transcript.EveryRaw` — every value kept in its source form has a property
* `Transcript.mapRaw` — the transcript with a function applied to every such value
-/

namespace AgentConvert

/-! ### A property of every value -/

section EveryRaw

variable (P : Json → Prop)

/-- Every value that the block keeps has the property. -/
def UserBlock.EveryRaw : UserBlock → Prop
  | .unmodeled _ raw => P raw
  | .text _ | .media _ _ => True

/-- Every value that the block keeps has the property. -/
def AssistantBlock.EveryRaw : AssistantBlock → Prop
  | .toolCall _ args _ => P args
  | .unmodeled _ raw => P raw
  | .text _ | .thinking _ _ | .media _ _ => True

/-- Every value that the block keeps has the property. -/
def EnvBlock.EveryRaw : EnvBlock → Prop
  | .toolResult _ content _ => ∀ b ∈ content, b.EveryRaw P
  | .unmodeled _ raw => P raw

/-- The value that the event keeps, if it keeps one, has the property. -/
def MetaEvent.EveryRaw : MetaEvent → Prop
  | .custom _ raw => P raw
  | .modelChange _ _ | .thinkingLevelChange _ _ | .permissionMode _ | .branchSummary _ => True

/-- Every value that the payload keeps has the property. -/
def Payload.EveryRaw : Payload → Prop
  | .userMsg blocks => ∀ b ∈ blocks, b.EveryRaw P
  | .assistantMsg blocks => ∀ b ∈ blocks, b.EveryRaw P
  | .envMsg blocks => ∀ b ∈ blocks, b.EveryRaw P
  | .otherMsg _ blocks => ∀ b ∈ blocks, b.EveryRaw P
  | .compaction _ _ _ => True
  | .event e => e.EveryRaw P

/-- The extras of the origin, if it has any, have the property. -/
def Origin.EveryRaw (o : Origin) : Prop := ∀ extras, o.extras = some extras → P extras

/-- Every value the entry keeps in its source form has the property. -/
structure Entry.EveryRaw (e : Entry) : Prop where
  payload : e.payload.EveryRaw P
  origin : e.origin.EveryRaw P

/-- **Every value the transcript keeps in its source form has the property.** -/
structure Transcript.EveryRaw (t : Transcript) : Prop where
  entries : ∀ e ∈ t.entries, e.EveryRaw P
  origin : t.origin.EveryRaw P

end EveryRaw

/-! ### A function on every value -/

section MapRaw

variable (f : Json → Json)

/-- The block with the value it keeps replaced. -/
def UserBlock.mapRaw : UserBlock → UserBlock
  | .unmodeled label raw => .unmodeled label (f raw)
  | .text s => .text s
  | .media mimeType locator => .media mimeType locator

/-- The block with the value it keeps replaced. -/
def AssistantBlock.mapRaw : AssistantBlock → AssistantBlock
  | .toolCall name args rawId => .toolCall name (f args) rawId
  | .unmodeled label raw => .unmodeled label (f raw)
  | .text s => .text s
  | .thinking s signature => .thinking s signature
  | .media mimeType locator => .media mimeType locator

/-- The block with the values it keeps replaced. -/
def EnvBlock.mapRaw : EnvBlock → EnvBlock
  | .toolResult call content error => .toolResult call (content.map (UserBlock.mapRaw f)) error
  | .unmodeled label raw => .unmodeled label (f raw)

/-- The event with the value it keeps replaced. -/
def MetaEvent.mapRaw : MetaEvent → MetaEvent
  | .custom label raw => .custom label (f raw)
  | .modelChange prev next => .modelChange prev next
  | .thinkingLevelChange prev next => .thinkingLevelChange prev next
  | .permissionMode mode => .permissionMode mode
  | .branchSummary summary => .branchSummary summary

/-- The payload with the values it keeps replaced. -/
def Payload.mapRaw : Payload → Payload
  | .userMsg blocks => .userMsg (blocks.map (UserBlock.mapRaw f))
  | .assistantMsg blocks => .assistantMsg (blocks.map (AssistantBlock.mapRaw f))
  | .envMsg blocks => .envMsg (blocks.map (EnvBlock.mapRaw f))
  | .otherMsg role blocks => .otherMsg role (blocks.map (UserBlock.mapRaw f))
  | .compaction summary coverage tokensBefore => .compaction summary coverage tokensBefore
  | .event e => .event (e.mapRaw f)

/-- The origin with its extras replaced. -/
def Origin.mapRaw (o : Origin) : Origin := { o with extras := o.extras.map f }

/-- The entry with the values it keeps replaced. -/
def Entry.mapRaw (e : Entry) : Entry :=
  { e with payload := e.payload.mapRaw f, origin := e.origin.mapRaw f }

/-- The transcript with the function applied to every value it keeps in its source form. -/
def Transcript.mapRaw (t : Transcript) : Transcript :=
  { t with entries := t.entries.map (Entry.mapRaw f), origin := t.origin.mapRaw f }

/-! ### Values that do not change -/

variable {f}

/-- Mapping fixed raw values changes no user block. -/
theorem UserBlock.mapRaw_eq_self {b : UserBlock} (h : b.EveryRaw fun v => f v = v) :
    b.mapRaw f = b := by
  cases b with
  | text s => rfl
  | media mimeType locator => rfl
  | unmodeled label raw => exact congrArg (UserBlock.unmodeled label) h

/-- Mapping fixed raw values changes no assistant block. -/
theorem AssistantBlock.mapRaw_eq_self {b : AssistantBlock} (h : b.EveryRaw fun v => f v = v) :
    b.mapRaw f = b := by
  cases b with
  | toolCall name args rawId => exact congrArg (AssistantBlock.toolCall name · rawId) h
  | unmodeled label raw => exact congrArg (AssistantBlock.unmodeled label) h
  | _ => rfl

/-- A list in which nothing changes. -/
theorem map_eq_self {α : Type} {g : α → α} {l : List α} (h : ∀ a ∈ l, g a = a) : l.map g = l :=
  (List.map_congr_left h).trans (List.map_id' l)

/-- Mapping fixed raw values changes no environment block. -/
theorem EnvBlock.mapRaw_eq_self {b : EnvBlock} (h : b.EveryRaw fun v => f v = v) :
    b.mapRaw f = b := by
  cases b with
  | toolResult call content error =>
    have hcontent : content.map (UserBlock.mapRaw f) = content :=
      map_eq_self fun b hb => UserBlock.mapRaw_eq_self (h b hb)
    exact congrArg (EnvBlock.toolResult call · error) hcontent
  | unmodeled label raw => exact congrArg (EnvBlock.unmodeled label) h

/-- Mapping fixed raw values changes no meta event. -/
theorem MetaEvent.mapRaw_eq_self {e : MetaEvent} (h : e.EveryRaw fun v => f v = v) :
    e.mapRaw f = e := by
  cases e with
  | custom label raw => exact congrArg (MetaEvent.custom label) h
  | _ => rfl

/-- Mapping fixed raw values changes no payload. -/
theorem Payload.mapRaw_eq_self {p : Payload} (h : p.EveryRaw fun v => f v = v) :
    p.mapRaw f = p := by
  cases p with
  | userMsg blocks =>
    exact congrArg Payload.userMsg (map_eq_self fun b hb => UserBlock.mapRaw_eq_self (h b hb))
  | assistantMsg blocks =>
    exact congrArg Payload.assistantMsg
      (map_eq_self fun b hb => AssistantBlock.mapRaw_eq_self (h b hb))
  | envMsg blocks =>
    exact congrArg Payload.envMsg (map_eq_self fun b hb => EnvBlock.mapRaw_eq_self (h b hb))
  | otherMsg role blocks =>
    exact congrArg (Payload.otherMsg role)
      (map_eq_self fun b hb => UserBlock.mapRaw_eq_self (h b hb))
  | compaction summary coverage tokensBefore => rfl
  | event e => exact congrArg Payload.event (MetaEvent.mapRaw_eq_self h)

/-- Mapping a fixed raw record changes no origin. -/
theorem Origin.mapRaw_eq_self {o : Origin} (h : o.EveryRaw fun v => f v = v) :
    o.mapRaw f = o := by
  obtain ⟨format, sourceRef, rawId, extras⟩ := o
  cases extras with
  | none => rfl
  | some extras =>
    have hextras : some (f extras) = some extras := congrArg some (h extras rfl)
    exact congrArg (Origin.mk format sourceRef rawId) hextras

/-- **A transcript whose values do not change does not change.** -/
theorem Transcript.mapRaw_eq_self {t : Transcript} (h : t.EveryRaw fun v => f v = v) :
    t.mapRaw f = t := by
  have hentries : t.entries.map (Entry.mapRaw f) = t.entries := by
    refine map_eq_self fun e he => ?_
    have hentry := h.entries e he
    unfold Entry.mapRaw
    rw [Payload.mapRaw_eq_self hentry.payload, Origin.mapRaw_eq_self hentry.origin]
  unfold Transcript.mapRaw
  rw [hentries, Origin.mapRaw_eq_self h.origin]

end MapRaw

end AgentConvert
