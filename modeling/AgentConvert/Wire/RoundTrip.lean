import AgentConvert.Json.Ordered
import AgentConvert.Lib.Fallible
import AgentConvert.Wire.Format

/-!
# The wire format loses nothing

A transcript that is written to the wire format and read again is the same transcript
(`importLoomWireJson_export`).  There is no condition on the transcript: an entry may refer to
anything, and the values it keeps in their source form are carried as they are.
-/

namespace AgentConvert.Wire

/-! ### Members that are there -/

section Fields

variable {members : List (String × Json)} {k : String} (ctx : String)

/-- A member is read from an object as the last member written under its key. -/
theorem getObjVal?_of_lookup {v : Json} (h : members.reverse.lookup k = some v) :
    (Json.mkObj members).getObjVal? k = .ok v := by
  rw [← oobj_mkObj] at h
  exact ok_of_toOption_eq_some h

/-- A member that is missing. -/
theorem getObjVal?_of_lookup_none (h : members.reverse.lookup k = none) :
    ∃ e, (Json.mkObj members).getObjVal? k = .error e := by
  rw [← oobj_mkObj] at h
  unfold oobj at h
  cases hget : (Json.mkObj members).getObjVal? k with
  | error e => exact ⟨e, rfl⟩
  | ok v =>
    rw [hget] at h
    cases h

/-- A required member is read when it was written. -/
theorem objField_of_lookup {v : Json} (h : members.reverse.lookup k = some v) :
    objField ctx (Json.mkObj members) k = .ok v := by
  refine bind_ok_iff.mpr ⟨(), rfl, ?_⟩
  rw [getObjVal?_of_lookup h]

/-- A required string is read when it was written. -/
theorem strField_of_lookup {s : String} (h : members.reverse.lookup k = some (.str s)) :
    strField ctx (Json.mkObj members) k = .ok s :=
  bind_ok_iff.mpr ⟨.str s, objField_of_lookup ctx h, rfl⟩

/-- A required array is read when it was written. -/
theorem arrField_of_lookup {elems : List Json} (h : members.reverse.lookup k = some (.arr elems)) :
    arrField ctx (Json.mkObj members) k = .ok elems :=
  bind_ok_iff.mpr ⟨.arr elems, objField_of_lookup ctx h, rfl⟩

/-- A number written as text is read back. -/
theorem natJson_toString (n : Nat) : natJson ctx (.str (toString n)) = .ok n := by
  unfold natJson
  simp only [Json.getNat?, Json.getStr?, Text.toNat?_toString]

/-- A required number is read when it was written. -/
theorem natField_of_lookup {n : Nat} (h : members.reverse.lookup k = some (.str (toString n))) :
    natField ctx (Json.mkObj members) k = .ok n :=
  bind_ok_iff.mpr ⟨.str (toString n), objField_of_lookup ctx h, natJson_toString _ n⟩

/-- A required Boolean is read when it was written as text. -/
theorem boolField_of_lookup {b : Bool} (h : members.reverse.lookup k = some (.str (toString b))) :
    boolField ctx (Json.mkObj members) k = .ok b := by
  refine bind_ok_iff.mpr ⟨.str (toString b), objField_of_lookup ctx h, ?_⟩
  cases b with
  | false => rfl
  | true => rfl

/-! ### Members that may be missing -/

/-- An optional string is read as it was written, absent or not. -/
theorem optStrField_of_lookup {value : Option String}
    (h : members.reverse.lookup k = value.map Json.str) :
    optStrField ctx (Json.mkObj members) k = .ok value := by
  refine bind_ok_iff.mpr ⟨(), rfl, ?_⟩
  cases value with
  | none =>
    obtain ⟨e, he⟩ := getObjVal?_of_lookup_none h
    rw [he]
  | some s =>
    rw [getObjVal?_of_lookup h]
    rfl

/-- An optional number is read as it was written, absent or not. -/
theorem optNatField_of_lookup {value : Option Nat}
    (h : members.reverse.lookup k = value.map fun n => .str (toString n)) :
    optNatField ctx (Json.mkObj members) k = .ok value := by
  refine bind_ok_iff.mpr ⟨(), rfl, ?_⟩
  cases value with
  | none =>
    obtain ⟨e, he⟩ := getObjVal?_of_lookup_none h
    rw [he]
  | some n =>
    rw [getObjVal?_of_lookup h]
    exact bind_ok_iff.mpr ⟨n, natJson_toString _ n, rfl⟩

/-- The marker of an open label. -/
theorem optBoolField_of_lookup {marked : Bool}
    (h : members.reverse.lookup k = if marked then some (.bool true) else none) :
    ∃ value, optBoolField ctx (Json.mkObj members) k = .ok value ∧
      value.getD false = marked := by
  cases marked with
  | false =>
    obtain ⟨e, he⟩ := getObjVal?_of_lookup_none h
    refine ⟨none, bind_ok_iff.mpr ⟨(), rfl, ?_⟩, rfl⟩
    rw [he]
  | true =>
    refine ⟨some true, bind_ok_iff.mpr ⟨(), rfl, ?_⟩, rfl⟩
    rw [getObjVal?_of_lookup h]
    rfl

end Fields

/-! ### Members that are written when there is a value -/

/-- An optional text is found under its own key only. -/
@[simp] theorem lookup_reverse_optStr (k k' : String) (value : Option String) :
    (optStr k value).reverse.lookup k' = if k' = k then value.map Json.str else none := by
  cases value with
  | none => exact (ite_self none).symm
  | some s =>
    by_cases hk : k' = k
    · simp [optStr, hk]
    · simp [optStr, List.lookup_cons, beq_eq_false_iff_ne.mpr hk, hk]

@[simp] theorem lookup_reverse_optJson (k k' : String) (value : Option Json) :
    (optJson k value).reverse.lookup k' = if k' = k then value else none := by
  cases value with
  | none => exact (ite_self none).symm
  | some v =>
    by_cases hk : k' = k
    · simp [optJson, hk]
    · simp [optJson, List.lookup_cons, beq_eq_false_iff_ne.mpr hk, hk]

@[simp] theorem lookup_reverse_optNat (k k' : String) (value : Option Nat) :
    (optNat k value).reverse.lookup k' =
      if k' = k then value.map fun n => Json.str (toString n) else none := by
  cases value with
  | none => exact (ite_self none).symm
  | some n =>
    by_cases hk : k' = k
    · simp [optNat, hk]
    · simp [optNat, List.lookup_cons, beq_eq_false_iff_ne.mpr hk, hk]

@[simp] theorem lookup_reverse_marker (marked : Bool) (k k' : String) (v : Json) :
    (if marked then [(k, v)] else []).reverse.lookup k' =
      if k' = k ∧ marked = true then some v else none := by
  cases marked with
  | false => simp
  | true =>
    by_cases hk : k' = k
    · simp [hk]
    · simp [List.lookup_cons, beq_eq_false_iff_ne.mpr hk, hk]

@[simp] theorem lookup_reverse_dispositionField (k' : String) (disposition : EntryDisposition) :
    (entryDispositionWireField disposition).reverse.lookup k' =
      if k' = "disposition" ∧ disposition = .historicalUnverified then
        some (.str "historicalUnverified") else none := by
  cases disposition with
  | native => simp [entryDispositionWireField]
  | historicalUnverified =>
    by_cases hk : k' = "disposition"
    · simp [entryDispositionWireField, entryDispositionToWireString, hk]
    · simp [entryDispositionWireField, List.lookup_cons, beq_eq_false_iff_ne.mpr hk, hk]

/-! ### Parts -/

/-- A canonical tool is read back from its wire name. -/
theorem canonicalToolFromWireString_to (ctx : String) (tool : CanonicalTool) :
    canonicalToolFromWireString ctx (canonicalToolToWireString tool) = .ok tool := by
  cases tool <;> rfl

/-- A time is read back with its provenance. -/
theorem timeFromWireJson_to (ctx : String) (time : Time) :
    timeFromWireJson ctx (timeToWireJson time) = .ok time := by
  cases time with
  | recorded t =>
    refine bind_ok_iff.mpr ⟨"recorded", strField_of_lookup _ rfl, ?_⟩
    exact bind_ok_iff.mpr ⟨t.ms, natField_of_lookup _ rfl, rfl⟩
  | interpolated t basis =>
    refine bind_ok_iff.mpr ⟨"interpolated", strField_of_lookup _ rfl, ?_⟩
    refine bind_ok_iff.mpr ⟨t.ms, natField_of_lookup _ rfl, ?_⟩
    exact bind_ok_iff.mpr ⟨basis, strField_of_lookup _ rfl, rfl⟩
  | sequenced ord =>
    refine bind_ok_iff.mpr ⟨"sequenced", strField_of_lookup _ rfl, ?_⟩
    exact bind_ok_iff.mpr ⟨ord, natField_of_lookup _ rfl, rfl⟩
  | absent =>
    exact bind_ok_iff.mpr ⟨"absent", strField_of_lookup _ rfl, rfl⟩

/-- An error signal is read back. -/
theorem errorSignalFromWireJson_to (ctx : String) (error : ErrorSignal) :
    errorSignalFromWireJson ctx (errorSignalToWireJson error) = .ok error := by
  cases error with
  | native isError =>
    refine bind_ok_iff.mpr ⟨"native", strField_of_lookup _ rfl, ?_⟩
    exact bind_ok_iff.mpr ⟨isError, boolField_of_lookup _ rfl, rfl⟩
  | heuristic isError method =>
    refine bind_ok_iff.mpr ⟨"heuristic", strField_of_lookup _ rfl, ?_⟩
    refine bind_ok_iff.mpr ⟨isError, boolField_of_lookup _ rfl, ?_⟩
    exact bind_ok_iff.mpr ⟨method, strField_of_lookup _ rfl, rfl⟩
  | structured isError source =>
    refine bind_ok_iff.mpr ⟨"structured", strField_of_lookup _ rfl, ?_⟩
    refine bind_ok_iff.mpr ⟨isError, boolField_of_lookup _ rfl, ?_⟩
    exact bind_ok_iff.mpr ⟨source, strField_of_lookup _ rfl, rfl⟩
  | unrecorded => exact bind_ok_iff.mpr ⟨"unrecorded", strField_of_lookup _ rfl, rfl⟩

/-- A reference to a tool call is read back, resolved or not. -/
theorem callRefFromWireJson_to (ctx : String) (call : CallRef) :
    callRefFromWireJson ctx (callRefToWireJson call) = .ok call := by
  cases call with
  | resolved entry block =>
    refine bind_ok_iff.mpr ⟨"resolved", strField_of_lookup _ rfl, ?_⟩
    refine bind_ok_iff.mpr ⟨entry, natField_of_lookup _ rfl, ?_⟩
    exact bind_ok_iff.mpr ⟨block, natField_of_lookup _ rfl, rfl⟩
  | unresolved rawId note =>
    refine bind_ok_iff.mpr ⟨"unresolved", strField_of_lookup _ ?_, ?_⟩
    · simp [List.lookup_append, List.lookup_cons]
    refine bind_ok_iff.mpr ⟨rawId, optStrField_of_lookup _ ?_, ?_⟩
    · simp [List.lookup_append, List.lookup_cons]
    refine bind_ok_iff.mpr ⟨note, strField_of_lookup _ ?_, rfl⟩
    simp [List.lookup_append]

/-- A format label that is no known format stands for itself. -/
theorem eq_of_formatFromWireString_other {label name : String}
    (h : formatFromWireString label = .other name) : name = label := by
  unfold formatFromWireString at h
  split at h
  case h_9 =>
    cases h
    rfl
  all_goals cases h

/-- A label stands for its format, unless it is an open label that is marked as one. -/
theorem format_roundTrip (format : Format) :
    (if formatNeedsOtherMarker format = true then Format.other (formatToWireString format)
      else formatFromWireString (formatToWireString format)) = format := by
  cases format with
  | other name =>
    unfold formatNeedsOtherMarker formatToWireString
    dsimp only
    split
    · rfl
    next hmarker =>
      cases hlabel : formatFromWireString name with
      | other name' => rw [eq_of_formatFromWireString_other hlabel]
      | _ =>
        rw [hlabel] at hmarker
        exact absurd rfl hmarker
  | _ => rfl

/-- An assumption label that is no known kind stands for itself. -/
theorem eq_of_assumptionKindFromWireString_other {label name : String}
    (h : assumptionKindFromWireString label = .other name) : name = label := by
  unfold assumptionKindFromWireString at h
  split at h
  case h_10 =>
    cases h
    rfl
  all_goals cases h

/-- An assumption kind is read back. The marker tells an unknown kind from a known kind that has
the same label. -/
theorem assumptionKind_roundTrip (kind : AssumptionKind) :
    (if assumptionKindNeedsOtherMarker kind = true then
        AssumptionKind.other (assumptionKindToWireString kind)
      else assumptionKindFromWireString (assumptionKindToWireString kind)) = kind := by
  cases kind with
  | other name =>
    unfold assumptionKindNeedsOtherMarker assumptionKindToWireString
    dsimp only
    split
    · rfl
    next hmarker =>
      cases hlabel : assumptionKindFromWireString name with
      | other name' => rw [eq_of_assumptionKindFromWireString_other hlabel]
      | _ =>
        rw [hlabel] at hmarker
        exact absurd rfl hmarker
  | _ => rfl

/-- An origin is read back, its raw record included. -/
theorem originFromWireJson_to (ctx : String) (o : Origin) :
    originFromWireJson ctx (originToWireJson o) = .ok o := by
  obtain ⟨value, hread, hvalue⟩ : ∃ value,
      optBoolField ctx (originToWireJson o) "formatOther" = .ok value ∧
        value.getD false = formatNeedsOtherMarker o.format :=
    optBoolField_of_lookup ctx (by simp [List.lookup_append, List.lookup_cons])
  have hextras : ((originToWireJson o).getObjVal? "extras").toOption = o.extras := by
    change oobj (originToWireJson o) "extras" = o.extras
    unfold originToWireJson
    simp [List.lookup_append, List.lookup_cons]
  refine bind_ok_iff.mpr ⟨formatToWireString o.format, strField_of_lookup _ ?_, ?_⟩
  · simp [List.lookup_append, List.lookup_cons]
  refine bind_ok_iff.mpr ⟨value, hread, ?_⟩
  refine bind_ok_iff.mpr ⟨o.sourceRef, strField_of_lookup _ ?_, ?_⟩
  · simp [List.lookup_append]
  refine bind_ok_iff.mpr ⟨o.rawId, optStrField_of_lookup _ ?_, ?_⟩
  · simp [List.lookup_append, List.lookup_cons]
  rw [hextras, hvalue, format_roundTrip]
  rfl

/-! ### Threads -/

/-- A thread kind is read back. -/
theorem threadKindFromWireJson_to (ctx : String) (kind : ThreadKind) :
    threadKindFromWireJson ctx (threadKindToWireJson kind) = .ok kind := by
  cases kind with
  | main => exact bind_ok_iff.mpr ⟨"main", strField_of_lookup _ rfl, rfl⟩
  | sidechain anchor =>
    refine bind_ok_iff.mpr ⟨"sidechain", strField_of_lookup _ rfl, ?_⟩
    refine bind_ok_iff.mpr ⟨callRefToWireJson anchor, objField_of_lookup _ rfl, ?_⟩
    exact bind_ok_iff.mpr ⟨anchor, callRefFromWireJson_to _ anchor, rfl⟩
  | detached note =>
    refine bind_ok_iff.mpr ⟨"detached", strField_of_lookup _ rfl, ?_⟩
    exact bind_ok_iff.mpr ⟨note, strField_of_lookup _ rfl, rfl⟩

/-- An element that states its position passes the check. -/
theorem requireIndex_of_lookup {members : List (String × Json)} (ctx : String) {i : Nat}
    (h : members.reverse.lookup "index" = some (.str (toString i))) :
    requireIndex ctx i (Json.mkObj members) = .ok () := by
  refine bind_ok_iff.mpr ⟨i, natField_of_lookup _ h, ?_⟩
  rw [if_pos (beq_self_eq_true i)]
  rfl

/-- A thread is read back at the place it was written for. -/
theorem threadFromWireJson_to (i : Nat) (th : Thread) :
    threadFromWireJson i (threadToWireJson i th) = .ok th := by
  refine bind_ok_iff.mpr ⟨(), requireIndex_of_lookup _ ?_, ?_⟩
  · simp [List.lookup_append, List.lookup_cons]
  refine bind_ok_iff.mpr ⟨threadKindToWireJson th.kind, objField_of_lookup _ ?_, ?_⟩
  · simp [List.lookup_append]
  refine bind_ok_iff.mpr ⟨th.kind, threadKindFromWireJson_to _ th.kind, ?_⟩
  refine bind_ok_iff.mpr ⟨th.label, optStrField_of_lookup _ ?_, rfl⟩
  simp [List.lookup_append, List.lookup_cons]

/-! ### Lists -/

/-- A list whose elements are written with their positions is read back when each element is. -/
theorem mapM_zipIdx_written {α : Type} (write : α → Nat → Json)
    (read : Json × Nat → Except String α) (h : ∀ a i, read (write a i, i) = .ok a)
    (as : List α) : ∀ n : Nat,
      (((as.zipIdx n).map fun p => write p.1 p.2).zipIdx n).mapM read = .ok as := by
  induction as with
  | nil => exact fun n => rfl
  | cons a as ih =>
    intro n
    rw [List.zipIdx_cons, List.map_cons, List.zipIdx_cons, List.mapM_cons]
    refine bind_ok_iff.mpr ⟨a, h a n, ?_⟩
    exact bind_ok_iff.mpr ⟨as, ih (n + 1), rfl⟩

/-- A list is read back when each of its elements is. -/
theorem parseJsonList_map {α : Type} {write : α → Json} {read : String → Json → Except String α}
    (h : ∀ ctx a, read ctx (write a) = .ok a) (ctx : String) (as : List α) :
    parseJsonList ctx (as.map write) read = .ok as := by
  have hwrite : as.map write = (as.zipIdx 0).map fun p => write p.1 := by
    conv => lhs; rw [← List.zipIdx_map_fst 0 as]
    rw [List.map_map]
    rfl
  rw [hwrite]
  exact mapM_zipIdx_written (fun a _ => write a) (fun p => read s!"{ctx}[{p.2}]" p.1)
    (fun a _ => h _ a) as 0

/-! ### Blocks -/

/-- A user block is read back. -/
theorem userBlockFromWireJson_to (ctx : String) (b : UserBlock) :
    userBlockFromWireJson ctx (userBlockToWireJson b) = .ok b := by
  cases b with
  | text s =>
    refine bind_ok_iff.mpr ⟨"text", strField_of_lookup _ rfl, ?_⟩
    exact bind_ok_iff.mpr ⟨s, strField_of_lookup _ rfl, rfl⟩
  | media mimeType data =>
    refine bind_ok_iff.mpr ⟨"media", strField_of_lookup _ rfl, ?_⟩
    refine bind_ok_iff.mpr ⟨mimeType, strField_of_lookup _ rfl, ?_⟩
    exact bind_ok_iff.mpr ⟨data, strField_of_lookup _ rfl, rfl⟩
  | unmodeled label raw =>
    refine bind_ok_iff.mpr ⟨"unmodeled", strField_of_lookup _ rfl, ?_⟩
    refine bind_ok_iff.mpr ⟨label, strField_of_lookup _ rfl, ?_⟩
    exact bind_ok_iff.mpr ⟨raw, objField_of_lookup _ rfl, rfl⟩

/-- An assistant block is read back. -/
theorem assistantBlockFromWireJson_to (ctx : String) (b : AssistantBlock) :
    assistantBlockFromWireJson ctx (assistantBlockToWireJson b) = .ok b := by
  cases b with
  | text s =>
    refine bind_ok_iff.mpr ⟨"text", strField_of_lookup _ rfl, ?_⟩
    exact bind_ok_iff.mpr ⟨s, strField_of_lookup _ rfl, rfl⟩
  | thinking s signature =>
    refine bind_ok_iff.mpr ⟨"thinking", strField_of_lookup _ ?_, ?_⟩
    · simp [List.lookup_append, List.lookup_cons]
    refine bind_ok_iff.mpr ⟨s, strField_of_lookup _ ?_, ?_⟩
    · simp [List.lookup_append]
    refine bind_ok_iff.mpr ⟨signature, optStrField_of_lookup _ ?_, rfl⟩
    simp [List.lookup_append, List.lookup_cons]
  | toolCall name args rawId =>
    have hcanonical : canonicalFromWireJson ctx
        (assistantBlockToWireJson (.toolCall name args rawId)) = .ok name.canonical := by
      refine bind_ok_iff.mpr ⟨name.canonical.map canonicalToolToWireString,
        optStrField_of_lookup _ ?_, ?_⟩
      · simp [List.lookup_append, List.lookup_cons]
      · cases name.canonical with
        | none => rfl
        | some tool =>
          exact bind_ok_iff.mpr ⟨tool, canonicalToolFromWireString_to _ tool, rfl⟩
    refine bind_ok_iff.mpr ⟨"toolCall", strField_of_lookup _ ?_, ?_⟩
    · simp [List.lookup_append, List.lookup_cons]
    refine bind_ok_iff.mpr ⟨name.canonical, hcanonical, ?_⟩
    refine bind_ok_iff.mpr ⟨name.raw, strField_of_lookup _ ?_, ?_⟩
    · simp [List.lookup_append, List.lookup_cons]
    refine bind_ok_iff.mpr ⟨args, objField_of_lookup _ ?_, ?_⟩
    · simp [List.lookup_append]
    refine bind_ok_iff.mpr ⟨rawId, optStrField_of_lookup _ ?_, rfl⟩
    simp [List.lookup_append, List.lookup_cons]
  | media mimeType data =>
    refine bind_ok_iff.mpr ⟨"media", strField_of_lookup _ rfl, ?_⟩
    refine bind_ok_iff.mpr ⟨mimeType, strField_of_lookup _ rfl, ?_⟩
    exact bind_ok_iff.mpr ⟨data, strField_of_lookup _ rfl, rfl⟩
  | unmodeled label raw =>
    refine bind_ok_iff.mpr ⟨"unmodeled", strField_of_lookup _ rfl, ?_⟩
    refine bind_ok_iff.mpr ⟨label, strField_of_lookup _ rfl, ?_⟩
    exact bind_ok_iff.mpr ⟨raw, objField_of_lookup _ rfl, rfl⟩

/-- An environment block is read back. -/
theorem envBlockFromWireJson_to (ctx : String) (b : EnvBlock) :
    envBlockFromWireJson ctx (envBlockToWireJson b) = .ok b := by
  cases b with
  | toolResult call content error =>
    refine bind_ok_iff.mpr ⟨"toolResult", strField_of_lookup _ rfl, ?_⟩
    refine bind_ok_iff.mpr ⟨content.map userBlockToWireJson, arrField_of_lookup _ rfl, ?_⟩
    refine bind_ok_iff.mpr ⟨content, parseJsonList_map userBlockFromWireJson_to _ content, ?_⟩
    refine bind_ok_iff.mpr ⟨callRefToWireJson call, objField_of_lookup _ rfl, ?_⟩
    refine bind_ok_iff.mpr ⟨call, callRefFromWireJson_to _ call, ?_⟩
    refine bind_ok_iff.mpr ⟨errorSignalToWireJson error, objField_of_lookup _ rfl, ?_⟩
    exact bind_ok_iff.mpr ⟨error, errorSignalFromWireJson_to _ error, rfl⟩
  | unmodeled label raw =>
    refine bind_ok_iff.mpr ⟨"unmodeled", strField_of_lookup _ rfl, ?_⟩
    refine bind_ok_iff.mpr ⟨label, strField_of_lookup _ rfl, ?_⟩
    exact bind_ok_iff.mpr ⟨raw, objField_of_lookup _ rfl, rfl⟩

/-! ### Payloads -/

/-- The coverage of a compaction is read back. -/
theorem compactionCoverageFromWireJson_to (ctx : String) (coverage : CompactionCoverage) :
    compactionCoverageFromWireJson ctx (compactionCoverageToWireJson coverage) =
      .ok coverage := by
  cases coverage with
  | knownPrefix firstKept =>
    refine bind_ok_iff.mpr ⟨"knownPrefix", strField_of_lookup _ rfl, ?_⟩
    exact bind_ok_iff.mpr ⟨firstKept, natField_of_lookup _ rfl, rfl⟩
  | unknownPrefix => exact bind_ok_iff.mpr ⟨"unknownPrefix", strField_of_lookup _ rfl, rfl⟩

/-- A meta event is read back. -/
theorem metaEventFromWireJson_to (ctx : String) (e : MetaEvent) :
    metaEventFromWireJson ctx (metaEventToWireJson e) = .ok e := by
  cases e with
  | modelChange prev next =>
    refine bind_ok_iff.mpr ⟨"modelChange", strField_of_lookup _ ?_, ?_⟩
    · simp [List.lookup_append]
    refine bind_ok_iff.mpr ⟨prev, optStrField_of_lookup _ ?_, ?_⟩
    · simp [List.lookup_append, List.lookup_cons]
    refine bind_ok_iff.mpr ⟨next, optStrField_of_lookup _ ?_, rfl⟩
    simp [List.lookup_append, List.lookup_cons]
  | thinkingLevelChange prev next =>
    refine bind_ok_iff.mpr ⟨"thinkingLevelChange", strField_of_lookup _ ?_, ?_⟩
    · simp [List.lookup_append]
    refine bind_ok_iff.mpr ⟨prev, optStrField_of_lookup _ ?_, ?_⟩
    · simp [List.lookup_append, List.lookup_cons]
    refine bind_ok_iff.mpr ⟨next, optStrField_of_lookup _ ?_, rfl⟩
    simp [List.lookup_append, List.lookup_cons]
  | permissionMode mode =>
    refine bind_ok_iff.mpr ⟨"permissionMode", strField_of_lookup _ rfl, ?_⟩
    exact bind_ok_iff.mpr ⟨mode, strField_of_lookup _ rfl, rfl⟩
  | branchSummary summary =>
    refine bind_ok_iff.mpr ⟨"branchSummary", strField_of_lookup _ rfl, ?_⟩
    exact bind_ok_iff.mpr ⟨summary, strField_of_lookup _ rfl, rfl⟩
  | custom label raw =>
    refine bind_ok_iff.mpr ⟨"custom", strField_of_lookup _ rfl, ?_⟩
    refine bind_ok_iff.mpr ⟨label, strField_of_lookup _ rfl, ?_⟩
    exact bind_ok_iff.mpr ⟨raw, objField_of_lookup _ rfl, rfl⟩

/-- A payload is read back. -/
theorem payloadFromWireJson_to (ctx : String) (payload : Payload) :
    payloadFromWireJson ctx (payloadToWireJson payload) = .ok payload := by
  cases payload with
  | userMsg blocks =>
    refine bind_ok_iff.mpr ⟨"userMsg", strField_of_lookup _ rfl, ?_⟩
    refine bind_ok_iff.mpr ⟨blocks.map userBlockToWireJson, arrField_of_lookup _ rfl, ?_⟩
    exact bind_ok_iff.mpr ⟨blocks, parseJsonList_map userBlockFromWireJson_to _ blocks, rfl⟩
  | assistantMsg blocks =>
    refine bind_ok_iff.mpr ⟨"assistantMsg", strField_of_lookup _ rfl, ?_⟩
    refine bind_ok_iff.mpr ⟨blocks.map assistantBlockToWireJson, arrField_of_lookup _ rfl, ?_⟩
    exact bind_ok_iff.mpr ⟨blocks, parseJsonList_map assistantBlockFromWireJson_to _ blocks, rfl⟩
  | envMsg blocks =>
    refine bind_ok_iff.mpr ⟨"envMsg", strField_of_lookup _ rfl, ?_⟩
    refine bind_ok_iff.mpr ⟨blocks.map envBlockToWireJson, arrField_of_lookup _ rfl, ?_⟩
    exact bind_ok_iff.mpr ⟨blocks, parseJsonList_map envBlockFromWireJson_to _ blocks, rfl⟩
  | otherMsg role blocks =>
    refine bind_ok_iff.mpr ⟨"otherMsg", strField_of_lookup _ rfl, ?_⟩
    refine bind_ok_iff.mpr ⟨blocks.map userBlockToWireJson, arrField_of_lookup _ rfl, ?_⟩
    refine bind_ok_iff.mpr ⟨blocks, parseJsonList_map userBlockFromWireJson_to _ blocks, ?_⟩
    exact bind_ok_iff.mpr ⟨role, strField_of_lookup _ rfl, rfl⟩
  | compaction summary coverage tokensBefore =>
    refine bind_ok_iff.mpr ⟨"compaction", strField_of_lookup _ ?_, ?_⟩
    · simp [List.lookup_append, List.lookup_cons]
    refine bind_ok_iff.mpr ⟨summary, strField_of_lookup _ ?_, ?_⟩
    · simp [List.lookup_append, List.lookup_cons]
    refine bind_ok_iff.mpr ⟨compactionCoverageToWireJson coverage, objField_of_lookup _ ?_, ?_⟩
    · simp [List.lookup_append]
    refine bind_ok_iff.mpr ⟨coverage, compactionCoverageFromWireJson_to _ coverage, ?_⟩
    refine bind_ok_iff.mpr ⟨tokensBefore, optNatField_of_lookup _ ?_, rfl⟩
    simp [List.lookup_append, List.lookup_cons]
  | event e =>
    refine bind_ok_iff.mpr ⟨"event", strField_of_lookup _ rfl, ?_⟩
    refine bind_ok_iff.mpr ⟨metaEventToWireJson e, objField_of_lookup _ rfl, ?_⟩
    exact bind_ok_iff.mpr ⟨e, metaEventFromWireJson_to _ e, rfl⟩

/-! ### Entries -/

/-- A disposition is read back. An absent member stands for the verified one. -/
theorem dispositionFromWireJson_of_lookup {members : List (String × Json)} (ctx : String)
    {disposition : EntryDisposition}
    (h : members.reverse.lookup "disposition" =
      if disposition = .historicalUnverified then some (.str "historicalUnverified") else none) :
    dispositionFromWireJson ctx (Json.mkObj members) = .ok disposition := by
  cases disposition with
  | native =>
    have hread : optStrField ctx (Json.mkObj members) "disposition" = .ok none :=
      optStrField_of_lookup ctx h
    exact bind_ok_iff.mpr ⟨none, hread, rfl⟩
  | historicalUnverified =>
    have hread : optStrField ctx (Json.mkObj members) "disposition" =
        .ok (some "historicalUnverified") := optStrField_of_lookup ctx h
    exact bind_ok_iff.mpr ⟨_, hread, rfl⟩

/-- An entry is read back at the place it was written for. -/
theorem entryFromWireJson_to (i : Nat) (e : Entry) :
    entryFromWireJson i (entryToWireJson i e) = .ok e := by
  refine bind_ok_iff.mpr ⟨(), requireIndex_of_lookup _ ?_, ?_⟩
  · simp [List.lookup_append, List.lookup_cons]
  refine bind_ok_iff.mpr ⟨e.disposition, dispositionFromWireJson_of_lookup _ ?_, ?_⟩
  · simp [List.lookup_append, List.lookup_cons]
  refine bind_ok_iff.mpr ⟨e.parent, optNatField_of_lookup _ ?_, ?_⟩
  · simp [List.lookup_append, List.lookup_cons]
  refine bind_ok_iff.mpr ⟨e.thread, natField_of_lookup _ ?_, ?_⟩
  · simp [List.lookup_append, List.lookup_cons]
  refine bind_ok_iff.mpr ⟨timeToWireJson e.time, objField_of_lookup _ ?_, ?_⟩
  · simp [List.lookup_append, List.lookup_cons]
  refine bind_ok_iff.mpr ⟨e.time, timeFromWireJson_to _ e.time, ?_⟩
  refine bind_ok_iff.mpr ⟨payloadToWireJson e.payload, objField_of_lookup _ ?_, ?_⟩
  · simp [List.lookup_append, List.lookup_cons]
  refine bind_ok_iff.mpr ⟨e.payload, payloadFromWireJson_to _ e.payload, ?_⟩
  refine bind_ok_iff.mpr ⟨originToWireJson e.origin, objField_of_lookup _ ?_, ?_⟩
  · simp [List.lookup_append]
  exact bind_ok_iff.mpr ⟨e.origin, originFromWireJson_to _ e.origin, rfl⟩

/-! ### Transcripts -/

/-- The environment of a session is read back. -/
theorem envInfoFromWireJson_to (ctx : String) (e : EnvInfo) :
    envInfoFromWireJson ctx (envInfoToWireJson e) = .ok e := by
  refine bind_ok_iff.mpr ⟨e.cwd, optStrField_of_lookup _ ?_, ?_⟩
  · simp [List.lookup_append]
  refine bind_ok_iff.mpr ⟨e.model, optStrField_of_lookup _ ?_, ?_⟩
  · simp [List.lookup_append]
  refine bind_ok_iff.mpr ⟨e.provider, optStrField_of_lookup _ ?_, ?_⟩
  · simp [List.lookup_append]
  refine bind_ok_iff.mpr ⟨e.harnessVersion, optStrField_of_lookup _ ?_, ?_⟩
  · simp [List.lookup_append]
  refine bind_ok_iff.mpr ⟨e.instructions, optStrField_of_lookup _ ?_, ?_⟩
  · simp [List.lookup_append]
  refine bind_ok_iff.mpr ⟨e.sessionId, optStrField_of_lookup _ ?_, rfl⟩
  simp [List.lookup_append]

/-- An import note is read back. -/
theorem importNoteFromWireJson_to (ctx : String) (n : ImportNote) :
    importNoteFromWireJson ctx (importNoteToWireJson n) = .ok n := by
  obtain ⟨value, hread, hvalue⟩ : ∃ value,
      optBoolField ctx (importNoteToWireJson n) "kindOther" = .ok value ∧
        value.getD false = assumptionKindNeedsOtherMarker n.kind :=
    optBoolField_of_lookup ctx (by simp [List.lookup_append, List.lookup_cons])
  refine bind_ok_iff.mpr ⟨assumptionKindToWireString n.kind, strField_of_lookup _ ?_, ?_⟩
  · simp [List.lookup_append, List.lookup_cons]
  refine bind_ok_iff.mpr ⟨value, hread, ?_⟩
  refine bind_ok_iff.mpr ⟨n.loc, optStrField_of_lookup _ ?_, ?_⟩
  · simp [List.lookup_append, List.lookup_cons]
  refine bind_ok_iff.mpr ⟨n.detail, strField_of_lookup _ ?_, ?_⟩
  · simp [List.lookup_append]
  rw [hvalue, assumptionKind_roundTrip]
  rfl

/-- **Writing a transcript and reading it again gives the same transcript.** -/
theorem importLoomWireJson_export (t : Transcript) :
    importLoomWireJson (exportLoomWireJson t) = .ok t := by
  let threads := t.threads.zipIdx.map fun p => threadToWireJson p.2 p.1
  let entries := t.entries.zipIdx.map fun p => entryToWireJson p.2 p.1
  let notes := t.importNotes.map importNoteToWireJson
  have hexport : exportLoomWireJson t = Json.mkObj ([("schema", .str "loom.transcript.v0"),
      ("origin", originToWireJson t.origin), ("env", envInfoToWireJson t.env),
      ("threads", .arr threads), ("entries", .arr entries), ("importNotes", .arr notes)] ++
      optNat "activeLeaf" t.activeLeaf) := rfl
  have hthreads : threads.zipIdx.mapM (fun p => threadFromWireJson p.2 p.1) = .ok t.threads :=
    mapM_zipIdx_written (fun th i => threadToWireJson i th) (fun p => threadFromWireJson p.2 p.1)
      (fun th i => threadFromWireJson_to i th) t.threads 0
  have hentries : entries.zipIdx.mapM (fun p => entryFromWireJson p.2 p.1) = .ok t.entries :=
    mapM_zipIdx_written (fun e i => entryToWireJson i e) (fun p => entryFromWireJson p.2 p.1)
      (fun e i => entryFromWireJson_to i e) t.entries 0
  have hnotes : parseJsonList "importNotes" notes importNoteFromWireJson = .ok t.importNotes :=
    parseJsonList_map importNoteFromWireJson_to _ t.importNotes
  rw [hexport]
  refine bind_ok_iff.mpr ⟨"loom.transcript.v0", strField_of_lookup _ ?_, ?_⟩
  · simp [List.lookup_append, List.lookup_cons]
  rw [if_neg (by decide)]
  refine bind_ok_iff.mpr ⟨threads, arrField_of_lookup _ ?_, ?_⟩
  · simp [List.lookup_append, List.lookup_cons]
  refine bind_ok_iff.mpr ⟨t.threads, hthreads, ?_⟩
  refine bind_ok_iff.mpr ⟨entries, arrField_of_lookup _ ?_, ?_⟩
  · simp [List.lookup_append, List.lookup_cons]
  refine bind_ok_iff.mpr ⟨t.entries, hentries, ?_⟩
  refine bind_ok_iff.mpr ⟨notes, arrField_of_lookup _ ?_, ?_⟩
  · simp [List.lookup_append]
  refine bind_ok_iff.mpr ⟨t.importNotes, hnotes, ?_⟩
  refine bind_ok_iff.mpr ⟨envInfoToWireJson t.env, objField_of_lookup _ ?_, ?_⟩
  · simp [List.lookup_append, List.lookup_cons]
  refine bind_ok_iff.mpr ⟨t.env, envInfoFromWireJson_to _ t.env, ?_⟩
  refine bind_ok_iff.mpr ⟨t.activeLeaf, optNatField_of_lookup _ ?_, ?_⟩
  · simp [List.lookup_append, List.lookup_cons]
  refine bind_ok_iff.mpr ⟨originToWireJson t.origin, objField_of_lookup _ ?_, ?_⟩
  · simp [List.lookup_append, List.lookup_cons]
  exact bind_ok_iff.mpr ⟨t.origin, originFromWireJson_to _ t.origin, rfl⟩

end AgentConvert.Wire
