import AgentConvert.Lib.Text
import AgentConvert.Lib.Decimal
import AgentConvert.Json.RoundTrip
import AgentConvert.Subagents.Stitch

/-!
# The metadata of a child

Beside the file of a child stands a file of metadata.  A harness writes at most the id of the call
that spawned the child.  The converter adds an extension that records the thread of the child
exactly: its kind, its anchor in the main session, its label and whether it has the active leaf.

## Main statements

* `readSidecarChildMetadata_claudeMetaJson`, `readSidecarChildMetadata_cursorMetaJson` — what the
  converter wrote about a thread is read back
-/

namespace AgentConvert.Subagents

/-! ### Reading -/

/-- What the metadata of a child tells the importer. -/
structure SidecarChildMetadata where
  toolUseId : Option String := none
  threadKindOverride : Option ThreadKind := none
  threadLabelOverride : Option (Option String) := none
  globalActive : Bool := false
  deriving Repr, DecidableEq

/-- Refuse what is no object. -/
def ensureMetaObject (ctx : String) : Json → Except String Unit
  | .obj _ => pure ()
  | _ => .error s!"{ctx}: expected object"

/-- A string member that may be absent or null. -/
def optionalMetaString (ctx : String) (j : Json) (key : String) :
    Except String (Option String) := do
  ensureMetaObject ctx j
  match j.getObjVal? key with
  | .error _ | .ok .null => pure none
  | .ok (.str value) => pure (some value)
  | .ok _ => .error s!"{ctx}.{key}: expected string or null"

/-- Whether a member is there. -/
def metaHasField (j : Json) (key : String) : Bool :=
  match j.getObjVal? key with
  | .ok _ => true
  | .error _ => false

/-- A member that must be there. -/
def requiredMetaJson (ctx : String) (j : Json) (key : String) : Except String Json :=
  match j.getObjVal? key with
  | .ok value => .ok value
  | .error _ => .error s!"{ctx}: missing required field '{key}'"

/-- A string member that must be there. -/
def requiredMetaString (ctx : String) (j : Json) (key : String) : Except String String := do
  let value ← requiredMetaJson ctx j key
  match value.getStr? with
  | .ok value => pure value
  | .error _ => .error s!"{ctx}.{key}: expected string"

/-- A natural number, or a text that is one. -/
def requiredMetaNat (ctx : String) (j : Json) (key : String) : Except String Nat := do
  let value ← requiredMetaJson ctx j key
  match value.getNat? with
  | .ok number => pure number
  | .error _ =>
    match value.getStr? with
    | .ok text =>
      match Text.toNat? text with
      | some number => pure number
      | none => .error s!"{ctx}.{key}: expected natural-number string"
    | .error _ => .error s!"{ctx}.{key}: expected natural number or string"

/-- The label, which may be recorded as absent. -/
def metaLabel (ctx : String) (extension : Json) : Except String (Option String) := do
  let value ← requiredMetaJson ctx extension "label"
  match value with
  | .null => pure none
  | value =>
    match value.getStr? with
    | .ok text => pure (some text)
    | .error _ => .error s!"{ctx}.label: expected string or null"

/-- The kind of the thread.  The fields of the one kind must not stand beside the other. -/
def metaKind (ctx : String) (extension : Json) (toolUseId : Option String) :
    Except String ThreadKind := do
  let kindLabel ← requiredMetaString ctx extension "threadKind"
  match kindLabel with
  | "sidechain" =>
    if metaHasField extension "detachedReason" then
      .error s!"{ctx}: sidechain metadata cannot contain detachedReason"
    else do
      let entry ← requiredMetaNat ctx extension "anchorEntry"
      let block ← requiredMetaNat ctx extension "anchorBlock"
      pure (.sidechain (.resolved entry block))
  | "detached" =>
    if metaHasField extension "anchorEntry" || metaHasField extension "anchorBlock" then
      .error s!"{ctx}: detached metadata cannot contain anchorEntry or anchorBlock"
    else if toolUseId.isSome then
      .error s!"{ctx}: detached metadata cannot contain toolUseId"
    else do
      let reason ← requiredMetaString ctx extension "detachedReason"
      pure (.detached reason)
  | other => .error s!"{ctx}: unsupported threadKind '{other}'"

/-- Whether the child holds the active leaf. -/
def metaActive (ctx : String) (extension : Json) : Except String Bool := do
  let value ← requiredMetaJson ctx extension "globalActive"
  match value.getBool? with
  | .ok value => pure value
  | .error _ => .error s!"{ctx}.globalActive: expected boolean"

/-- The extension of the converter: a strict record. -/
def extensionMetadata (ctx : String) (extension : Json) (toolUseId : Option String) :
    Except String SidecarChildMetadata := do
  ensureMetaObject ctx extension
  let protocol ← requiredMetaString ctx extension "protocol"
  if protocol != "agent-convert.sidecar-child.v1" then
    .error s!"{ctx}: unsupported protocol '{protocol}'"
  else do
    let label ← metaLabel ctx extension
    let kind ← metaKind ctx extension toolUseId
    let active ← metaActive ctx extension
    pure {
      toolUseId
      threadKindOverride := some kind
      threadLabelOverride := some label
      globalActive := active }

/-- The metadata of a child that the converter wrote. -/
def generatedChildMetadata (root : Json) : Except String (Option SidecarChildMetadata) := do
  ensureMetaObject "sidecar metadata" root
  let toolUseId ← optionalMetaString "sidecar metadata" root "toolUseId"
  let description ← optionalMetaString "sidecar metadata" root "description"
  match root.getObjVal? "_agentConvert" with
  | .error _ => pure (some { toolUseId, threadLabelOverride := description.map some })
  | .ok extension => do
    let metadata ← extensionMetadata "sidecar metadata._agentConvert" extension toolUseId
    pure (some metadata)

/-- The metadata of a child, if it has a file of them. -/
def readSidecarChildMetadata (metaPath : String) (file : Option String) :
    Except String SidecarChildMetadata :=
  match file with
  | none => .ok {}
  | some text =>
    match Json.parse text with
    | .error error => .error s!"{metaPath}: malformed JSON: {error}"
    | .ok root =>
      match generatedChildMetadata root with
      | .error error => .error s!"{metaPath}: {error}"
      | .ok metadata => .ok (metadata.getD {})

/-! ### Writing -/

/-- The members that record the kind of the thread. -/
def kindMembers : ThreadKind → List (String × Json)
  | .sidechain (.resolved entry block) => [
      ("threadKind", .str "sidechain"),
      ("anchorEntry", .str (toString entry)),
      ("anchorBlock", .str (toString block))]
  | .sidechain (.unresolved _ note) => [
      ("threadKind", .str "detached"),
      ("detachedReason", .str s!"unresolved source anchor: {note}")]
  | .detached note => [
      ("threadKind", .str "detached"),
      ("detachedReason", .str note)]
  | .main => [
      ("threadKind", .str "detached"),
      ("detachedReason", .str "invalid additional main thread")]

/-- How the anchor was found, if there is one. -/
def encodingMembers (kind : ThreadKind) (anchorEncoding : Option String) :
    List (String × Json) :=
  match kind, anchorEncoding with
  | .sidechain (.resolved _ _), some encoding => [("anchorEncoding", .str encoding)]
  | _, _ => []

/-- A label, or null. -/
def labelJson : Option String → Json
  | some value => .str value
  | none => .null

/-- The members of the extension: the protocol, the label, the activity and the kind. -/
def exactMembers (th : Thread) (globalActive : Bool) (anchorEncoding : Option String) :
    List (String × Json) := [
    ("protocol", .str "agent-convert.sidecar-child.v1"),
    ("label", labelJson th.label),
    ("globalActive", .bool globalActive)] ++
  kindMembers th.kind ++ encodingMembers th.kind anchorEncoding

/-- The extension of the converter. -/
def exactSidecarThreadJson (th : Thread) (globalActive : Bool)
    (anchorEncoding : Option String := none) : Json :=
  Json.mkObj (exactMembers th globalActive anchorEncoding)

/-- The id of the spawning call, as a member. -/
def toolUseMember : Option String → List (String × Json)
  | some id => [("toolUseId", .str id)]
  | none => []

/-- The members that mark a detached thread for Claude Code. -/
def detachedMembers : ThreadKind → List (String × Json)
  | .detached note => [("detached", .bool true), ("note", .str note)]
  | _ => []

/-- How a Claude anchor was found. -/
def claudeAnchorEncoding (kind : ThreadKind) (nativeAnchor : Bool) : Option String :=
  match kind with
  | .sidechain (.resolved _ _) =>
    some (if nativeAnchor then "native-tool-use" else "historical-carrier")
  | _ => none

/-- The metadata that is written beside a Claude Code child. -/
def claudeMetaJson (agentId : String) (th : Thread) (toolUseId : Option String)
    (globalActive nativeAnchor : Bool) : Json :=
  Json.mkObj ([
    ("agentType", .str "loom-export"),
    ("description", .str (th.label.getD agentId)),
    ("spawnDepth", .str "1"),
    ("_agentConvert", exactSidecarThreadJson th globalActive
      (claudeAnchorEncoding th.kind nativeAnchor))] ++
    toolUseMember (if nativeAnchor then toolUseId else none) ++ detachedMembers th.kind)

/-- The metadata that is written beside a Cursor child. -/
def cursorMetaJson (th : Thread) (toolUseId : Option String) (globalActive : Bool) : Json :=
  Json.mkObj ([("_agentConvert", exactSidecarThreadJson th globalActive)] ++
    toolUseMember toolUseId)

/-! ### What is written can be parsed -/

section Compositional

variable {P : Json → Prop} (hP : Json.Compositional P)

include hP

/-- The members of a kind are plain strings and objects. -/
theorem everyMember_kindMembers (kind : ThreadKind) : Json.EveryMember P (kindMembers kind) := by
  cases kind with
  | main => exact .cons (hP.str _) (.cons (hP.str _) .nil)
  | detached note => exact .cons (hP.str _) (.cons (hP.str _) .nil)
  | sidechain anchor =>
    cases anchor with
    | unresolved rawId note => exact .cons (hP.str _) (.cons (hP.str _) .nil)
    | resolved entry block =>
      exact .cons (hP.str _) (.cons (hP.str _) (.cons (hP.str _) .nil))

theorem everyMember_encodingMembers (kind : ThreadKind) (anchorEncoding : Option String) :
    Json.EveryMember P (encodingMembers kind anchorEncoding) := by
  unfold encodingMembers
  split
  · exact .cons (hP.str _) .nil
  · exact .nil

theorem everyMember_toolUseMember (toolUseId : Option String) :
    Json.EveryMember P (toolUseMember toolUseId) := by
  cases toolUseId with
  | none => exact .nil
  | some id => exact .cons (hP.str id) .nil

theorem everyMember_detachedMembers (kind : ThreadKind) :
    Json.EveryMember P (detachedMembers kind) := by
  unfold detachedMembers
  split
  · exact .cons (hP.bool _) (.cons (hP.str _) .nil)
  · exact .nil

/-- What holds of plain values holds of the whole extension. -/
theorem exactSidecarThreadJson_of (hnull : P .null) (th : Thread) (globalActive : Bool)
    (anchorEncoding : Option String) :
    P (exactSidecarThreadJson th globalActive anchorEncoding) := by
  have hlabel : P (labelJson th.label) := by
    cases th.label with
    | none => exact hnull
    | some label => exact hP.str label
  exact hP.mkObj (.append (.append (.cons (hP.str _) (.cons hlabel (.cons (hP.bool _) .nil)))
    (everyMember_kindMembers hP _)) (everyMember_encodingMembers hP _ _))

/-- What holds of plain values holds of the metadata of a Claude Code child. -/
theorem claudeMetaJson_of (hnull : P .null) (agentId : String) (th : Thread)
    (toolUseId : Option String) (globalActive nativeAnchor : Bool) :
    P (claudeMetaJson agentId th toolUseId globalActive nativeAnchor) :=
  hP.mkObj (.append (.append (.cons (hP.str _) (.cons (hP.str _) (.cons (hP.str _)
    (.cons (exactSidecarThreadJson_of hP hnull th globalActive _) .nil))))
    (everyMember_toolUseMember hP _)) (everyMember_detachedMembers hP _))

/-- What holds of plain values holds of the metadata of a Cursor child. -/
theorem cursorMetaJson_of (hnull : P .null) (th : Thread) (toolUseId : Option String)
    (globalActive : Bool) : P (cursorMetaJson th toolUseId globalActive) :=
  hP.mkObj (.append (.cons (exactSidecarThreadJson_of hP hnull th globalActive none) .nil)
    (everyMember_toolUseMember hP _))

end Compositional

/-- A value without numbers is read from its text as it is. -/
theorem parse_compress_of {j : Json}
    (h : ∀ P : Json → Prop, Json.Compositional P → P .null → P j) :
    Json.parse j.compress = .ok j := by
  have hordered := h Json.Ordered Json.compositional_ordered trivial
  have hprintable := h Json.Printable Json.compositional_printable trivial
  have hnormal := h (fun v => v.normal = v) Json.compositional_normal rfl
  rw [Json.parse_compress hordered hprintable, hnormal]

/-! ### What is written is read back -/

/-- The kind of thread that is recorded. -/
def exactKind : ThreadKind → ThreadKind
  | .sidechain (.resolved entry block) => .sidechain (.resolved entry block)
  | .sidechain (.unresolved _ note) => .detached s!"unresolved source anchor: {note}"
  | .detached note => .detached note
  | .main => .detached "invalid additional main thread"

/-- A member is read as the last one written under its key. -/
theorem getObjVal?_mkObj (members : List (String × Json)) (k : String) :
    (Json.mkObj members).getObjVal? k =
      match members.reverse.lookup k with
      | some v => .ok v
      | none => .error s!"property not found: {k}" := by
  have hlookup := Json.lookup_foldl_insertMember k members []
  rw [List.lookup_nil, Option.or_none] at hlookup
  rw [← hlookup]
  rfl

/-- A key that no member has is not found. -/
theorem lookup_reverse_eq_none {members : List (String × Json)} {k : String}
    (h : ∀ member ∈ members, member.1 ≠ k) : members.reverse.lookup k = none := by
  rw [List.lookup_eq_none_iff]
  intro member hmember
  exact bne_iff_ne.mpr (h member (List.mem_reverse.mp hmember)).symm

section Lookup

variable (members : List (String × Json)) (ctx k : String)

/-- A required member is read when it was written. -/
theorem requiredMetaJson_mkObj {v : Json} (h : members.reverse.lookup k = some v) :
    requiredMetaJson ctx (Json.mkObj members) k = .ok v := by
  unfold requiredMetaJson
  rw [getObjVal?_mkObj, h]

/-- A required string is read when it was written. -/
theorem requiredMetaString_mkObj {s : String}
    (h : members.reverse.lookup k = some (.str s)) :
    requiredMetaString ctx (Json.mkObj members) k = .ok s := by
  unfold requiredMetaString
  rw [requiredMetaJson_mkObj members ctx k h]
  rfl

/-- The decimal text of a number is read as the number. -/
theorem requiredMetaNat_mkObj {n : Nat}
    (h : members.reverse.lookup k = some (.str (toString n))) :
    requiredMetaNat ctx (Json.mkObj members) k = .ok n := by
  unfold requiredMetaNat
  rw [requiredMetaJson_mkObj members ctx k h]
  show (match Text.toNat? (toString n) with
    | some number => pure number
    | none => .error s!"{ctx}.{k}: expected natural-number string") = Except.ok n
  rw [Text.toNat?_toString]
  rfl

/-- A member is there when it was written. -/
theorem metaHasField_mkObj :
    metaHasField (Json.mkObj members) k = (members.reverse.lookup k).isSome := by
  unfold metaHasField
  rw [getObjVal?_mkObj]
  cases members.reverse.lookup k <;> rfl

/-- An optional string is read as it was written, absent or not. -/
theorem optionalMetaString_mkObj {s : Option String}
    (h : members.reverse.lookup k = s.map Json.str) :
    optionalMetaString ctx (Json.mkObj members) k = .ok s := by
  have hvalue := getObjVal?_mkObj members k
  rw [h] at hvalue
  unfold optionalMetaString
  cases s with
  | none =>
    rw [hvalue]
    rfl
  | some s =>
    rw [hvalue]
    rfl

end Lookup

section Exact

variable (ctx : String) (th : Thread) (globalActive : Bool) (anchorEncoding : Option String)

/-- The members that every extension has. -/
theorem lookup_exactMembers (k : String) :
    (exactMembers th globalActive anchorEncoding).reverse.lookup k =
      (((encodingMembers th.kind anchorEncoding).reverse.lookup k).or
        ((kindMembers th.kind).reverse.lookup k)).or
      ([("globalActive", Json.bool globalActive), ("label", labelJson th.label),
        ("protocol", .str "agent-convert.sidecar-child.v1")].lookup k) := by
  unfold exactMembers
  rw [List.reverse_append, List.reverse_append, List.lookup_append, List.lookup_append]
  rw [Option.or_assoc]
  rfl

/-- The members that depend on the kind of the thread. -/
theorem lookup_kindMembers_eq_none {k : String}
    (h : k ∉ ["threadKind", "anchorEntry", "anchorBlock", "detachedReason"]) :
    (kindMembers th.kind).reverse.lookup k = none := by
  refine lookup_reverse_eq_none fun member hmember hkey => h ?_
  unfold kindMembers at hmember
  rw [← hkey]
  split at hmember <;> (simp at hmember; rcases hmember with rfl | rfl | rfl <;> simp)

theorem lookup_encodingMembers_eq_none {k : String} (h : k ≠ "anchorEncoding") :
    (encodingMembers th.kind anchorEncoding).reverse.lookup k = none := by
  refine lookup_reverse_eq_none fun member hmember hkey => h ?_
  unfold encodingMembers at hmember
  split at hmember
  · rw [← hkey, List.mem_singleton.mp hmember]
  · cases hmember

/-- A member that does not depend on the kind of the thread. -/
theorem lookup_exactMembers_fixed {k : String} (h : k ∉ ["threadKind", "anchorEntry",
    "anchorBlock", "detachedReason"]) (hencoding : k ≠ "anchorEncoding") :
    (exactMembers th globalActive anchorEncoding).reverse.lookup k =
      [("globalActive", Json.bool globalActive), ("label", labelJson th.label),
        ("protocol", .str "agent-convert.sidecar-child.v1")].lookup k := by
  rw [lookup_exactMembers, lookup_kindMembers_eq_none th h,
    lookup_encodingMembers_eq_none th anchorEncoding hencoding]
  rfl

/-- A member that records the kind of the thread. -/
theorem lookup_exactMembers_kind {k : String} (hencoding : k ≠ "anchorEncoding")
    (h : [("globalActive", Json.bool globalActive), ("label", labelJson th.label),
      ("protocol", .str "agent-convert.sidecar-child.v1")].lookup k = none) :
    (exactMembers th globalActive anchorEncoding).reverse.lookup k =
      (kindMembers th.kind).reverse.lookup k := by
  rw [lookup_exactMembers, lookup_encodingMembers_eq_none th anchorEncoding hencoding, h,
    Option.none_or, Option.or_none]

/-- The label is read back. -/
theorem metaLabel_exact :
    metaLabel ctx (exactSidecarThreadJson th globalActive anchorEncoding) = .ok th.label := by
  have hlookup := lookup_exactMembers_fixed th globalActive anchorEncoding (k := "label")
    (by decide) (by decide)
  unfold metaLabel exactSidecarThreadJson
  rw [requiredMetaJson_mkObj _ ctx "label" hlookup]
  cases th.label <;> rfl

/-- The activity is read back. -/
theorem metaActive_exact :
    metaActive ctx (exactSidecarThreadJson th globalActive anchorEncoding) = .ok globalActive := by
  have hlookup := lookup_exactMembers_fixed th globalActive anchorEncoding (k := "globalActive")
    (by decide) (by decide)
  unfold metaActive exactSidecarThreadJson
  rw [requiredMetaJson_mkObj _ ctx "globalActive" hlookup]
  rfl

/-- The kind that is recorded is read back, unless an id stands beside a detached thread. -/
theorem metaKind_exact {toolUseId : Option String}
    (hid : ∀ note, exactKind th.kind = .detached note → toolUseId = none) :
    metaKind ctx (exactSidecarThreadJson th globalActive anchorEncoding) toolUseId =
      .ok (exactKind th.kind) := by
  have hkind := lookup_exactMembers_kind th globalActive anchorEncoding
    (k := "threadKind") (by decide) rfl
  have hentry := lookup_exactMembers_kind th globalActive anchorEncoding
    (k := "anchorEntry") (by decide) rfl
  have hblock := lookup_exactMembers_kind th globalActive anchorEncoding
    (k := "anchorBlock") (by decide) rfl
  have hreason := lookup_exactMembers_kind th globalActive anchorEncoding
    (k := "detachedReason") (by decide) rfl
  have hdetached : ∀ note, exactKind th.kind = .detached note →
      kindMembers th.kind = [("threadKind", .str "detached"), ("detachedReason", .str note)] →
      metaKind ctx (exactSidecarThreadJson th globalActive anchorEncoding) toolUseId =
        .ok (exactKind th.kind) := by
    intro note hexact hmembers
    rw [hmembers] at hkind hentry hblock hreason
    unfold metaKind exactSidecarThreadJson
    rw [requiredMetaString_mkObj _ ctx "threadKind" hkind, metaHasField_mkObj _ "anchorEntry",
      hentry, metaHasField_mkObj _ "anchorBlock", hblock,
      requiredMetaString_mkObj _ ctx "detachedReason" hreason, hid note hexact, hexact]
    rfl
  cases hsource : th.kind with
  | main => exact hsource ▸ hdetached _ (by rw [hsource]; rfl) (by rw [hsource]; rfl)
  | detached note => exact hsource ▸ hdetached note (by rw [hsource]; rfl) (by rw [hsource]; rfl)
  | sidechain anchor =>
    cases anchor with
    | unresolved rawId note =>
      exact hsource ▸ hdetached _ (by rw [hsource]; rfl) (by rw [hsource]; rfl)
    | resolved entry block =>
      rw [hsource] at hkind hentry hblock hreason
      unfold metaKind exactSidecarThreadJson
      rw [requiredMetaString_mkObj _ ctx "threadKind" hkind, metaHasField_mkObj _ "detachedReason",
        hreason, requiredMetaNat_mkObj _ ctx "anchorEntry" hentry,
        requiredMetaNat_mkObj _ ctx "anchorBlock" hblock]
      rfl

/-- **The extension is read back.** -/
theorem extensionMetadata_exact {toolUseId : Option String}
    (hid : ∀ note, exactKind th.kind = .detached note → toolUseId = none) :
    extensionMetadata ctx (exactSidecarThreadJson th globalActive anchorEncoding) toolUseId =
      .ok { toolUseId
            threadKindOverride := some (exactKind th.kind)
            threadLabelOverride := some th.label
            globalActive } := by
  have hlookup := lookup_exactMembers_fixed th globalActive anchorEncoding (k := "protocol")
    (by decide) (by decide)
  have hprotocol : requiredMetaString ctx (exactSidecarThreadJson th globalActive anchorEncoding)
      "protocol" = .ok "agent-convert.sidecar-child.v1" :=
    requiredMetaString_mkObj _ ctx "protocol" hlookup
  have hobject : ensureMetaObject ctx (exactSidecarThreadJson th globalActive anchorEncoding) =
      .ok () := rfl
  unfold extensionMetadata
  rw [hobject, hprotocol, metaLabel_exact, metaKind_exact ctx th globalActive anchorEncoding hid,
    metaActive_exact]
  rfl

end Exact

/-- Metadata with the extension. -/
theorem generatedChildMetadata_mkObj {members : List (String × Json)} {th : Thread}
    {globalActive : Bool} {anchorEncoding toolUseId description : Option String}
    (hid : members.reverse.lookup "toolUseId" = toolUseId.map Json.str)
    (hdescription : members.reverse.lookup "description" = description.map Json.str)
    (hextension : members.reverse.lookup "_agentConvert" =
      some (exactSidecarThreadJson th globalActive anchorEncoding))
    (hdetached : ∀ note, exactKind th.kind = .detached note → toolUseId = none) :
    generatedChildMetadata (Json.mkObj members) =
      .ok (some { toolUseId
                  threadKindOverride := some (exactKind th.kind)
                  threadLabelOverride := some th.label
                  globalActive }) := by
  have hobject : ensureMetaObject "sidecar metadata" (Json.mkObj members) = .ok () := rfl
  have hvalue := getObjVal?_mkObj members "_agentConvert"
  rw [hextension] at hvalue
  unfold generatedChildMetadata
  rw [hobject, optionalMetaString_mkObj members _ "toolUseId" hid,
    optionalMetaString_mkObj members _ "description" hdescription, hvalue]
  show (extensionMetadata _ _ toolUseId >>= fun metadata => pure (some metadata)) = _
  rw [extensionMetadata_exact _ th globalActive anchorEncoding hdetached]
  rfl

theorem lookup_toolUseMember (toolUseId : Option String) :
    (toolUseMember toolUseId).reverse.lookup "toolUseId" = toolUseId.map Json.str := by
  cases toolUseId with
  | none => rfl
  | some id => rfl

theorem lookup_toolUseMember_of_ne {k : String} (h : k ≠ "toolUseId") (toolUseId : Option String) :
    (toolUseMember toolUseId).reverse.lookup k = none := by
  refine lookup_reverse_eq_none fun member hmember hkey => h ?_
  cases toolUseId with
  | none => cases hmember
  | some id => rw [← hkey, List.mem_singleton.mp hmember]

theorem lookup_detachedMembers_of_notMem {k : String} (h : k ∉ ["detached", "note"])
    (kind : ThreadKind) : (detachedMembers kind).reverse.lookup k = none := by
  refine lookup_reverse_eq_none fun member hmember hkey => h ?_
  unfold detachedMembers at hmember
  rw [← hkey]
  split at hmember
  · simp at hmember
    rcases hmember with rfl | rfl <;> simp
  · cases hmember

/-- A file is read as what its text stands for. -/
theorem readSidecarChildMetadata_some {metaPath text : String} {root : Json}
    {metadata : SidecarChildMetadata} (hparse : Json.parse text = .ok root)
    (hread : generatedChildMetadata root = .ok (some metadata)) :
    readSidecarChildMetadata metaPath (some text) = .ok metadata := by
  unfold readSidecarChildMetadata
  dsimp only
  rw [hparse]
  dsimp only
  rw [hread]
  rfl

/-- **What was written about a Claude thread is read back.**  The id of the spawning call is
recorded when the anchor was found by it. -/
theorem readSidecarChildMetadata_claudeMetaJson {metaPath agentId : String} {th : Thread}
    {toolUseId : Option String} {globalActive nativeAnchor : Bool}
    (hdetached : ∀ note, exactKind th.kind = .detached note →
      (if nativeAnchor then toolUseId else none) = none) :
    readSidecarChildMetadata metaPath
        (some (claudeMetaJson agentId th toolUseId globalActive nativeAnchor).compress) =
      .ok { toolUseId := if nativeAnchor then toolUseId else none
            threadKindOverride := some (exactKind th.kind)
            threadLabelOverride := some th.label
            globalActive } := by
  refine readSidecarChildMetadata_some
    (parse_compress_of fun P hP hnull => claudeMetaJson_of hP hnull _ _ _ _ _) ?_
  unfold claudeMetaJson
  refine @generatedChildMetadata_mkObj ([
      ("agentType", .str "loom-export"),
      ("description", .str (th.label.getD agentId)),
      ("spawnDepth", .str "1"),
      ("_agentConvert", exactSidecarThreadJson th globalActive
        (claudeAnchorEncoding th.kind nativeAnchor))] ++
      toolUseMember (if nativeAnchor then toolUseId else none) ++ detachedMembers th.kind)
    th globalActive (claudeAnchorEncoding th.kind nativeAnchor)
    (if nativeAnchor then toolUseId else none) (some (th.label.getD agentId))
    ?_ ?_ ?_ hdetached
  · rw [List.reverse_append, List.lookup_append, lookup_detachedMembers_of_notMem (by decide),
      List.reverse_append, List.lookup_append, lookup_toolUseMember]
    cases (if nativeAnchor then toolUseId else none) <;> rfl
  · rw [List.reverse_append, List.lookup_append, lookup_detachedMembers_of_notMem (by decide),
      List.reverse_append, List.lookup_append, lookup_toolUseMember_of_ne (by decide)]
    rfl
  · rw [List.reverse_append, List.lookup_append, lookup_detachedMembers_of_notMem (by decide),
      List.reverse_append, List.lookup_append, lookup_toolUseMember_of_ne (by decide)]
    rfl

/-- **What was written about a Cursor thread is read back.** -/
theorem readSidecarChildMetadata_cursorMetaJson {metaPath : String} {th : Thread}
    {toolUseId : Option String} {globalActive : Bool}
    (hdetached : ∀ note, exactKind th.kind = .detached note → toolUseId = none) :
    readSidecarChildMetadata metaPath
        (some (cursorMetaJson th toolUseId globalActive).compress) =
      .ok { toolUseId
            threadKindOverride := some (exactKind th.kind)
            threadLabelOverride := some th.label
            globalActive } := by
  refine readSidecarChildMetadata_some
    (parse_compress_of fun P hP hnull => cursorMetaJson_of hP hnull _ _ _) ?_
  unfold cursorMetaJson
  refine @generatedChildMetadata_mkObj
    ([("_agentConvert", exactSidecarThreadJson th globalActive)] ++ toolUseMember toolUseId)
    th globalActive none toolUseId none ?_ ?_ ?_ hdetached
  · rw [List.reverse_append, List.lookup_append, lookup_toolUseMember]
    cases toolUseId <;> rfl
  · rw [List.reverse_append, List.lookup_append, lookup_toolUseMember_of_ne (by decide)]
    rfl
  · rw [List.reverse_append, List.lookup_append, lookup_toolUseMember_of_ne (by decide)]
    rfl

end AgentConvert.Subagents
