import AgentConvert.Loom.WellFormed
import AgentConvert.Pi.Import

/-!
# What Pi records are read into

A native record refers to other records by name: by the id of its parent, the id of the tool call
it answers, or the id of the first entry that a compaction kept.  `parseEntry` keeps these names
and looks nothing up.  This module says so, and says which member of a record names the first
entry kept (`piFirstKept?`, `parseEntry_readFrom`).
-/

namespace AgentConvert.Pi

/-! ### Members that were read -/

/-- A required member that was read is a member of the record. -/
theorem oobj_of_piRequireField {ctx key : String} {j v : Json}
    (h : piRequireField ctx j key = .ok v) : oobj j key = some v := by
  obtain ⟨_, _, h⟩ := bind_ok_iff.mp h
  unfold oobj
  cases hget : j.getObjVal? key with
  | error _ =>
    rw [hget] at h
    cases h
  | ok value =>
    rw [hget] at h
    cases h
    rfl

theorem oobj_of_piRequireObject {ctx key : String} {j v : Json}
    (h : piRequireObject ctx j key = .ok v) : oobj j key = some v := by
  obtain ⟨value, hvalue, h⟩ := bind_ok_iff.mp h
  cases value with
  | obj _ =>
    cases h
    exact oobj_of_piRequireField hvalue
  | null => cases h
  | bool _ => cases h
  | num _ => cases h
  | str _ => cases h
  | arr _ => cases h

/-- A required string that was read is a string member of the record. -/
theorem ostr_of_piRequireString {ctx key s : String} {j : Json}
    (h : piRequireString ctx j key = .ok s) : ostr j key = some s := by
  obtain ⟨value, hvalue, h⟩ := bind_ok_iff.mp h
  cases value with
  | str _ =>
    cases h
    exact ostr_of_oobj (oobj_of_piRequireField hvalue)
  | null => cases h
  | bool _ => cases h
  | num _ => cases h
  | arr _ => cases h
  | obj _ => cases h

theorem ostr_of_piRequireNonemptyString {ctx key s : String} {j : Json}
    (h : piRequireNonemptyString ctx j key = .ok s) : ostr j key = some s := by
  obtain ⟨value, hvalue, h⟩ := bind_ok_iff.mp h
  split at h
  · cases h
  · cases h
    exact ostr_of_piRequireString hvalue

/-- A member that may be missing or null is read as the string it is, if it is one. -/
theorem ostr_of_piOptionalNullableString {ctx key : String} {j : Json} {s? : Option String}
    (h : piOptionalNullableString ctx j key = .ok s?) : ostr j key = s? := by
  obtain ⟨_, _, h⟩ := bind_ok_iff.mp h
  unfold ostr
  split at h
  next hget =>
    cases h
    rw [hget]
    rfl
  next hget =>
    cases h
    rw [hget]
    rfl
  next hget =>
    split at h
    · cases h
    · cases h
      rw [hget]
      rfl
  · cases h

/-! ### The entry a compaction kept -/

/-- The object in which a record speaks of a compaction: the record itself, the value of a
carrier, or the details of a summary that is shown to the model as a message.  An archived
payload is none of them: it has its coverage already. -/
def piCompactionMember? (record : Json) : Option Json :=
  let kind := ostr record "type"
  if kind == some "compaction" then some record
  else if kind == some "custom" && ostr record "customType" == some "loom.pi.carrier" then
    (oobj record "data").bind fun data =>
      if ostr data "kind" == some "compaction" then oobj data "value" else none
  else if kind == some "custom_message" &&
      ostr record "customType" == some "loom.pi.compaction-summary" then
    (oobj record "details").bind fun details => oobj details "compaction"
  else none

/-- The id that a record gives for the first entry a compaction kept. -/
def piFirstKept? (record : Json) : Option String :=
  (piCompactionMember? record).bind fun value => ostr value "firstKeptEntryId"

section FirstKept

variable {record : Json} {kind : String} (htype : ostr record "type" = some kind)

include htype

/-- A compaction record names the first kept entry itself. -/
theorem piFirstKept?_of_compaction (hkind : kind = "compaction") :
    piFirstKept? record = ostr record "firstKeptEntryId" := by
  subst hkind
  unfold piFirstKept? piCompactionMember?
  rw [htype]
  rfl

/-- A carrier names a first kept entry when it carries a compaction. -/
theorem piFirstKept?_of_carrier {data value : Json} {carrierKind : String}
    (hkind : kind = "custom") (hcustom : ostr record "customType" = some "loom.pi.carrier")
    (hdata : oobj record "data" = some data) (hcarrier : ostr data "kind" = some carrierKind)
    (hvalue : oobj data "value" = some value) :
    piFirstKept? record =
      if carrierKind == "compaction" then ostr value "firstKeptEntryId" else none := by
  subst hkind
  have hmember : piCompactionMember? record =
      if carrierKind == "compaction" then some value else none := by
    unfold piCompactionMember?
    rw [htype, hcustom, hdata]
    change (if ostr data "kind" == some "compaction" then oobj data "value" else none) = _
    rw [hcarrier, hvalue]
    rfl
  unfold piFirstKept?
  rw [hmember]
  split
  · rfl
  · rfl

/-- A summary message names the first kept entry in its details. -/
theorem piFirstKept?_of_summary {details value : Json} (hkind : kind = "custom_message")
    (hcustom : ostr record "customType" = some "loom.pi.compaction-summary")
    (hdetails : oobj record "details" = some details)
    (hvalue : oobj details "compaction" = some value) :
    piFirstKept? record = ostr value "firstKeptEntryId" := by
  subst hkind
  unfold piFirstKept? piCompactionMember?
  rw [htype, hcustom, hdetails]
  change (oobj details "compaction").bind _ = _
  rw [hvalue]
  rfl

/-- The other records name no entry. -/
theorem piFirstKept?_eq_none (hcompaction : kind ≠ "compaction")
    (hcarrier : kind = "custom" → ostr record "customType" ≠ some "loom.pi.carrier")
    (hsummary : kind = "custom_message" →
      ostr record "customType" ≠ some "loom.pi.compaction-summary") :
    piFirstKept? record = none := by
  unfold piFirstKept? piCompactionMember?
  simp only [htype, Option.some_beq_some, beq_iff_eq, Bool.and_eq_true]
  rw [if_neg hcompaction, if_neg fun h => hcarrier h.1 h.2, if_neg fun h => hsummary h.1 h.2]
  rfl

end FirstKept

/-! ### What records are read into -/

/-- The references of the entry are still names: the tool result and the coverage of a compaction
are filled in when all entries are read. -/
def NamesOnly (r : RawEntry) : Prop :=
  RefersNowhere r.payload ∧ r.historicalPayloadDirect = false

/-- The fields of an entry before its record type is looked at. -/
def IsBase (id : String) (base : Payload → RawEntry) : Prop :=
  ∀ payload, (base payload).payload = payload ∧ (base payload).historicalPayloadDirect = false ∧
    (base payload).id = id ∧ (base payload).firstKeptEntryId = none

/-- The entry has the id of the record, and names the given entry as the first one kept. -/
def HasIdAndKept (id : String) (kept : Option String) (r : RawEntry) : Prop :=
  r.id = id ∧ piFirstKeptReference r = kept

/-- An entry that speaks of no compaction. -/
def IsPlain (id : String) (r : RawEntry) : Prop := NamesOnly r ∧ HasIdAndKept id none r

/-- What is known of an entry that was read from a record. -/
def ReadFrom (id : String) (record : Json) (r : RawEntry) : Prop :=
  (r.disposition = .native → NamesOnly r) ∧ HasIdAndKept id (piFirstKept? record) r

theorem piFirstKeptReference_eq_none {r : RawEntry} (h : r.firstKeptEntryId = none) :
    piFirstKeptReference r = none := by
  unfold piFirstKeptReference
  split
  · rw [h, ite_self]
  · rfl

section Entry

variable {ctx id : String} {base : Payload → RawEntry} (hbase : IsBase id base)

include hbase

/-- Whatever its payload, the base names no entry as the first one kept. -/
theorem IsBase.keepsNothing (payload : Payload) : HasIdAndKept id none (base payload) := by
  obtain ⟨_, _, hid, hkept⟩ := hbase payload
  exact ⟨hid, piFirstKeptReference_eq_none hkept⟩

/-- The base of a payload that refers nowhere is a plain entry. -/
theorem IsBase.plain {payload : Payload} (h : RefersNowhere payload) :
    IsPlain id (base payload) := by
  obtain ⟨hpayload, hdirect, _⟩ := hbase payload
  refine ⟨?_, hbase.keepsNothing payload⟩
  unfold NamesOnly
  rw [hpayload]
  exact ⟨h, hdirect⟩

/-- The base of a compaction with its first kept entry filled in. -/
theorem IsBase.compaction (summary : String) (tokensBefore : Option Nat)
    (kept : Option String) :
    NamesOnly { base (.compaction summary .unknownPrefix tokensBefore) with
        firstKeptEntryId := kept, tokensBefore } ∧
      HasIdAndKept id kept { base (.compaction summary .unknownPrefix tokensBefore) with
        firstKeptEntryId := kept, tokensBefore } := by
  obtain ⟨hpayload, hdirect, hid, _⟩ := hbase (.compaction summary .unknownPrefix tokensBefore)
  unfold NamesOnly HasIdAndKept piFirstKeptReference
  dsimp only
  rw [hpayload, hdirect]
  exact ⟨⟨rfl, rfl⟩, hid, rfl⟩

/-- A user message keeps its identifier and refers nowhere. -/
theorem parseUserMessage_plain {message : Json} :
    Returns (IsPlain id) (parseUserMessage ctx base message) := by
  refine returns_bind fun _ => returns_bind fun blocks => returns_pure ?_
  exact hbase.plain (show RefersNowhere (.userMsg blocks) from trivial)

/-- An assistant message keeps its identifier and refers nowhere. -/
theorem parseAssistantMessage_plain {message : Json} :
    Returns (IsPlain id) (parseAssistantMessage ctx base message) := by
  refine returns_bind fun _ => returns_bind fun _ => returns_bind fun _ => returns_bind fun _ =>
    returns_bind fun _ => returns_bind fun _ => returns_bind fun _ => returns_bind fun _ =>
    returns_bind fun _ => returns_bind fun _ => returns_bind fun blocks => returns_pure ?_
  exact hbase.plain (show RefersNowhere (.assistantMsg blocks) from trivial)

/-- A tool result keeps its identifier and names no first kept entry. -/
theorem parseToolResultMessage_plain {message : Json} :
    Returns (IsPlain id) (parseToolResultMessage ctx base message) := by
  refine returns_bind fun _ => returns_bind fun _ => returns_bind fun _ => returns_bind fun _ =>
    returns_bind fun _ => returns_bind fun _ => returns_bind fun _ => returns_pure ?_
  exact hbase.plain (show RefersNowhere (.envMsg []) from rfl)

/-- A custom message keeps its identifier and refers nowhere. -/
theorem parseCustomMessage_plain {message : Json} :
    Returns (IsPlain id) (parseCustomMessage ctx base message) := by
  refine returns_bind fun _ => returns_bind fun _ => returns_bind fun blocks =>
    returns_bind fun _ => returns_pure ?_
  exact hbase.plain (show RefersNowhere (.otherMsg "custom" blocks) from trivial)

theorem inertMessage_plain (role : String) (message : Json) (note : ImportNote) :
    IsPlain id (inertMessage base role message note) :=
  hbase.plain (show RefersNowhere (.otherMsg role [.unmodeled role message]) from trivial)

/-- A message of any role speaks of no compaction. -/
theorem parseMessageOfRole_plain {message : Json} {role : String} :
    Returns (IsPlain id) (parseMessageOfRole ctx base message role) := by
  have hinert : ∀ note, Returns (IsPlain id)
      (pure (inertMessage base role message note) : Except String RawEntry) :=
    fun note => returns_pure (inertMessage_plain hbase role message note)
  unfold parseMessageOfRole
  by_cases huser : role == "user"
  · rw [if_pos huser]
    exact parseUserMessage_plain hbase
  rw [if_neg huser]
  by_cases hassistant : role == "assistant"
  · rw [if_pos hassistant]
    exact parseAssistantMessage_plain hbase
  rw [if_neg hassistant]
  by_cases htool : role == "toolResult"
  · rw [if_pos htool]
    exact parseToolResultMessage_plain hbase
  rw [if_neg htool]
  -- The other native roles are kept as they are.
  split
  · exact returns_bind fun _ => hinert _
  split
  · exact returns_bind fun _ => returns_bind fun _ => hinert _
  split
  · exact returns_bind fun _ => returns_bind fun _ => hinert _
  split
  · exact parseCustomMessage_plain hbase
  · exact hinert _

/-- Whatever role a message has, it keeps its identifier and names no first kept entry. -/
theorem parseMessageEntry_plain {j : Json} :
    Returns (IsPlain id) (parseMessageEntry ctx base j) := by
  refine returns_bind fun _ => returns_bind fun _ => returns_bind fun _ =>
    returns_bind fun _ => ?_
  exact parseMessageOfRole_plain hbase

/-- An archived tool result speaks of no compaction. -/
theorem parseToolResultCarrier_keepsNothing {value : Json} :
    Returns (HasIdAndKept id none) (parseToolResultCarrier ctx base value) := by
  have hempty := hbase.keepsNothing (.envMsg [])
  refine returns_bind fun _ => returns_bind fun _ => returns_bind fun _ => returns_bind fun _ =>
    returns_bind fun _ => returns_bind fun _ => returns_bind fun _ => returns_bind fun _ => ?_
  split
  · split
    · exact returns_error _
    · refine returns_bind fun _ => returns_bind fun _ => returns_guard fun _ => ?_
      exact returns_pure hempty
  · exact returns_bind fun _ => returns_bind fun _ => returns_pure hempty
  · exact returns_error _

/-- Of the carriers, that of a compaction names the first entry kept. -/
theorem parseCarrierValue_kept {carrierKind : String} {value : Json} {kept : Option String}
    (hkept : kept =
      if carrierKind == "compaction" then ostr value "firstKeptEntryId" else none) :
    Returns (HasIdAndKept id kept) (parseCarrierValue ctx base carrierKind value) := by
  have hnothing : ∀ payload, HasIdAndKept id none (base payload) := hbase.keepsNothing
  unfold parseCarrierValue
  split
  · exact returns_bind fun _ => returns_pure (hkept ▸ hnothing _)
  · exact returns_bind fun _ => returns_pure (hkept ▸ hnothing _)
  · exact returns_bind fun _ => returns_bind fun _ => returns_pure (hkept ▸ hnothing _)
  · exact returns_bind fun _ => returns_bind fun _ => returns_pure (hkept ▸ hnothing _)
  · exact returns_bind fun _ => returns_bind fun _ => returns_pure (hkept ▸ hnothing _)
  · -- The name that a compaction carrier has was read as an optional member.
    refine returns_bind fun summary => returns_bind_of_ok fun name hname =>
      returns_bind fun tokensBefore => returns_pure ?_
    have hsame : kept = name := hkept.trans (ostr_of_piOptionalNullableString hname)
    rw [hsame]
    exact (hbase.compaction summary tokensBefore name).2
  · exact returns_bind fun source => returns_pure (hkept ▸ hnothing (.assistantMsg source.1))
  · exact hkept ▸ parseToolResultCarrier_keepsNothing hbase
  · split
    · exact returns_pure (hkept ▸ hnothing _)
    · exact returns_error _
  · exact returns_bind fun _ => returns_bind fun _ => returns_pure (hkept ▸ hnothing _)
  · -- An archived payload has its coverage, whatever the payload is.
    refine returns_bind fun payload => returns_bind fun _ => returns_pure (hkept ▸ ?_)
    exact ⟨(hnothing payload).1, piFirstKeptReference_eq_none (hbase payload).2.2.2⟩
  · exact returns_error _

/-- A carrier is marked as unverified history, whatever it restores. -/
theorem parseCustomEntry_readFrom {line : Nat} {record : Json}
    (htype : ostr record "type" = some "custom") :
    Returns (ReadFrom id record) (parseCustomEntry ctx line base record) := by
  refine returns_bind_of_ok fun customType hcustomType => ?_
  have hcustom := ostr_of_piRequireNonemptyString hcustomType
  split
  next hcarrier =>
    obtain rfl : customType = "loom.pi.carrier" := beq_iff_eq.mp hcarrier
    refine returns_bind_of_ok fun data hdata => returns_bind fun _ => returns_guard fun _ => ?_
    refine returns_bind_of_ok fun carrierKind hcarrierKind =>
      returns_bind_of_ok fun value hvalue => returns_bind_of_ok fun restored hrestored => ?_
    have hkept := piFirstKept?_of_carrier htype rfl hcustom (oobj_of_piRequireObject hdata)
      (ostr_of_piRequireNonemptyString hcarrierKind) (oobj_of_piRequireField hvalue)
    refine returns_pure ⟨fun hnative => (by cases hnative), ?_⟩
    exact parseCarrierValue_kept hbase hkept restored hrestored
  next hother =>
    have hkept : piFirstKept? record = none := by
      refine piFirstKept?_eq_none htype (by decide) (fun _ h => hother ?_)
        fun h => absurd h (by decide)
      exact beq_iff_eq.mpr (Option.some.inj (hcustom.symm.trans h))
    have hplain := hbase.plain (show RefersNowhere (.event (.custom "custom" record)) from trivial)
    exact returns_pure ⟨fun _ => hplain.1, hkept ▸ hplain.2⟩

/-- Among the custom messages the summary alone names a first kept entry. -/
theorem parseCustomMessageEntry_readFrom {record : Json}
    (htype : ostr record "type" = some "custom_message") :
    Returns (ReadFrom id record) (parseCustomMessageEntry ctx base record) := by
  refine returns_bind_of_ok fun customType hcustomType => returns_bind fun _ =>
    returns_bind fun blocks => returns_bind fun _ => ?_
  have hcustom := ostr_of_piRequireNonemptyString hcustomType
  have hnone : customType ≠ "loom.pi.compaction-summary" → piFirstKept? record = none := by
    intro hother
    refine piFirstKept?_eq_none htype (by decide) (fun h => absurd h (by decide))
      fun _ h => hother ?_
    exact Option.some.inj (hcustom.symm.trans h)
  split
  next hsummary =>
    -- a summary that is shown to the model as a message
    obtain rfl : customType = "loom.pi.compaction-summary" := beq_iff_eq.mp hsummary
    refine returns_bind_of_ok fun details hdetails => returns_bind fun _ =>
      returns_guard fun _ => ?_
    refine returns_bind_of_ok fun value hvalue => returns_bind fun summary =>
      returns_guard fun _ => ?_
    refine returns_bind_of_ok fun name hname => returns_bind fun tokensBefore => returns_pure ?_
    have hkept := piFirstKept?_of_summary htype rfl hcustom (oobj_of_piRequireObject hdetails)
      (oobj_of_piRequireObject hvalue)
    rw [ostr_of_piOptionalNullableString hname] at hkept
    obtain ⟨hnames, hhas⟩ := hbase.compaction summary tokensBefore name
    exact ⟨fun _ => hnames, hkept ▸ hhas⟩
  next hother =>
    have hkept := hnone fun h => hother (beq_iff_eq.mpr h)
    split
    · refine returns_bind fun _ => returns_bind fun _ => returns_guard fun _ => ?_
      refine returns_bind fun role => returns_bind fun _ => returns_bind fun carried =>
        returns_pure ?_
      have hplain := hbase.plain (show RefersNowhere (.otherMsg role carried) from trivial)
      exact ⟨fun _ => hplain.1, hkept ▸ hplain.2⟩
    · refine returns_pure ?_
      have hplain := hbase.plain (show RefersNowhere (.otherMsg "custom" blocks) from trivial)
      exact ⟨fun _ => hplain.1, hkept ▸ hplain.2⟩

end Entry

/-- **An entry that was read has the id of the record, and names what the record names.** -/
theorem parseEntry_readFrom {line : Nat} {record : Json} :
    Returns (fun r => ∃ id, ostr record "id" = some id ∧ ReadFrom id record r)
      (parseEntry line record) := by
  refine returns_bind fun _ => returns_bind_of_ok fun kind hkind => returns_guard fun _ => ?_
  have htype := ostr_of_piRequireNonemptyString hkind
  refine returns_bind_of_ok fun id hid => returns_bind fun parentId => returns_bind fun ts =>
    returns_bind fun timeOverride => returns_bind fun _ => ?_
  have hid := ostr_of_piRequireNonemptyString hid
  refine Returns.mono (P := ReadFrom id record) ?_ fun r hr => ⟨id, hid, hr⟩
  have hbase : IsBase id fun payload =>
      { line, id, parentId, ts, payload, timeOverride, piRaw := some record } :=
    fun payload => ⟨rfl, rfl, rfl, rfl⟩
  have hevent : ∀ event, IsPlain id ((fun payload =>
      { line, id, parentId, ts, payload, timeOverride, piRaw := some record }) (.event event)) :=
    fun event => hbase.plain (show RefersNowhere (.event event) from trivial)
  have hplain : ∀ {result : Except String RawEntry}, kind ≠ "compaction" → kind ≠ "custom" →
      kind ≠ "custom_message" → Returns (IsPlain id) result →
      Returns (ReadFrom id record) result := by
    intro result hcompaction hcustom hmessage hresult
    have hkept := piFirstKept?_eq_none htype hcompaction (fun h => absurd h hcustom)
      fun h => absurd h hmessage
    exact hresult.mono fun r hr => ⟨fun _ => hr.1, hkept ▸ hr.2⟩
  dsimp only
  split
  · exact hplain (by decide) (by decide) (by decide) (parseMessageEntry_plain hbase)
  · refine returns_bind fun summary => returns_bind_of_ok fun name hname =>
      returns_bind fun tokens => returns_bind fun _ => returns_pure ?_
    have hkept := piFirstKept?_of_compaction htype rfl
    rw [ostr_of_piRequireNonemptyString hname] at hkept
    obtain ⟨hnames, hhas⟩ := hbase.compaction summary (some tokens) (some name)
    exact ⟨fun _ => hnames, hkept ▸ hhas⟩
  · exact hplain (by decide) (by decide) (by decide) (returns_bind fun _ => returns_bind fun _ =>
      returns_bind fun _ => returns_pure (hevent _))
  · exact hplain (by decide) (by decide) (by decide) (returns_bind fun _ => returns_bind fun _ =>
      returns_pure (hevent _))
  · exact hplain (by decide) (by decide) (by decide) (returns_bind fun _ => returns_bind fun _ =>
      returns_bind fun _ => returns_pure (hevent _))
  · exact parseCustomEntry_readFrom hbase htype
  · exact parseCustomMessageEntry_readFrom hbase htype
  · exact hplain (by decide) (by decide) (by decide) (returns_bind fun _ => returns_bind fun _ =>
      returns_pure (hevent _))
  · exact hplain (by decide) (by decide) (by decide) (returns_bind fun _ =>
      returns_pure (hevent _))
  next hmessage hcompaction _ _ _ hcustom hcustomMessage _ _ =>
    exact hplain hcompaction hcustom hcustomMessage (returns_pure (hevent _))

end AgentConvert.Pi
