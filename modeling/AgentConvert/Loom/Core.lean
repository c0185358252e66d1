import AgentConvert.Json.Value

/-!
# The intermediate representation

What every importer produces.  A transcript is an array of entries that refer to their parents
by index.  Values an importer inferred rather than read carry how they came to exist, and every
judgment call is recorded as an import note.
-/

namespace AgentConvert

/-! ### Provenance -/

/-- The transcript formats. -/
inductive Format where
  | pi
  | claudeCode
  | codexCli
  | cursorAgent
  | cursorIde
  | hermes
  | googleAiStudio
  | openCode
  | other (name : String)
  deriving Repr, DecidableEq

/-- Milliseconds since the Unix epoch. -/
structure Timestamp where
  ms : Nat
  deriving Repr, DecidableEq

/-- How an entry's time value came to exist. -/
inductive Time where
  | recorded (t : Timestamp)
  | interpolated (t : Timestamp) (basis : String)
  | sequenced (ord : Nat)
  | absent
  deriving Repr, DecidableEq

/-- How it is known whether a tool invocation failed. -/
inductive ErrorSignal where
  | native (isError : Bool)
  | structured (isError : Bool) (source : String)
  | heuristic (isError : Bool) (method : String)
  | unrecorded
  deriving Repr, DecidableEq

/-- A failure flag uses recorded status, never a guess. -/
def ErrorSignal.failureFlag : ErrorSignal → Bool
  | .native value | .structured value _ => value
  | .heuristic _ _ | .unrecorded => false

/-- Where a datum came from.  `extras` has source fields that were read but not modelled. -/
structure Origin where
  format : Format
  sourceRef : String
  rawId : Option String := none
  extras : Option Json := none

/-- The kinds of judgment calls an importer makes. -/
inductive AssumptionKind where
  | dedupDropped
  | timeInterpolated
  | timeSequenced
  | errorInferred
  | roleCoerced
  | toolNameMapped
  | idSynthesized
  | contentSkipped
  | activeLeafGuessed
  | other (label : String)
  deriving Repr, DecidableEq

/-- One judgment call made during an import. -/
structure ImportNote where
  kind : AssumptionKind
  loc : Option String := none
  detail : String
  deriving Repr

/-! ### Content -/

/-- The tools whose meaning is shared between harnesses. -/
inductive CanonicalTool where
  | bash
  | read
  | write
  | edit
  | grep
  | glob
  | webFetch
  | webSearch
  | agentSpawn
  | applyPatch
  deriving Repr, DecidableEq

/-- A tool name as the source spelled it, with its interpretation if there is one. -/
structure ToolName where
  raw : String
  canonical : Option CanonicalTool := none
  deriving Repr, DecidableEq

/-- Link from a tool result back to its call: by entry and block index, or unresolved. -/
inductive CallRef where
  | resolved (entry : Nat) (block : Nat)
  | unresolved (rawId : Option String) (note : String)
  deriving Repr, DecidableEq

/-- User-authored content. -/
inductive UserBlock where
  | text (s : String)
  | media (mimeType : String) (locator : String)
  | unmodeled (label : String) (raw : Json)

/-- Assistant-authored content. -/
inductive AssistantBlock where
  | text (s : String)
  | thinking (s : String) (signature : Option String)
  | toolCall (name : ToolName) (args : Json) (rawId : Option String)
  | media (mimeType : String) (locator : String)
  | unmodeled (label : String) (raw : Json)

/-- Environment-authored content. -/
inductive EnvBlock where
  | toolResult (call : CallRef) (content : List UserBlock) (error : ErrorSignal)
  | unmodeled (label : String) (raw : Json)

/-- What a compaction summary replaced. -/
inductive CompactionCoverage where
  | knownPrefix (firstKept : Nat)
  | unknownPrefix
  deriving Repr, DecidableEq

/-- Harness meta events. -/
inductive MetaEvent where
  | modelChange (prev next : Option String)
  | thinkingLevelChange (prev next : Option String)
  | permissionMode (mode : String)
  | branchSummary (summary : String)
  | custom (label : String) (raw : Json)

/-- What an entry can be.  Messages are indexed by role, so each carries only the content its
author can produce. -/
inductive Payload where
  | userMsg (blocks : List UserBlock)
  | assistantMsg (blocks : List AssistantBlock)
  | envMsg (blocks : List EnvBlock)
  | otherMsg (roleLabel : String) (blocks : List UserBlock)
  | compaction (summary : String) (coverage : CompactionCoverage) (tokensBefore : Option Nat)
  | event (e : MetaEvent)

/-! ### Transcripts -/

/-- Whether an entry came from ordinary source syntax or from an in-band carrier of historical
data. -/
inductive EntryDisposition where
  | native
  | historicalUnverified
  deriving Repr, DecidableEq

/-- One transcript entry.  `parent` and `thread` are indices. -/
structure Entry where
  parent : Option Nat := none
  thread : Nat := 0
  time : Time := .absent
  payload : Payload
  origin : Origin
  disposition : EntryDisposition := .native

/-- Why a thread exists. -/
inductive ThreadKind where
  | main
  | sidechain (anchor : CallRef)
  | detached (note : String)
  deriving Repr, DecidableEq

/-- A thread of the session: the main one, or one of a child. -/
structure Thread where
  kind : ThreadKind
  label : Option String := none
  deriving Repr, DecidableEq

/-- Session-level facts. -/
structure EnvInfo where
  cwd : Option String := none
  model : Option String := none
  provider : Option String := none
  harnessVersion : Option String := none
  instructions : Option String := none
  sessionId : Option String := none
  deriving Repr, DecidableEq

/-- A transcript. -/
structure Transcript where
  threads : List Thread
  entries : List Entry
  env : EnvInfo := {}
  activeLeaf : Option Nat := none
  importNotes : List ImportNote := []
  origin : Origin

end AgentConvert
