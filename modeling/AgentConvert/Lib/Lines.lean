import Mathlib.Data.List.Basic

/-!
# Line splitting and complete-line cuts

A text is read as the segments between its newlines.  This module says what a reader of
segments sees of a text that was cut at a line boundary: the segments before the cut, with at
most one empty segment behind them.  Nothing here depends on what a line contains.

## Main definitions

* `splitLines` — the segments between newlines, the last one possibly empty
* `CompleteLineCut` — a first part of a text which ends at a line boundary
* `SegmentCut` — the same relation on lists of segments
-/

namespace AgentConvert

/-- The segments of a text between newline characters.  A text that ends in a newline has an
empty last segment, and the empty text has one empty segment. -/
def splitLines (text : String) : List String :=
  (text.toList.splitOn '\n').map String.ofList

/-- `p` is a first part of `text` which ends at a line boundary: right after a newline, right
before one, or at the end of the text. -/
def CompleteLineCut (p text : String) : Prop :=
  ∃ rest : String, text = p ++ rest ∧
    (rest = "" ∨ (∃ head : String, p = head ++ "\n") ∨ ∃ tail : String, rest = "\n" ++ tail)

/-- On segments: `short` is a first part of `full`, followed by at most one empty segment. -/
def SegmentCut (short full : List String) : Prop :=
  ∃ kept rest : List String, full = kept ++ rest ∧ (short = kept ∨ short = kept ++ [""])

/-- Cutting at the end of the text is a cut at a line boundary. -/
theorem CompleteLineCut.refl (text : String) : CompleteLineCut text text :=
  ⟨"", by simp, Or.inl rfl⟩

/-- A text has at least one segment. -/
theorem splitLines_ne_nil (text : String) : splitLines text ≠ [] := by
  simp [splitLines, List.splitOn_ne_nil]

/-- Joining two texts with a newline joins their segment lists. -/
theorem splitLines_append_newline (head tail : String) :
    splitLines (head ++ "\n" ++ tail) = splitLines head ++ splitLines tail := by
  have hchars : (head ++ "\n" ++ tail).toList = head.toList ++ '\n' :: tail.toList := by
    simp
  unfold splitLines
  rw [hchars, List.splitOn_append_cons_self, List.map_append]

/-- The empty text has a single, empty segment. -/
@[simp] theorem splitLines_empty : splitLines "" = [""] := by
  decide

/-- A complete-line cut of a text is a cut of its segments. -/
theorem CompleteLineCut.segmentCut {p text : String} (h : CompleteLineCut p text) :
    SegmentCut (splitLines p) (splitLines text) := by
  obtain ⟨rest, rfl, hempty | ⟨head, rfl⟩ | ⟨tail, rfl⟩⟩ := h
  · subst hempty
    exact ⟨splitLines p, [], by simp, Or.inl rfl⟩
  · refine ⟨splitLines head, splitLines rest, splitLines_append_newline head rest, Or.inr ?_⟩
    have hcut := splitLines_append_newline head ""
    simpa using hcut
  · refine ⟨splitLines p, splitLines tail, ?_, Or.inl rfl⟩
    rw [← String.append_assoc]
    exact splitLines_append_newline p tail

/-! ### Texts made of lines -/

/-- The text with the given lines, each ended by a newline. -/
def joinLines : List String → String
  | [] => ""
  | line :: rest => line ++ "\n" ++ joinLines rest

/-- Joining lines distributes over appending them. -/
theorem joinLines_append (head tail : List String) :
    joinLines (head ++ tail) = joinLines head ++ joinLines tail := by
  induction head with
  | nil => simp [joinLines]
  | cons line head ih => simp only [List.cons_append, joinLines, ih, String.append_assoc]

/-- A line without a newline is one segment. -/
theorem splitLines_of_line {line : String} (h : '\n' ∉ line.toList) : splitLines line = [line] := by
  unfold splitLines
  rw [List.splitOn_eq_singleton h]
  simp

/-- The segments of a text made of lines are these lines, with an empty segment behind them. -/
theorem splitLines_joinLines {lines : List String} (h : ∀ line ∈ lines, '\n' ∉ line.toList) :
    splitLines (joinLines lines) = lines ++ [""] := by
  induction lines with
  | nil => simp [joinLines]
  | cons line rest ih =>
    rw [joinLines, splitLines_append_newline, splitLines_of_line (h line List.mem_cons_self),
      ih fun l hl => h l (List.mem_cons_of_mem _ hl)]
    rfl

/-- The first of some lines are a complete-line cut. -/
theorem CompleteLineCut.joinLines {head : List String} (h : head ≠ []) (tail : List String) :
    CompleteLineCut (AgentConvert.joinLines head) (AgentConvert.joinLines (head ++ tail)) := by
  obtain ⟨init, last, rfl⟩ := (List.eq_nil_or_concat' head).resolve_left h
  refine ⟨AgentConvert.joinLines tail, joinLines_append _ tail, Or.inr (Or.inl ?_)⟩
  refine ⟨AgentConvert.joinLines init ++ last, ?_⟩
  rw [joinLines_append]
  simp [AgentConvert.joinLines, String.append_assoc]

section Filtered

variable (keep : String → Bool)

/-- Readers that drop the empty segments see a cut text as a first part of the full one: the
one segment a cut adds is empty. -/
theorem SegmentCut.filter_isPrefix (hempty : keep "" = false)
    {short full : List String} (h : SegmentCut short full) :
    short.filter keep <+: full.filter keep := by
  obtain ⟨kept, rest, rfl, rfl | rfl⟩ := h
  · rw [List.filter_append]
    exact List.prefix_append _ _
  · rw [List.filter_append, List.filter_append]
    simp [hempty]

/-- The same for readers that number the segments before they drop the empty ones. -/
theorem SegmentCut.filter_zipIdx_isPrefix (hempty : keep "" = false)
    {short full : List String} (h : SegmentCut short full) :
    (short.zipIdx.filter fun (line, _) => keep line) <+:
      (full.zipIdx.filter fun (line, _) => keep line) := by
  obtain ⟨kept, rest, rfl, rfl | rfl⟩ := h
  · rw [List.zipIdx_append, List.filter_append]
    exact List.prefix_append _ _
  · rw [List.zipIdx_append, List.zipIdx_append, List.filter_append, List.filter_append]
    simp [hempty]

end Filtered

end AgentConvert
