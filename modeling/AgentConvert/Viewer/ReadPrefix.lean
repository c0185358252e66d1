import AgentConvert.Lib.Utf8

/-!
# Reading the first part of a session file

A preview reads a bounded number of bytes, cuts a longer file behind the last newline it got and
decodes what is left.  If that does not decode, the whole file is read instead.

On a file that holds a text the cut is a complete-line cut of the text, unless the first line is
longer than the limit: then there is no newline to cut at, and the bytes are taken as they are.

## Main statements

* `readPrefix_of_short` — a file below the limit is read whole
* `readPrefix_of_newline` — a longer one is cut behind the last newline within the limit
* `readPrefix_completeLineCut` — in both cases what is read is a complete-line cut
-/

namespace AgentConvert.Viewer

/-- How much of a session file a preview reads. -/
def previewLimit : Nat := 262144

/-- The index of the last newline byte before a position. -/
def lastNewline (b : ByteArray) : Nat → Option Nat
  | 0 => none
  | i + 1 => if b[i]! == newlineByte then some i else lastNewline b i

/-- The bytes a preview decodes: the first ones, cut behind their last newline if there may be
more. -/
def prefixBytes (file : ByteArray) : ByteArray :=
  let bytes := file.extract 0 previewLimit
  if bytes.size < previewLimit then bytes
  else
    match lastNewline bytes bytes.size with
    | some i => bytes.extract 0 (i + 1)
    | none => bytes

/-- The text a preview is made from; `none` if the file is not a text at all. -/
def readPrefix (file : ByteArray) : Option String :=
  match String.fromUTF8? (prefixBytes file) with
  | some text => some text
  | none => String.fromUTF8? file

/-! ### The last newline -/

/-- The last newline is a newline, and none is between it and the position. -/
theorem lastNewline_eq_some {b : ByteArray} {n i : Nat} (h : lastNewline b n = some i) :
    i < n ∧ b[i]! = newlineByte ∧ ∀ j, i < j → j < n → b[j]! ≠ newlineByte := by
  induction n with
  | zero => cases h
  | succ n ih =>
    unfold lastNewline at h
    split at h
    next hbyte =>
      cases h
      exact ⟨Nat.lt_succ_self _, beq_iff_eq.mp hbyte, fun j hj hj' => by omega⟩
    next hbyte =>
      obtain ⟨hi, hnewline, hlast⟩ := ih h
      refine ⟨Nat.lt_succ_of_lt hi, hnewline, fun j hj hj' => ?_⟩
      rcases Nat.lt_succ_iff_lt_or_eq.mp hj' with hj' | rfl
      · exact hlast j hj hj'
      · simpa using hbyte

/-- Without a last newline there is none. -/
theorem lastNewline_eq_none_iff {b : ByteArray} {n : Nat} :
    lastNewline b n = none ↔ ∀ j < n, b[j]! ≠ newlineByte := by
  induction n with
  | zero => simp [lastNewline]
  | succ n ih =>
    unfold lastNewline
    split
    next hbyte =>
      simp only [reduceCtorEq, false_iff, not_forall, not_not]
      exact ⟨n, Nat.lt_succ_self n, beq_iff_eq.mp hbyte⟩
    next hbyte =>
      rw [ih]
      constructor
      · intro h j hj
        rcases Nat.lt_succ_iff_lt_or_eq.mp hj with hj | rfl
        · exact h j hj
        · simpa using hbyte
      · exact fun h j hj => h j (Nat.lt_succ_of_lt hj)

/-! ### What is read -/

/-- A text is read back from its bytes. -/
theorem fromUTF8?_toByteArray (text : String) : String.fromUTF8? text.toByteArray = some text := by
  unfold String.fromUTF8?
  rw [dif_pos text.isValidUTF8]
  rfl

/-- Bytes that are a text are read as that text. -/
theorem readPrefix_of_prefixBytes {file : ByteArray} {text : String}
    (h : prefixBytes file = text.toByteArray) : readPrefix file = some text := by
  unfold readPrefix
  rw [h, fromUTF8?_toByteArray]

/-- A file below the limit is read whole. -/
theorem readPrefix_of_short {text : String} (h : text.toByteArray.size < previewLimit) :
    readPrefix text.toByteArray = some text := by
  apply readPrefix_of_prefixBytes
  have hall : text.toByteArray.extract 0 previewLimit = text.toByteArray := by
    rw [← Nat.max_eq_left (Nat.le_of_lt h)]
    exact ByteArray.extract_zero_max_size
  unfold prefixBytes
  simp only [hall, if_pos h]

/-- A file that reaches the limit and has a newline within it is cut behind the last such
newline. -/
theorem readPrefix_of_newline {text : String} {i : Nat}
    (hlong : previewLimit ≤ text.toByteArray.size)
    (hlast : lastNewline (text.toByteArray.extract 0 previewLimit) previewLimit = some i) :
    ∃ p, readPrefix text.toByteArray = some p ∧ CompleteLineCut p text ∧
      p.toByteArray = text.toByteArray.extract 0 (i + 1) := by
  have hsize : (text.toByteArray.extract 0 previewLimit).size = previewLimit := by
    rw [ByteArray.size_extract]
    omega
  obtain ⟨hi, hbyte, _⟩ := lastNewline_eq_some hlast
  rw [getElem!_pos _ i (by omega), ByteArray.getElem_extract] at hbyte
  simp only [Nat.zero_add] at hbyte
  obtain ⟨p, hcut, hp⟩ := completeLineCut_of_newline_byte (by omega) hbyte
  refine ⟨p, readPrefix_of_prefixBytes ?_, hcut, hp⟩
  unfold prefixBytes
  simp only [hsize, Nat.lt_irrefl, if_false, hlast]
  rw [ByteArray.extract_extract, hp, Nat.zero_add, Nat.zero_add, Nat.min_eq_left (by omega)]

/-- **What a preview reads of a session file is a complete-line cut of the session**, unless the
first line alone exceeds the limit. -/
theorem readPrefix_completeLineCut {text : String}
    (h : text.toByteArray.size < previewLimit ∨
      ∃ i < previewLimit, text.toByteArray[i]! = newlineByte) :
    ∃ p, readPrefix text.toByteArray = some p ∧ CompleteLineCut p text := by
  by_cases hshort : text.toByteArray.size < previewLimit
  · exact ⟨text, readPrefix_of_short hshort, CompleteLineCut.refl text⟩
  · obtain ⟨i, hi, hbyte⟩ := h.resolve_left hshort
    have hsize : i < (text.toByteArray.extract 0 previewLimit).size := by
      rw [ByteArray.size_extract]
      omega
    have hnewline : (text.toByteArray.extract 0 previewLimit)[i]! = newlineByte := by
      rw [getElem!_pos _ i hsize, ByteArray.getElem_extract, ← hbyte,
        getElem!_pos _ i (by omega)]
      simp only [Nat.zero_add]
    cases hlast : lastNewline (text.toByteArray.extract 0 previewLimit) previewLimit with
    | none => exact absurd hnewline (lastNewline_eq_none_iff.mp hlast i hi)
    | some last =>
      obtain ⟨p, hp, hcut, _⟩ := readPrefix_of_newline (by omega) hlast
      exact ⟨p, hp, hcut⟩

end AgentConvert.Viewer
