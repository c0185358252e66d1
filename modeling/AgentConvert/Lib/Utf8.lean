import Mathlib.Data.List.Basic
import AgentConvert.Lib.Lines

/-!
# Newlines in encoded texts

In UTF-8 a newline byte is always a newline character: the bytes of every longer encoding are
above the ASCII range.  A text may therefore be cut behind a newline byte without looking at the
characters, and what is left is a complete-line cut (`completeLineCut_of_newline_byte`).
-/

namespace AgentConvert

/-- The newline byte. -/
def newlineByte : UInt8 := 10

/-- A byte above the ASCII range is no newline. -/
theorem newlineByte_ne_ofNat {n : Nat} (h : 0x80 ≤ n) (hn : n < 256) :
    newlineByte ≠ UInt8.ofNat n := by
  intro heq
  have hnat := congrArg UInt8.toNat heq
  rw [UInt8.toNat_ofNat', Nat.mod_eq_of_lt hn] at hnat
  have hten : newlineByte.toNat = 10 := rfl
  omega

/-- Only the newline character is encoded with a newline byte. -/
theorem eq_newline_of_mem_utf8EncodeChar {c : Char}
    (h : newlineByte ∈ String.utf8EncodeChar c) :
    c = '\n' ∧ String.utf8EncodeChar c = [newlineByte] := by
  unfold String.utf8EncodeChar at h
  by_cases hone : c.val.toNat ≤ 0x7f
  · rw [if_pos hone, List.mem_singleton] at h
    have hval : c.val.toNat = 10 := by
      have hnat := congrArg UInt8.toNat h
      rw [UInt8.toNat_ofNat', Nat.mod_eq_of_lt (by omega)] at hnat
      exact hnat.symm
    have hc : c = '\n' := Char.ext (UInt32.toNat_inj.mp hval)
    subst hc
    exact ⟨rfl, rfl⟩
  · -- Each byte of two, three or four is at least 0x80.
    exfalso
    rw [if_neg hone] at h
    split at h
    · simp only [List.mem_cons, List.not_mem_nil, or_false] at h
      rcases h with h | h <;> exact newlineByte_ne_ofNat (by omega) (by omega) h
    · split at h
      · simp only [List.mem_cons, List.not_mem_nil, or_false] at h
        rcases h with h | h | h <;> exact newlineByte_ne_ofNat (by omega) (by omega) h
      · simp only [List.mem_cons, List.not_mem_nil, or_false] at h
        rcases h with h | h | h | h <;> exact newlineByte_ne_ofNat (by omega) (by omega) h

/-- A newline byte among the encoded characters is a newline, and the bytes before it are the
characters before it. -/
theorem exists_newline_of_byte {chars : List Char} {i : Nat}
    (hi : i < chars.utf8Encode.size) (h : chars.utf8Encode[i] = newlineByte) :
    ∃ head tail, chars = head ++ '\n' :: tail ∧ head.utf8Encode.size = i := by
  induction chars generalizing i with
  | nil => simp at hi
  | cons c rest ih =>
    have hbytes : (c :: rest).utf8Encode = [c].utf8Encode ++ rest.utf8Encode :=
      List.utf8Encode_cons
    have hsize : [c].utf8Encode.size = (String.utf8EncodeChar c).length := by
      rw [List.utf8Encode_singleton, List.size_toByteArray]
    simp only [hbytes] at hi h
    by_cases hfirst : i < [c].utf8Encode.size
    · rw [ByteArray.getElem_append_left hfirst] at h
      have hmem : newlineByte ∈ String.utf8EncodeChar c := by
        rw [← h]
        simp [List.utf8Encode_singleton]
      obtain ⟨rfl, hencode⟩ := eq_newline_of_mem_utf8EncodeChar hmem
      rw [hsize, hencode, List.length_singleton, Nat.lt_one_iff] at hfirst
      subst hfirst
      exact ⟨[], rest, rfl, by simp⟩
    · rw [ByteArray.getElem_append_right (by omega)] at h
      rw [ByteArray.size_append] at hi
      obtain ⟨head, tail, rfl, hhead⟩ := ih (by omega) h
      refine ⟨c :: head, tail, rfl, ?_⟩
      rw [List.utf8Encode_cons, ByteArray.size_append, hhead]
      omega

/-- **The bytes up to a newline byte are the text up to a newline.** -/
theorem completeLineCut_of_newline_byte {text : String} {i : Nat}
    (hi : i < text.toByteArray.size) (h : text.toByteArray[i] = newlineByte) :
    ∃ p, CompleteLineCut p text ∧ p.toByteArray = text.toByteArray.extract 0 (i + 1) := by
  have hencode : text.toList.utf8Encode = text.toByteArray := String.utf8Encode_toList
  simp only [← hencode] at hi h
  obtain ⟨head, tail, hchars, hsize⟩ := exists_newline_of_byte hi h
  have htext : text = String.ofList head ++ "\n" ++ String.ofList tail := by
    apply String.toList_inj.mp
    rw [hchars]
    simp
  have hpart : (String.ofList head ++ "\n").toByteArray.size = i + 1 := by
    rw [String.toByteArray_append, ByteArray.size_append, String.toByteArray_ofList, hsize]
    rfl
  have happend : (String.ofList head ++ "\n" ++ String.ofList tail).toByteArray =
      (String.ofList head ++ "\n").toByteArray ++ (String.ofList tail).toByteArray :=
    String.toByteArray_append
  refine ⟨String.ofList head ++ "\n", ⟨String.ofList tail, htext, Or.inr (Or.inl ⟨_, rfl⟩)⟩, ?_⟩
  rw [htext, happend, ← hpart, ByteArray.extract_append_size_left, ByteArray.extract_zero_size]

end AgentConvert
