import Mathlib.Data.List.Basic

/-!
# Character parsers with explicit fuel

A parser reads a list of characters and returns what is left of it.  A recursive grammar is
written over a fuel argument, so that it can be evaluated; this module has the rules that show
such a fuel argument to be irrelevant once it exceeds the input, one rule per combinator.

## Main definitions

* `Parser` — a function from the remaining input to a result and what remains after it
* `Parser.Shrinks` — a parser which consumes at least `k` characters when it succeeds
* `Parser.AgreeUpTo` — two parsers with the same outcome on every input of bounded length
* `Parser.Yields` — a parser whose values all have a property
* `Parser.Reads`, `Parser.Refuses` — what a parser makes of the characters it meets first, in
  front of anything that may follow them
* `Parser.Settles` — a condition decides which of the two it is

## Main statements

* `Shrinks.bind`, `AgreeUpTo.bind` — how the two compose: what the first parser consumes is
  no longer available to the second, so the second needs to agree on shorter inputs only
* `Reads.bind` — the second parser reads what follows the characters of the first
* `Settles.bind` — what decides whether one parser after the other reads the characters
-/

namespace AgentConvert

/-- Why a parser failed. -/
inductive ParseError where
  | eof
  | other (message : String)
  deriving Repr, DecidableEq

/-- The text of a parse error. -/
def ParseError.toString : ParseError → String
  | .eof => "unexpected end of input"
  | .other message => message

/-- The outcome of a parser: the input that remains, with the value or the error. -/
inductive ParseResult (α : Type) where
  | success (rest : List Char) (value : α)
  | error (rest : List Char) (err : ParseError)
  deriving Repr

/-- A parser of `α`. -/
def Parser (α : Type) : Type := List Char → ParseResult α

namespace Parser

variable {α β : Type}

/-! ### Combinators -/

/-- Consume nothing and return `a`. -/
protected def pure (a : α) : Parser α := fun it => .success it a

/-- Run `p`, then the parser its value selects. -/
protected def bind (p : Parser α) (f : α → Parser β) : Parser β := fun it =>
  match p it with
  | .success rest a => f a rest
  | .error rest err => .error rest err

instance : Monad Parser where
  pure := Parser.pure
  bind := Parser.bind

/-- Fail with a message, consuming nothing. -/
def fail (message : String) : Parser α := fun it => .error it (.other message)

/-- Run `p`; on a failure forget what it consumed and return `default`. -/
def attemptD (p : Parser α) (default : α) : Parser α := fun it =>
  match p it with
  | .success rest a => .success rest a
  | .error _ _ => .success it default

/-- Succeed at the end of the input only. -/
def eof : Parser Unit := fun it =>
  match it with
  | [] => .success [] ()
  | _ :: _ => .error it (.other "expected end of input")

/-- Whether the input is exhausted. -/
def isEof : Parser Bool := fun it => .success it it.isEmpty

/-- The next character. -/
def any : Parser Char := fun it =>
  match it with
  | [] => .error it .eof
  | c :: rest => .success rest c

/-- The next character, left in the input. -/
def peek : Parser Char := fun it =>
  match it with
  | [] => .error it .eof
  | c :: _ => .success it c

/-- Drop the next character. -/
def skip : Parser Unit := fun it =>
  match it with
  | [] => .error it .eof
  | _ :: rest => .success rest ()

/-- Drop the given characters, which must come next. -/
def skipString (s : String) : Parser Unit := fun it =>
  if s.toList.isPrefixOf it then .success (it.drop s.length) ()
  else .error it (.other s!"expected: {s}")

/-- Drop the white space that comes next. -/
def ws : Parser Unit := fun it =>
  .success (it.dropWhile fun c => c == '\t' || c == '\n' || c == '\r' || c == ' ') ()

/-- The size in bytes of a list of characters. -/
def byteSize (chars : List Char) : Nat := chars.foldl (fun size c => size + c.utf8Size) 0

/-- Run a parser on a text.  An error tells the byte offset at which it happened. -/
protected def run (p : Parser α) (chars : List Char) : Except String α :=
  match p chars with
  | .success _ value => .ok value
  | .error rest err =>
    .error s!"offset {byteSize chars - byteSize rest}: {err.toString}"

/-! ### One step of a sequence -/

/-- After an accepted first part the second part reads on. -/
theorem bind_success {p : Parser α} {f : α → Parser β} {it rest : List Char} {a : α}
    (h : p it = .success rest a) : (p >>= f) it = f a rest := by
  show Parser.bind p f it = _
  unfold Parser.bind
  rw [h]

/-- A refused first part refuses the whole. -/
theorem bind_error {p : Parser α} {f : α → Parser β} {it rest : List Char} {err : ParseError}
    (h : p it = .error rest err) : (p >>= f) it = .error rest err := by
  show Parser.bind p f it = _
  unfold Parser.bind
  rw [h]

/-! ### Consumption -/

/-- A success leaves at least `k` characters fewer than there were. -/
def Shrinks (k : Nat) (p : Parser α) : Prop :=
  ∀ it rest a, p it = .success rest a → rest.length + k ≤ it.length

theorem Shrinks.pure (a : α) : Shrinks 0 (Pure.pure a : Parser α) := by
  intro it rest b h
  cases h
  exact Nat.le_refl _

/-- What two parsers consume adds up. -/
theorem Shrinks.bind {j k : Nat} {p : Parser α} {f : α → Parser β}
    (hp : Shrinks j p) (hf : ∀ a, Shrinks k (f a)) : Shrinks (j + k) (p >>= f) := by
  intro it rest b h
  change Parser.bind p f it = _ at h
  unfold Parser.bind at h
  cases hpit : p it with
  | success mid a =>
    rw [hpit] at h
    have hfirst := hp it mid a hpit
    have hsecond := hf a mid rest b h
    omega
  | error mid err =>
    rw [hpit] at h
    cases h

/-- A parser that consumes more consumes less. -/
theorem Shrinks.mono {j k : Nat} {p : Parser α} (hp : Shrinks k p) (hle : j ≤ k) :
    Shrinks j p := by
  intro it rest a h
  have := hp it rest a h
  omega

/-- Two parsers which never grow the input, one after the other. -/
theorem Shrinks.seq {j : Nat} {p : Parser α} {f : α → Parser β}
    (hp : Shrinks j p) (hf : ∀ a, Shrinks 0 (f a)) : Shrinks 0 (p >>= f) :=
  (hp.bind hf).mono (Nat.zero_le _)

/-- A choice consumes what both branches consume. -/
theorem Shrinks.ite {k : Nat} {c : Prop} [Decidable c] {p q : Parser α}
    (hp : Shrinks k p) (hq : Shrinks k q) : Shrinks k (if c then p else q) := by
  split
  · exact hp
  · exact hq

theorem shrinks_fail (k : Nat) (message : String) : Shrinks k (fail message : Parser α) := by
  intro it rest a h
  cases h

/-- Reading any character consumes one. -/
theorem shrinks_any : Shrinks 1 any := by
  intro it rest a h
  cases it with
  | nil => cases h
  | cons c tail =>
    cases h
    simp

theorem shrinks_peek : Shrinks 0 peek := by
  intro it rest a h
  cases it with
  | nil => cases h
  | cons c tail =>
    cases h
    simp

/-- Skipping a character consumes one. -/
theorem shrinks_skip : Shrinks 1 skip := by
  intro it rest a h
  cases it with
  | nil => cases h
  | cons c tail =>
    cases h
    simp

theorem shrinks_skipString (s : String) : Shrinks 0 (skipString s) := by
  intro it rest a h
  unfold skipString at h
  split at h
  · cases h
    simp
  · cases h

theorem shrinks_ws : Shrinks 0 ws := by
  intro it rest a h
  cases h
  simpa using (List.dropWhile_suffix _).length_le

theorem shrinks_isEof : Shrinks 0 isEof := by
  intro it rest a h
  cases h
  exact Nat.le_refl _

/-- Trying a parser consumes nothing that is promised. -/
theorem shrinks_attemptD {p : Parser α} (hp : Shrinks 0 p) (d : α) :
    Shrinks 0 (attemptD p d) := by
  intro it rest a h
  unfold attemptD at h
  cases hpit : p it with
  | success mid b =>
    rw [hpit] at h
    cases h
    exact hp it rest a hpit
  | error mid err =>
    rw [hpit] at h
    cases h
    exact Nat.le_refl _

/-! ### Agreement on short inputs -/

/-- The two parsers have the same outcome on every input of at most `n` characters. -/
def AgreeUpTo (n : Nat) (p q : Parser α) : Prop := ∀ it, it.length ≤ n → p it = q it

theorem AgreeUpTo.refl (n : Nat) (p : Parser α) : AgreeUpTo n p p := fun _ _ => rfl

/-- What the first parser consumes is not available to the second. -/
theorem AgreeUpTo.bind {n k : Nat} {p q : Parser α} {f g : α → Parser β}
    (hpq : AgreeUpTo n p q) (hshrinks : Shrinks k q)
    (hfg : ∀ a, k ≤ n → AgreeUpTo (n - k) (f a) (g a)) :
    AgreeUpTo n (p >>= f) (q >>= g) := by
  intro it hit
  change Parser.bind p f it = Parser.bind q g it
  unfold Parser.bind
  rw [hpq it hit]
  cases hq : q it with
  | success rest a =>
    have hrest := hshrinks it rest a hq
    exact hfg a (by omega) rest (by omega)
  | error rest err => rfl

/-- A choice agrees when both branches do. -/
theorem AgreeUpTo.ite {n : Nat} {c : Prop} [Decidable c] {p p' q q' : Parser α}
    (hp : AgreeUpTo n p p') (hq : AgreeUpTo n q q') :
    AgreeUpTo n (if c then p else q) (if c then p' else q') := by
  split
  · exact hp
  · exact hq

/-! ### Properties of the value -/

/-- Every value the parser succeeds with has the property. -/
def Yields (P : α → Prop) (p : Parser α) : Prop := ∀ it rest a, p it = .success rest a → P a

/-- A returned value has the property. -/
theorem Yields.pure {P : α → Prop} {a : α} (h : P a) : Yields P (Pure.pure a : Parser α) := by
  intro it rest b hb
  cases hb
  exact h

/-- What the first parser yields is what the second may assume. -/
theorem Yields.bind {Q : α → Prop} {P : β → Prop} {p : Parser α} {f : α → Parser β}
    (hp : Yields Q p) (hf : ∀ a, Q a → Yields P (f a)) : Yields P (p >>= f) := by
  intro it rest b h
  change Parser.bind p f it = _ at h
  unfold Parser.bind at h
  cases hpit : p it with
  | success mid a =>
    rw [hpit] at h
    exact hf a (hp it mid a hpit) mid rest b h
  | error mid err =>
    rw [hpit] at h
    cases h

/-- Whatever the first parser reads, the second one has the say. -/
theorem Yields.seq {P : β → Prop} {p : Parser α} {f : α → Parser β}
    (hf : ∀ a, Yields P (f a)) : Yields P (p >>= f) := by
  have hp : Yields (fun _ => True) p := fun _ _ _ _ => trivial
  exact hp.bind fun a _ => hf a

/-- A choice yields what both branches yield. -/
theorem Yields.ite {P : α → Prop} {c : Prop} [Decidable c] {p q : Parser α}
    (hp : Yields P p) (hq : Yields P q) : Yields P (if c then p else q) := by
  split
  · exact hp
  · exact hq

theorem yields_fail (P : α → Prop) (message : String) :
    Yields P (fail message : Parser α) := by
  intro it rest a h
  cases h

/-! ### What is read in front of a rest -/

/-- In front of any rest that may follow, the parser reads the characters as the value. -/
def Reads (Follow : List Char → Prop) (p : Parser α) (chars : List Char) (a : α) : Prop :=
  ∀ rest, Follow rest → p (chars ++ rest) = .success rest a

/-- In front of any rest that may follow, the parser fails. -/
def Refuses (Follow : List Char → Prop) (p : Parser α) (chars : List Char) : Prop :=
  ∀ rest, Follow rest → ∃ left err, p (chars ++ rest) = .error left err

/-- Anything may follow. -/
def Anything (_ : List Char) : Prop := True

variable {Follow Next : List Char → Prop} {p : Parser α} {f : α → Parser β}
  {chars more : List Char} {a : α} {b : β}

/-- What is read before more characters is read before fewer. -/
theorem Reads.mono (hp : Reads Next p chars a) (h : ∀ rest, Follow rest → Next rest) :
    Reads Follow p chars a := fun rest hrest => hp rest (h rest hrest)

/-- What the second parser reads, and what may follow it, must be able to follow the first. -/
theorem Reads.bind (hp : Reads Next p chars a) (hf : Reads Follow (f a) more b)
    (hnext : ∀ rest, Follow rest → Next (more ++ rest)) :
    Reads Follow (p >>= f) (chars ++ more) b := by
  intro rest hrest
  rw [List.append_assoc, bind_success (hp (more ++ rest) (hnext rest hrest))]
  exact hf rest hrest

/-- The first parser only looks at what the second one reads. -/
theorem Reads.look (hp : ∀ rest, Follow rest → p (chars ++ rest) = .success (chars ++ rest) a)
    (hf : Reads Follow (f a) chars b) : Reads Follow (p >>= f) chars b := by
  intro rest hrest
  rw [bind_success (hp rest hrest)]
  exact hf rest hrest

/-- The parser that runs second refuses what follows the characters of the first. -/
theorem Reads.refuses (hp : Reads Next p chars a) (hf : Refuses Follow (f a) more)
    (hnext : ∀ rest, Follow rest → Next (more ++ rest)) :
    Refuses Follow (p >>= f) (chars ++ more) := by
  intro rest hrest
  rw [List.append_assoc, bind_success (hp (more ++ rest) (hnext rest hrest))]
  exact hf rest hrest

/-- A failure of the first parser is one of the whole. -/
theorem Refuses.bind (hp : Refuses Follow p chars) : Refuses Follow (p >>= f) chars := by
  intro rest hrest
  obtain ⟨left, err, herr⟩ := hp rest hrest
  exact ⟨left, err, bind_error herr⟩

/-- A refused beginning refuses the whole. -/
theorem Refuses.append (hp : Refuses Next p chars)
    (hnext : ∀ rest, Follow rest → Next (more ++ rest)) : Refuses Follow p (chars ++ more) := by
  intro rest hrest
  rw [List.append_assoc]
  exact hp (more ++ rest) (hnext rest hrest)

/-- In front of any rest that may follow, the parser reads the characters as the value if the
condition holds, and fails if it does not. -/
def Settles (Follow : List Char → Prop) (p : Parser α) (chars : List Char) (P : Prop) (a : α) :
    Prop := (P → Reads Follow p chars a) ∧ (¬ P → Refuses Follow p chars)

variable {P Q : Prop}

/-- A text that is read settles the condition that always holds. -/
theorem Reads.settles (hp : Reads Follow p chars a) : Settles Follow p chars True a :=
  ⟨fun _ => hp, fun h => absurd trivial h⟩

/-- Both conditions are needed; the second one matters only if the first one holds. -/
theorem Settles.bind (hp : Settles Next p chars P a) (hf : Settles Follow (f a) more Q b)
    (hnext : ∀ rest, Follow rest → Next (more ++ rest)) :
    Settles Follow (p >>= f) (chars ++ more) (P ∧ Q) b := by
  refine ⟨fun h => (hp.1 h.1).bind (hf.1 h.2) hnext, fun h => ?_⟩
  by_cases hP : P
  · exact (hp.1 hP).refuses (hf.2 fun hQ => h ⟨hP, hQ⟩) hnext
  · exact ((hp.2 hP).append hnext).bind

/-- A settled beginning stays settled when what follows is read. -/
theorem Settles.bind_reads (hp : Settles Next p chars P a) (hf : Reads Follow (f a) more b)
    (hnext : ∀ rest, Follow rest → Next (more ++ rest)) :
    Settles Follow (p >>= f) (chars ++ more) P b :=
  ⟨fun h => (hp.1 h).bind hf hnext, fun h => ((hp.2 h).append hnext).bind⟩

/-- A settled text stays settled when its value is mapped. -/
theorem Settles.map (hp : Settles Follow p chars P a) (g : α → β) :
    Settles Follow (p >>= fun a => Pure.pure (g a)) chars P (g a) :=
  ⟨fun h rest hrest => bind_success (hp.1 h rest hrest), fun h => (hp.2 h).bind⟩

/-- The condition may be replaced by an equivalent one. -/
theorem Settles.congr (hp : Settles Follow p chars P a) (h : P ↔ Q) :
    Settles Follow p chars Q a := ⟨fun hQ => hp.1 (h.mpr hQ), fun hQ => hp.2 fun hP => hQ (h.mp hP)⟩

/-- The parser does on the characters what another one does. -/
theorem Settles.of_step {q : Parser α} (hq : Settles Follow q more P a)
    (h : ∀ rest, p (chars ++ rest) = q (more ++ rest)) : Settles Follow p chars P a := by
  refine ⟨fun hP rest hrest => ?_, fun hP rest hrest => ?_⟩
  · exact (h rest).trans (hq.1 hP rest hrest)
  · obtain ⟨left, err, herr⟩ := hq.2 hP rest hrest
    exact ⟨left, err, (h rest).trans herr⟩

/-- A literal is read before anything. -/
theorem reads_skipString (s : String) : Reads Follow (skipString s) s.toList () := by
  intro rest _
  have hprefix : s.toList.isPrefixOf (s.toList ++ rest) = true :=
    List.isPrefixOf_iff_prefix.mpr (List.prefix_append _ _)
  unfold skipString
  rw [if_pos hprefix, ← String.length_toList, List.drop_left]

/-- The rest does not go on with white space. -/
def NoSpace (rest : List Char) : Prop :=
  ∀ c ∈ rest.head?, (c == '\t' || c == '\n' || c == '\r' || c == ' ') = false

/-- Without space in front nothing is skipped. -/
theorem ws_of_noSpace {rest : List Char} (h : NoSpace rest) : ws rest = .success rest () := by
  cases rest with
  | nil => rfl
  | cons c tail =>
    unfold ws
    rw [List.dropWhile_cons_of_neg (Bool.not_eq_true _ ▸ h c rfl)]

end Parser

end AgentConvert
