/-
# Values as string literals

The value of an environment variable is inlined between single quotes, as it stands.  Read as a
string literal of a script, that is the value for as long as every character of it stands for
itself; a quote ends the literal too early, a line break spoils it, and a backslash denotes less
than was written.

* `Script.Verbatim` are the characters that stand for themselves inside a literal, and
  `Script.readCharacters_append` reads them;
* `Script.length_of_readCharacters` says that a literal denotes no more than is written, and less if
  there is a backslash;
* `Script.readLiteral_envText_iff` says which values are read back, and `Globals.inlined_literal`
  the same of the replacement table.
-/
import BenchRoster.Proofs.Inlining
import BenchRoster.Script.StringLiteral

namespace BenchRoster

namespace Script

/-- Inside a literal in single quotes the character stands for itself. -/
def Verbatim (c : Char) : Prop := c ≠ '\'' ∧ c ≠ '\\' ∧ c ≠ '\n' ∧ c ≠ '\r'

instance (c : Char) : Decidable (Verbatim c) := by
  unfold Verbatim
  infer_instance

/-! ## The length of what is denoted -/

@[simp] lemma textUnits_nil : textUnits [] = [] := rfl

@[simp] lemma textUnits_cons (c : Char) (cs : List Char) :
    textUnits (c :: cs) = codeUnits c ++ textUnits cs := List.flatMap_cons

@[simp] lemma textUnits_append (cs ds : List Char) :
    textUnits (cs ++ ds) = textUnits cs ++ textUnits ds := List.flatMap_append

lemma length_pointUnits_le (n : ℕ) : (pointUnits n).length ≤ 2 := by
  unfold pointUnits
  split <;> simp

lemma length_codeUnits_pos (c : Char) : 0 < (codeUnits c).length := by
  unfold codeUnits pointUnits
  split <;> simp

/-- A character that is written behind a backslash denotes no more than itself. -/
lemma length_simpleEscape_le (c : Char) :
    (codeUnits (simpleEscape c)).length ≤ (codeUnits c).length := by
  have hone (d : Char) (hd : (codeUnits d).length = 1) :
      (codeUnits d).length ≤ (codeUnits c).length := by
    have := length_codeUnits_pos c
    omega
  unfold simpleEscape
  split
  all_goals first | exact hone _ (by decide) | exact le_rfl

lemma length_take_succ_pos (c : Char) (cs : List Char) (k : ℕ) :
    0 < (textUnits ((c :: cs).take (k + 1))).length := by
  have := length_codeUnits_pos c
  rw [List.take_succ_cons, textUnits_cons, List.length_append]
  omega

/-- An escape denotes no more than is written. -/
lemma length_of_escape? {cs : List Char} {us : List ℕ} {k : ℕ} (h : escape? cs = some (us, k)) :
    us.length ≤ (textUnits (cs.take k)).length := by
  unfold escape? at h
  split at h
  · cases h
  · -- a line break of two characters
    cases h
    exact Nat.zero_le _
  · -- a code unit by two digits
    obtain ⟨n, -, h⟩ := Option.bind_eq_some_iff.1 h
    split at h
    · cases h
      exact length_take_succ_pos ..
    · cases h
  · -- a code point in braces, which are two characters themselves
    rename_i rest
    dsimp only at h
    split at h
    · obtain ⟨n, -, h⟩ := Option.bind_eq_some_iff.1 h
      split at h
      · cases h
        have hp := length_pointUnits_le n
        have h1 := length_codeUnits_pos 'u'
        have h2 := length_codeUnits_pos '\x7b'
        simp only [List.take_succ_cons, textUnits_cons, List.length_append]
        omega
      · cases h
    · cases h
  · -- a code unit by four digits
    obtain ⟨n, -, h⟩ := Option.bind_eq_some_iff.1 h
    split at h
    · cases h
      exact length_take_succ_pos ..
    · cases h
  · -- the zero character
    split at h
    · cases h
    · cases h
      exact length_take_succ_pos ..
  · rename_i c rest _ _ _ _ _
    split at h
    · cases h
      exact Nat.zero_le _
    · split at h
      · cases h
      · cases h
        have hc := length_simpleEscape_le c
        simp only [List.take_succ_cons, List.take_zero, textUnits_cons, textUnits_nil,
          List.append_nil]
        exact hc

/-- Behind a backslash there is an escape, and then the literal goes on. -/
lemma exists_of_readCharacters_backslash {n : ℕ} {cs : List Char} {us : List ℕ} {rest : List Char}
    (h : readCharacters (n + 1) ('\\' :: cs) = some (us, rest)) :
    ∃ es k vs, escape? cs = some (es, k) ∧ readCharacters n (cs.drop k) = some (vs, rest) ∧
      us = es ++ vs := by
  rw [readCharacters, if_neg (by decide), if_neg (by decide), if_pos rfl] at h
  obtain ⟨⟨es, k⟩, he, h⟩ := Option.bind_eq_some_iff.1 h
  obtain ⟨⟨vs, r⟩, hr, h⟩ := Option.map_eq_some_iff.1 h
  cases h
  exact ⟨es, k, vs, he, hr, rfl⟩

/-- A literal denotes no more than is written up to the quote that closes it. -/
lemma length_of_readCharacters {n : ℕ} {cs : List Char} {us : List ℕ} {rest : List Char}
    (h : readCharacters n cs = some (us, rest)) :
    us.length + (textUnits rest).length + 1 ≤ (textUnits cs).length := by
  induction n generalizing cs us with
  | zero => cases h
  | succ n ih =>
    rcases cs with _ | ⟨c, cs⟩
    · cases h
    have hc := length_codeUnits_pos c
    rw [textUnits_cons, List.length_append]
    by_cases hb : c = '\\'
    · subst hb
      obtain ⟨es, k, vs, he, hr, rfl⟩ := exists_of_readCharacters_backslash h
      have h1 := length_of_escape? he
      have h2 := ih hr
      have h3 : textUnits cs = textUnits (cs.take k) ++ textUnits (cs.drop k) := by
        rw [← textUnits_append, List.take_append_drop]
      rw [h3, List.length_append, List.length_append]
      omega
    · rw [readCharacters] at h
      split at h
      · -- the closing quote
        cases h
        rw [List.length_nil]
        omega
      · split at h
        · cases h
        · obtain ⟨⟨vs, r⟩, hr, h⟩ := Option.map_eq_some_iff.1 h
          cases h
          have h2 : vs.length + (textUnits r).length + 1 ≤ (textUnits cs).length := ih hr
          rw [List.length_append]
          dsimp only
          omega

/-- A literal with an escape in front denotes less than is written. -/
lemma length_of_readCharacters_backslash {n : ℕ} {cs : List Char} {us : List ℕ} {rest : List Char}
    (h : readCharacters n ('\\' :: cs) = some (us, rest)) :
    us.length + (textUnits rest).length + 2 ≤ (textUnits ('\\' :: cs)).length := by
  rcases n with _ | n
  · cases h
  obtain ⟨es, k, vs, he, hr, rfl⟩ := exists_of_readCharacters_backslash h
  have h0 := length_codeUnits_pos '\\'
  have h1 := length_of_escape? he
  have h2 := length_of_readCharacters hr
  have h3 : textUnits cs = textUnits (cs.take k) ++ textUnits (cs.drop k) := by
    rw [← textUnits_append, List.take_append_drop]
  rw [textUnits_cons, h3]
  simp only [List.length_append]
  omega

/-! ## Characters that stand for themselves -/

/-- Characters that stand for themselves are passed on. -/
lemma readCharacters_append {before : List Char} (h : ∀ c ∈ before, Verbatim c) (n : ℕ)
    (cs : List Char) :
    readCharacters (before.length + n) (before ++ cs) =
      (readCharacters n cs).map fun r => (textUnits before ++ r.1, r.2) := by
  induction before with
  | nil =>
    rw [List.length_nil, Nat.zero_add, List.nil_append]
    simp
  | cons c before ih =>
    obtain ⟨⟨hq, hb, hn, hr⟩, hs⟩ := List.forall_mem_cons.1 h
    rw [List.length_cons, Nat.add_right_comm, List.cons_append, readCharacters, if_neg hq,
      if_neg (not_or.2 ⟨hn, hr⟩), if_neg hb, ih hs, Option.map_map]
    simp only [Function.comp_def, textUnits_cons, List.append_assoc]

/-! ## Values between quotes -/

section Quoted

variable {value : String} {before after : List Char}

lemma toList_envText (value : String) :
    (Globals.envText value).toList = '\'' :: (value.toList ++ ['\'']) := by
  rw [Globals.envText, String.toList_append, String.toList_append]
  rfl

/-- What is read of a value behind the characters that stand for themselves. -/
lemma readLiteral_envText (h : ∀ c ∈ before, Verbatim c) (hv : value.toList = before ++ after) :
    readLiteral (Globals.envText value).toList =
      (readCharacters (after.length + 2) (after ++ ['\''])).map fun r =>
        (textUnits before ++ r.1, r.2) := by
  have hl : (before ++ (after ++ ['\''])).length + 1 = before.length + (after.length + 2) := by
    simp only [List.length_append, List.length_singleton]
    omega
  rw [toList_envText, hv, List.append_assoc, readLiteral, hl, readCharacters_append h]

/-- A value whose characters stand for themselves is read back, with nothing left over. -/
lemma readLiteral_of_verbatim (h : ∀ c ∈ value.toList, Verbatim c) :
    readLiteral (Globals.envText value).toList = some (textUnits value.toList, []) := by
  rw [readLiteral_envText h (List.append_nil _).symm]
  simp [readCharacters]

/-- A quote ends the literal, and what comes behind it is left over. -/
lemma readLiteral_of_quote (h : ∀ c ∈ before, Verbatim c)
    (hv : value.toList = before ++ '\'' :: after) :
    readLiteral (Globals.envText value).toList = some (textUnits before, after ++ ['\'']) := by
  rw [readLiteral_envText h hv, List.cons_append, List.length_cons, readCharacters, if_pos rfl]
  simp

/-- There is no line break in a literal. -/
lemma readLiteral_of_break {c : Char} (h : ∀ c ∈ before, Verbatim c) (hc : c = '\n' ∨ c = '\r')
    (hv : value.toList = before ++ c :: after) :
    readLiteral (Globals.envText value).toList = none := by
  have hq : c ≠ '\'' := by
    rcases hc with rfl | rfl <;> decide
  rw [readLiteral_envText h hv, List.cons_append, List.length_cons, readCharacters, if_neg hq,
    if_pos hc]
  rfl

/-- A backslash and what it escapes denote less than themselves. -/
lemma length_of_backslash {us : List ℕ} {rest : List Char} (h : ∀ c ∈ before, Verbatim c)
    (hv : value.toList = before ++ '\\' :: after)
    (hr : readLiteral (Globals.envText value).toList = some (us, rest)) :
    us.length < (textUnits value.toList).length := by
  rw [readLiteral_envText h hv] at hr
  obtain ⟨⟨vs, r⟩, hread, hu⟩ := Option.map_eq_some_iff.1 hr
  cases hu
  have hl : vs.length + (textUnits r).length + 2 ≤
      (textUnits ('\\' :: after) ++ textUnits ['\'']).length := by
    rw [← textUnits_append]
    exact length_of_readCharacters_backslash hread
  have hq : (textUnits ['\'']).length = 1 := by decide
  rw [List.length_append, hq] at hl
  rw [hv, textUnits_append, List.length_append, List.length_append]
  dsimp only
  omega

/-- A value is read back exactly if all its characters stand for themselves. -/
lemma readLiteral_envText_iff (value : String) :
    readLiteral (Globals.envText value).toList = some (textUnits value.toList, []) ↔
      ∀ c ∈ value.toList, Verbatim c := by
  refine ⟨fun hr => ?_, readLiteral_of_verbatim⟩
  by_contra hn
  obtain ⟨d, hd⟩ : ∃ d, value.toList.find? (fun c => ¬Verbatim c) = some d := by
    rw [← Option.isSome_iff_exists, List.find?_isSome]
    simpa using hn
  obtain ⟨hd, before, after, hv, hb⟩ := List.find?_eq_some_iff_append.1 hd
  have hb : ∀ c ∈ before, Verbatim c := by simpa using hb
  have hd : d = '\'' ∨ d = '\\' ∨ d = '\n' ∨ d = '\r' := by
    have hd : ¬Verbatim d := of_decide_eq_true hd
    unfold Verbatim at hd
    tauto
  rcases hd with rfl | rfl | hd
  · rw [readLiteral_of_quote hb hv] at hr
    simp at hr
  · exact lt_irrefl _ (length_of_backslash hb hv hr)
  · rw [readLiteral_of_break hb hd hv] at hr
    cases hr

end Quoted

end Script

namespace Globals

/-- **What an inlined value is, read as a string literal.**  The text that an environment variable
is replaced by is one literal that denotes its value, with nothing left over, exactly if no
character of the value is a quote, a backslash or a line break.  If the first of these is a quote,
the literal ends there, and the rest of the value is left over as a piece of the script; if it is a
line break, there is no literal; and if it is a backslash, whatever is read is not the value. -/
theorem inlined_literal {g : Globals} {name value : String}
    (h : g.envs.find? name = some value) :
    ∃ text, g.inlined.find? ("process.env." ++ name) = some text ∧
      (Script.readLiteral text.toList = some (Script.textUnits value.toList, []) ↔
        ∀ c ∈ value.toList, c ≠ '\'' ∧ c ≠ '\\' ∧ c ≠ '\n' ∧ c ≠ '\r') ∧
      ∀ before c after, value.toList = before ++ c :: after →
        (∀ b ∈ before, b ≠ '\'' ∧ b ≠ '\\' ∧ b ≠ '\n' ∧ b ≠ '\r') →
        (c = '\'' → Script.readLiteral text.toList =
          some (Script.textUnits before, after ++ ['\''])) ∧
        (c = '\n' ∨ c = '\r' → Script.readLiteral text.toList = none) ∧
        (c = '\\' → ∀ us rest, Script.readLiteral text.toList = some (us, rest) →
          us ≠ Script.textUnits value.toList) := by
  refine ⟨envText value, find?_inlined_envKey h, Script.readLiteral_envText_iff value,
    fun before c after hv hb => ⟨?_, fun hc => ?_, ?_⟩⟩
  · rintro rfl
    exact Script.readLiteral_of_quote hb hv
  · exact Script.readLiteral_of_break hb hc hv
  · rintro rfl us rest hr rfl
    exact lt_irrefl _ (Script.length_of_backslash hb hv hr)

/-- A variable with a value that stands for itself, and one whose value has a quote in it. -/
def quotedGlobals : Globals := (({} : Globals).env "MODE" "release").env "TITLE" "it's"

theorem inlined_literal_quotedGlobals :
    quotedGlobals.envs.find? "MODE" = some "release" ∧
      quotedGlobals.envs.find? "TITLE" = some "it's" ∧
      (∃ text, quotedGlobals.inlined.find? ("process.env." ++ "MODE") = some text ∧
        Script.readLiteral text.toList = some (Script.textUnits "release".toList, [])) ∧
      ∃ text, quotedGlobals.inlined.find? ("process.env." ++ "TITLE") = some text ∧
        Script.readLiteral text.toList = some (Script.textUnits ['i', 't'], ['s', '\'']) := by
  have hm : quotedGlobals.envs.find? "MODE" = some "release" := by decide +kernel
  have ht : quotedGlobals.envs.find? "TITLE" = some "it's" := by decide +kernel
  have hv : "release".toList = ['r', 'e', 'l', 'e', 'a', 's', 'e'] := by decide +kernel
  obtain ⟨mode, hmode, hread, -⟩ := inlined_literal hm
  obtain ⟨title, htitle, -, hrest⟩ := inlined_literal ht
  refine ⟨hm, ht, ⟨mode, hmode, hread.2 (by simp [hv])⟩, title, htitle, ?_⟩
  exact (hrest ['i', 't'] '\'' ['s'] (by decide +kernel) (by simp)).1 rfl

/-- So it is not true that every value is inlined as a literal that denotes it. -/
theorem not_inlined_literal :
    ¬∀ (g : Globals) (name value : String), g.envs.find? name = some value →
      ∃ text, g.inlined.find? ("process.env." ++ name) = some text ∧
        Script.readLiteral text.toList = some (Script.textUnits value.toList, []) := by
  intro hall
  have ht : quotedGlobals.envs.find? "TITLE" = some "it's" := by decide +kernel
  obtain ⟨text, hf, hr⟩ := hall quotedGlobals "TITLE" "it's" ht
  have hf' : quotedGlobals.inlined.find? ("process.env." ++ "TITLE") = some "'it's'" := by
    decide +kernel
  rw [hf'] at hf
  cases hf
  revert hr
  decide +kernel

end Globals

end BenchRoster
