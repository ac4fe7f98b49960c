/-
# Documents as trees

What a text holds is a tree of lists and objects, whatever blanks it has.  The tree forgets numbers,
which no reader looks at but to skip them.

* `Tree.Heads` says that a text begins with a tree, and what follows it;
* `Tree.Heads.skipValue` says that a tree is skipped as a whole.
-/
import BenchRoster.Json.Typed
import Mathlib.Data.List.DropRight
import Mathlib.Tactic.Lemma

namespace BenchRoster

/-- A repeated step leaves what has a property that every step keeps. -/
lemma iterate_preserves {ε σ ρ : Type} {size : ρ → Nat} {step : σ → ρ → Except ε (Option σ × ρ)}
    {P : ρ → Prop} (hs : ∀ s r o r', P r → step s r = .ok (o, r') → P r') {s s' : σ} {r r' : ρ}
    (hr : P r) (h : iterate size step s r = .ok (s', r')) : P r' := by
  fun_induction iterate size step s r with
  | case1 s r e he => cases h
  | case2 s r q he =>
    cases h
    exact hs _ _ _ _ hr he
  | case3 s r t q he hlt ih => exact ih (hs _ _ _ _ hr he) h
  | case4 s r t q he hlt =>
    cases h
    exact hs _ _ _ _ hr he

namespace Json

/-! ## Trees -/

/-- A document.  A text is missing if its escapes make no characters. -/
inductive Tree where
  | null
  | flag (b : Bool)
  | number
  | text (s : Option String)
  | list (items : List Tree)
  | object (entries : List (Option String × Tree))

/-- The characters behind an opening quote begin with a text. -/
def Quoted (s : Option String) (cs rest : List Char) : Prop :=
  skipText cs = .ok rest ∧ s = (readText cs).toOption.map (·.1)

/-- What stands between two items or entries, or before the first one. -/
def Between (first : Bool) (cs rest : List Char) : Prop :=
  if first then cs = rest else skipBlanks cs = ',' :: rest

mutual

/-- A text begins with a tree, and the rest follows. -/
def Tree.Heads : Tree → List Char → List Char → Prop
  | .null, cs, rest => ∃ r, skipBlanks cs = 'n' :: r ∧ readWord ['u', 'l', 'l'] r = .ok rest
  | .flag true, cs, rest => ∃ r, skipBlanks cs = 't' :: r ∧ readWord ['r', 'u', 'e'] r = .ok rest
  | .flag false, cs, rest =>
    ∃ r, skipBlanks cs = 'f' :: r ∧ readWord ['a', 'l', 's', 'e'] r = .ok rest
  | .number, cs, rest =>
    (∃ r, skipBlanks cs = '-' :: r ∧ skipNumber r = .ok rest) ∨
      ∃ c r, skipBlanks cs = c :: r ∧ c.isDigit = true ∧ skipNumber (c :: r) = .ok rest
  | .text s, cs, rest => ∃ r, skipBlanks cs = '"' :: r ∧ Quoted s r rest
  | .list vs, cs, rest => ∃ r, skipBlanks cs = '[' :: r ∧ HeadItems true vs r rest
  | .object es, cs, rest => ∃ r, skipBlanks cs = '\x7b' :: r ∧ HeadEntries true es r rest

/-- A text begins with items and the end of their list. -/
def HeadItems : Bool → List Tree → List Char → List Char → Prop
  | _, [], cs, rest => skipBlanks cs = ']' :: rest
  | first, v :: vs, cs, rest =>
    ∃ r r', Between first cs r ∧ v.Heads r r' ∧ HeadItems false vs r' rest

/-- A text begins with entries and the end of their object. -/
def HeadEntries : Bool → List (Option String × Tree) → List Char → List Char → Prop
  | _, [], cs, rest => skipBlanks cs = '\x7d' :: rest
  | first, (k, v) :: es, cs, rest =>
    ∃ r q q' u r', Between first cs r ∧ skipBlanks r = '"' :: q ∧ Quoted k q q' ∧
      readColon q' = .ok u ∧ v.Heads u r' ∧ HeadEntries false es r' rest

end

/-! ## What is taken off a text -/

variable {cs r rest : List Char} {c : Char}

lemma suffix_of_skipBlanks (h : skipBlanks cs = c :: r) : c :: r <:+ cs :=
  h ▸ List.dropWhile_suffix isBlank

lemma suffix_of_readWord {w : List Char} (h : readWord w cs = .ok rest) : rest <:+ cs := by
  induction w generalizing cs with
  | nil =>
    cases h
    exact List.suffix_rfl
  | cons x w ih =>
    cases cs with
    | nil => cases h
    | cons c cs =>
      rw [readWord] at h
      split at h
      · exact (ih h).trans (List.suffix_cons c cs)
      · cases h

lemma suffix_of_skipExponent (h : skipExponent cs = .ok rest) : rest <:+ cs := by
  have hd : ∀ {c r}, (if Char.isDigit c = true then Except.ok (r.dropWhile Char.isDigit)
      else faultAhead .invalidNumber (c :: r)) = .ok rest → rest <:+ c :: r := by
    intro c r h
    split at h
    · cases h
      exact (List.dropWhile_suffix _).trans (List.suffix_cons c r)
    · cases h
  unfold skipExponent at h
  dsimp only at h
  split at h
  · cases h
  · rename_i hx
    have hr := hd h
    rw [← hx] at hr
    revert hr
    split
    · exact fun hr => hr.trans (List.suffix_cons _ _)
    · exact fun hr => hr.trans (List.suffix_cons _ _)
    · exact id

lemma suffix_of_skipScale (h : skipScale cs = .ok rest) : rest <:+ cs := by
  cases cs with
  | nil =>
    cases h
    exact List.suffix_rfl
  | cons c r =>
    rw [skipScale] at h
    split at h
    · exact (suffix_of_skipExponent h).trans (List.suffix_cons c r)
    · cases h
      exact List.suffix_rfl

lemma suffix_of_skipNumber (h : skipNumber (c :: r) = .ok rest) : rest <:+ r := by
  unfold skipNumber at h
  dsimp only at h
  split at h
  · have hs : (if c = '0' then r else r.dropWhile Char.isDigit) <:+ r := by
      split
      · exact List.suffix_rfl
      · exact List.dropWhile_suffix _
    split at h
    · rename_i d r' hr
      rw [hr] at hs
      split_ifs at h
      · cases h
      · split at h
        · rename_i f r''
          split at h
          · have := (suffix_of_skipScale h).trans (List.dropWhile_suffix _)
            exact this.trans ((List.suffix_cons f r'').trans ((List.suffix_cons d _).trans hs))
          · cases h
        · cases h
      · exact (suffix_of_skipScale h).trans hs
    · cases h
      exact List.nil_suffix
  · cases h

lemma suffix_of_readHex {n : Nat} (h : readHex cs = .ok (n, rest)) : rest <:+ cs := by
  unfold readHex at h
  split at h
  · cases h
  · split at h
    · split at h
      · cases h
        exact ⟨[_, _, _, _], rfl⟩
      · cases h
    · cases h

lemma suffix_of_skipTextStep {u : Unit} {o : Option Unit} (h : skipTextStep u cs = .ok (o, rest)) :
    rest <:+ cs.tail := by
  unfold skipTextStep at h
  split at h
  · cases h
  · rename_i c r
    split_ifs at h
    · cases h
      exact List.suffix_rfl
    · split at h
      · cases h
      · rename_i d r'
        split_ifs at h
        · cases h
          exact List.suffix_cons d rest
        · split at h
          · cases h
          · rename_i n q hq
            cases h
            exact (suffix_of_readHex hq).trans (List.suffix_cons d r')
        · cases h
    · cases h
    · cases h
      exact List.suffix_rfl

lemma suffix_of_skipText (h : skipText cs = .ok rest) : rest <:+ cs := by
  unfold skipText at h
  split at h
  · cases h
  · rename_i s r hs
    cases h
    refine iterate_preserves (P := (· <:+ cs)) (fun s r o r' hr h => ?_) List.suffix_rfl hs
    exact ((suffix_of_skipTextStep h).trans (List.tail_suffix r)).trans hr

/-! ### Texts that are read and texts that are skipped -/

lemma skipTexts_cons (h : skipTextStep () (c :: cs) = .ok (some (), rest)) :
    repeatStep skipTextStep () (c :: cs) = repeatStep skipTextStep () rest :=
  iterate_go h (Nat.lt_succ_of_le (suffix_of_skipTextStep h).length_le)

/-- A character by its number is skipped with its four digits. -/
lemma skipTexts_hex {n : Nat} (h : readHex cs = .ok (n, rest)) :
    repeatStep skipTextStep () ('\\' :: 'u' :: cs) = repeatStep skipTextStep () rest := by
  have hu : shortEscape? 'u' = none := rfl
  refine skipTexts_cons ?_
  simp [skipTextStep, hu, h]

/-- The second half of a pair is skipped on its own. -/
lemma skipTexts_of_readLowSurrogate {high : Nat} {d : Char}
    (h : readLowSurrogate high cs = .ok (d, rest)) :
    rest <:+ cs ∧ repeatStep skipTextStep () cs = repeatStep skipTextStep () rest := by
  unfold readLowSurrogate at h
  split at h
  · cases h
  · rename_i c r
    split_ifs at h with hc
    · subst hc
      split at h
      · cases h
      · rename_i d r'
        split_ifs at h with hd
        · subst hd
          rcases hl : readHex r' with f | ⟨low, q⟩ <;> simp only [hl] at h
          · cases h
          · split_ifs at h
            · simp only [Except.ok.injEq, Prod.mk.injEq] at h
              obtain ⟨-, rfl⟩ := h
              exact ⟨(suffix_of_readHex hl).trans ⟨['\\', 'u'], rfl⟩, skipTexts_hex hl⟩
            · cases h
        · cases h
    · cases h

lemma skipTexts_of_readEscape {d : Char} (h : readEscape cs = .ok (d, rest)) :
    rest <:+ cs ∧
      repeatStep skipTextStep () ('\\' :: cs) = repeatStep skipTextStep () rest := by
  unfold readEscape at h
  split at h
  · cases h
  · rename_i c r
    rcases hs : shortEscape? c with _ | x <;> simp only [hs] at h
    · split_ifs at h with hc
      · subst hc
        rcases hr : readHex r with f | ⟨n, q⟩ <;> simp only [hr] at h
        · cases h
        · have hq : q <:+ 'u' :: r := (suffix_of_readHex hr).trans (List.suffix_cons _ _)
          split_ifs at h
          · cases h
          · obtain ⟨hl, he⟩ := skipTexts_of_readLowSurrogate h
            exact ⟨hl.trans hq, (skipTexts_hex hr).trans he⟩
          · simp only [Except.ok.injEq, Prod.mk.injEq] at h
            obtain ⟨-, rfl⟩ := h
            exact ⟨hq, skipTexts_hex hr⟩
      · cases h
    · cases h
      refine ⟨List.suffix_cons c rest, skipTexts_cons ?_⟩
      simp [skipTextStep, hs]

/-- Where a character of a text is read, one or two steps skip it. -/
lemma skipTexts_of_textStep {acc acc' : List Char} (h : textStep acc cs = .ok (some acc', rest)) :
    rest.length < cs.length ∧
      repeatStep skipTextStep () cs = repeatStep skipTextStep () rest := by
  unfold textStep at h
  split at h
  · cases h
  · rename_i c r
    split_ifs at h with hq hb hn
    · cases h
    · subst hb
      rcases he : readEscape r with f | ⟨d, q⟩ <;> simp only [he] at h
      · cases h
      · cases h
        obtain ⟨hl, hs⟩ := skipTexts_of_readEscape he
        exact ⟨Nat.lt_succ_of_le hl.length_le, hs⟩
    · cases h
    · cases h
      refine ⟨Nat.lt_succ_self _, skipTexts_cons ?_⟩
      simp only [skipTextStep, if_neg hq, if_neg hb, if_neg hn]

/-- A closing quote ends a text for both. -/
lemma skipTextStep_of_textStep {acc : List Char} (h : textStep acc cs = .ok (none, rest)) :
    skipTextStep () cs = .ok (none, rest) := by
  unfold textStep at h
  split at h
  · cases h
  · rename_i c r
    split_ifs at h with hq hb hn
    · cases h
      simp only [skipTextStep, if_pos hq]
    · split at h
      · cases h
      · cases h
    · cases h
    · cases h

/-- A text that is read is skipped to the same place. -/
lemma skipText_of_readText {s : String} (h : readText cs = .ok (s, rest)) :
    skipText cs = .ok rest := by
  have hr : ∀ acc acc', repeatStep textStep acc cs = .ok (acc', rest) →
      repeatStep skipTextStep () cs = .ok ((), rest) := by
    intro acc acc'
    clear h
    unfold repeatStep
    fun_induction iterate List.length textStep acc cs with
    | case1 acc cs f he => exact nofun
    | case2 acc cs q he =>
      rintro ⟨⟩
      exact iterate_stop (skipTextStep_of_textStep he)
    | case3 acc cs t q he hlt ih =>
      exact fun h => (skipTexts_of_textStep he).2.trans (ih h)
    | case4 acc cs t q he hlt => exact absurd (skipTexts_of_textStep he).1 hlt
  unfold readText at h
  split at h
  · cases h
  · rename_i acc' q hq
    cases h
    rw [skipText, hr _ _ hq]

/-! ## Trees are skipped as a whole -/

lemma length_of_skipBlanks (h : skipBlanks cs = c :: r) : r.length < cs.length :=
  (suffix_of_skipBlanks h).length_le

lemma skipBlanks_idem (cs : List Char) : skipBlanks (skipBlanks cs) = skipBlanks cs :=
  List.dropWhile_idempotent _ cs

/-- Blanks before a tree do not matter. -/
lemma Tree.Heads.of_skipBlanks_eq {v : Tree} {ds : List Char} (h : v.Heads cs rest)
    (hd : skipBlanks cs = skipBlanks ds) : v.Heads ds rest := by
  rcases v with _ | (_ | _) | _ | _ | _ | _ <;> simpa only [Tree.Heads, hd] using h

/-- A tree does not begin with the end of a list or of an object. -/
lemma Tree.Heads.exists_cons {v : Tree} (h : v.Heads cs rest) :
    ∃ c r, skipBlanks cs = c :: r ∧ c ≠ ']' ∧ c ≠ '\x7d' := by
  have hd : ∀ c : Char, c.isDigit = true → c ≠ ']' ∧ c ≠ '\x7d' := by
    rintro c hc
    constructor <;> rintro rfl <;> cases hc
  rcases v with _ | (_ | _) | _ | _ | _ | _
  case number =>
    obtain ⟨r, hb, -⟩ | ⟨c, r, hb, hc, -⟩ := h
    · exact ⟨_, r, hb, by decide⟩
    · exact ⟨c, r, hb, hd c hc⟩
  all_goals
    obtain ⟨r, hb, -⟩ := h
    exact ⟨_, r, hb, by decide⟩

lemma suffix_of_readColon (h : readColon cs = .ok rest) : rest <:+ cs := by
  unfold readColon at h
  split at h
  · cases h
  · rename_i c r hb
    split_ifs at h
    · cases h
      exact (List.suffix_cons c rest).trans (suffix_of_skipBlanks hb)
    · cases h

lemma skipKey_eq_ok {q q' u : List Char} (hb : skipBlanks cs = '"' :: q) (ht : skipText q = .ok q')
    (hc : readColon q' = .ok u) : skipKey cs = .ok u := by
  unfold readColon at hc
  simp only [skipKey, hb, if_true, ht]
  exact hc

lemma skips_step {s s' : Skip} (h : skipStep s cs = .ok (some s', rest))
    (hlt : rest.length < cs.length) :
    repeatStep skipStep s cs = repeatStep skipStep s' rest :=
  iterate_go h hlt

/-- A value that is no list and no object is skipped by one step. -/
lemma skips_atom (hb : skipBlanks cs = c :: r) (hl : c ≠ '[') (ho : c ≠ '\x7b')
    (ha : skipAtom c r = .ok rest) (hs : rest <:+ r) :
    rest.length < cs.length ∧ ∀ around,
      repeatStep skipStep (.before around) cs = repeatStep skipStep (.after around) rest := by
  have hlt := hs.length_le.trans_lt (length_of_skipBlanks hb)
  refine ⟨hlt, fun around => skips_step ?_ hlt⟩
  simp only [skipStep, hb, if_neg hl, if_neg ho, ha]

lemma skips_number (h : Tree.number.Heads cs rest) :
    rest.length < cs.length ∧ ∀ around,
      repeatStep skipStep (.before around) cs = repeatStep skipStep (.after around) rest := by
  obtain ⟨r, hb, hn⟩ | ⟨c, r, hb, hc, hn⟩ := h
  · have hs : rest <:+ r := by
      cases r with
      | nil => cases hn
      | cons c r => exact (suffix_of_skipNumber hn).trans (List.suffix_cons c r)
    exact skips_atom hb (by decide) (by decide) hn hs
  · have hd : ∀ d : Char, d.isDigit = false → c ≠ d := by
      rintro d hd rfl
      rw [hc] at hd
      cases hd
    refine skips_atom hb (hd _ rfl) (hd _ rfl) ?_ (suffix_of_skipNumber hn)
    rw [skipAtom, if_neg (hd _ rfl), if_neg (hd _ rfl), if_neg (hd _ rfl), if_neg (hd _ rfl),
      if_pos hc, hn]

/-- The key and the colon of an entry are skipped. -/
lemma skipKey_of_entry {k : Option String} {q q' u : List Char} (hb : skipBlanks cs = '"' :: q)
    (hk : Quoted k q q') (hc : readColon q' = .ok u) :
    u.length < cs.length ∧ skipKey cs = .ok u := by
  have hs := (suffix_of_readColon hc).trans (suffix_of_skipText hk.1)
  exact ⟨hs.length_le.trans_lt (length_of_skipBlanks hb), skipKey_eq_ok hb hk.1 hc⟩

mutual

/-- A tree at the front of a text is skipped. -/
lemma Tree.Heads.skips : ∀ {v : Tree} {cs rest : List Char}, v.Heads cs rest →
    rest.length < cs.length ∧ ∀ around,
      repeatStep skipStep (.before around) cs = repeatStep skipStep (.after around) rest
  | .null, cs, rest, h => by
    obtain ⟨r, hb, hw⟩ := h
    exact skips_atom hb (by decide) (by decide) hw (suffix_of_readWord hw)
  | .flag true, cs, rest, h => by
    obtain ⟨r, hb, hw⟩ := h
    exact skips_atom hb (by decide) (by decide) hw (suffix_of_readWord hw)
  | .flag false, cs, rest, h => by
    obtain ⟨r, hb, hw⟩ := h
    exact skips_atom hb (by decide) (by decide) hw (suffix_of_readWord hw)
  | .number, cs, rest, h => skips_number h
  | .text s, cs, rest, h => by
    obtain ⟨r, hb, hq, -⟩ := h
    exact skips_atom hb (by decide) (by decide) hq (suffix_of_skipText hq)
  | .list [], cs, rest, h => by
    obtain ⟨r, hb, hr⟩ := h
    have hr : skipBlanks r = ']' :: rest := hr
    have hlt := (length_of_skipBlanks hr).trans (length_of_skipBlanks hb)
    refine ⟨hlt, fun around => skips_step ?_ hlt⟩
    simp [skipStep, hb, skipOpen, hr, Bracket.closing]
  | .list (v :: vs), cs, rest, h => by
    obtain ⟨r, hb, _, r', rfl, hv, hi⟩ := h
    obtain ⟨c, q, hc, hl, -⟩ := hv.exists_cons
    have hv' : v.Heads (c :: q) r' := hv.of_skipBlanks_eq (by rw [← hc, skipBlanks_idem])
    have hlt : (c :: q).length < cs.length :=
      (suffix_of_skipBlanks hc).length_le.trans_lt (length_of_skipBlanks hb)
    obtain ⟨hvl, hvs⟩ := Tree.Heads.skips hv'
    obtain ⟨hil, his⟩ := HeadItems.skips hi
    refine ⟨(hil.trans hvl).trans hlt, fun around => ?_⟩
    have hs : skipStep (.before around) cs = .ok (some (.before (.list :: around)), c :: q) := by
      simp [skipStep, hb, skipOpen, hc, Bracket.closing, hl, skipInto]
    rw [skips_step hs hlt, hvs, his]
  | .object [], cs, rest, h => by
    obtain ⟨r, hb, hr⟩ := h
    have hr : skipBlanks r = '\x7d' :: rest := hr
    have hlt := (length_of_skipBlanks hr).trans (length_of_skipBlanks hb)
    refine ⟨hlt, fun around => skips_step ?_ hlt⟩
    simp [skipStep, hb, skipOpen, hr, Bracket.closing]
  | .object ((k, v) :: es), cs, rest, h => by
    obtain ⟨r, hb, _, q, q', u, r', rfl, hq, hk, hc, hv, he⟩ := h
    have hq' : skipBlanks ('"' :: q) = '"' :: q := by rw [← hq, skipBlanks_idem]
    obtain ⟨hkl, hks⟩ := skipKey_of_entry hq' hk hc
    have hlt : u.length < cs.length := hkl.trans
      ((suffix_of_skipBlanks hq).length_le.trans_lt (length_of_skipBlanks hb))
    obtain ⟨hvl, hvs⟩ := Tree.Heads.skips hv
    obtain ⟨hel, hes⟩ := HeadEntries.skips he
    refine ⟨(hel.trans hvl).trans hlt, fun around => ?_⟩
    have hs : skipStep (.before around) cs = .ok (some (.before (.object :: around)), u) := by
      simp [skipStep, hb, skipOpen, hq, Bracket.closing, skipInto, hks]
    rw [skips_step hs hlt, hvs, hes]

/-- Items behind an item are skipped with the end of their list. -/
lemma HeadItems.skips : ∀ {vs : List Tree} {cs rest : List Char}, HeadItems false vs cs rest →
    rest.length < cs.length ∧ ∀ around,
      repeatStep skipStep (.after (.list :: around)) cs = repeatStep skipStep (.after around) rest
  | [], cs, rest, h => by
    have hb : skipBlanks cs = ']' :: rest := h
    have hlt := length_of_skipBlanks hb
    refine ⟨hlt, fun around => skips_step ?_ hlt⟩
    simp [skipStep, hb, Bracket.closing]
  | v :: vs, cs, rest, h => by
    obtain ⟨r, r', hb, hv, hi⟩ := h
    have hb : skipBlanks cs = ',' :: r := hb
    have hlt := length_of_skipBlanks hb
    obtain ⟨hvl, hvs⟩ := Tree.Heads.skips hv
    obtain ⟨hil, his⟩ := HeadItems.skips hi
    refine ⟨(hil.trans hvl).trans hlt, fun around => ?_⟩
    have hs : skipStep (.after (.list :: around)) cs =
        .ok (some (.before (.list :: around)), r) := by
      simp [skipStep, hb, skipInto]
    rw [skips_step hs hlt, hvs, his]

/-- Entries behind an entry are skipped with the end of their object. -/
lemma HeadEntries.skips : ∀ {es : List (Option String × Tree)} {cs rest : List Char},
    HeadEntries false es cs rest → rest.length < cs.length ∧ ∀ around,
      repeatStep skipStep (.after (.object :: around)) cs = repeatStep skipStep (.after around) rest
  | [], cs, rest, h => by
    have hb : skipBlanks cs = '\x7d' :: rest := h
    have hlt := length_of_skipBlanks hb
    refine ⟨hlt, fun around => skips_step ?_ hlt⟩
    simp [skipStep, hb, Bracket.closing]
  | (k, v) :: es, cs, rest, h => by
    obtain ⟨r, q, q', u, r', hb, hq, hk, hc, hv, he⟩ := h
    have hb : skipBlanks cs = ',' :: r := hb
    obtain ⟨hkl, hks⟩ := skipKey_of_entry hq hk hc
    have hlt : u.length < cs.length := hkl.trans (length_of_skipBlanks hb)
    obtain ⟨hvl, hvs⟩ := Tree.Heads.skips hv
    obtain ⟨hel, hes⟩ := HeadEntries.skips he
    refine ⟨(hel.trans hvl).trans hlt, fun around => ?_⟩
    have hs : skipStep (.after (.object :: around)) cs =
        .ok (some (.before (.object :: around)), u) := by
      simp [skipStep, hb, skipInto, hks]
    rw [skips_step hs hlt, hvs, hes]

end

/-- **A tree is skipped as a whole.** -/
lemma Tree.Heads.skipValue {v : Tree} (h : v.Heads cs rest) : Json.skipValue cs = .ok rest := by
  have hs : repeatStep skipStep (.after []) rest = .ok (.after [], rest) := iterate_stop rfl
  rw [Json.skipValue, h.skips.2 [], hs]

/-! ## What is skipped is a tree -/

/-- A repetition that ends well has stopped, or has gone on. -/
lemma exists_of_repeatStep {σ : Type} {step : σ → List Char → Except Fault (Option σ × List Char)}
    {s : σ} {x : σ × List Char} (h : repeatStep step s cs = .ok x) :
    (∃ r, step s cs = .ok (none, r) ∧ x = (s, r)) ∨
      ∃ s' r, step s cs = .ok (some s', r) ∧
        (r.length < cs.length → repeatStep step s' r = .ok x) := by
  rcases hs : step s cs with f | ⟨_ | s', r⟩
  · rw [repeatStep, iterate_error hs] at h
    cases h
  · rw [repeatStep, iterate_stop hs] at h
    cases h
    exact .inl ⟨r, rfl, rfl⟩
  · refine .inr ⟨s', r, rfl, fun hlt => ?_⟩
    rwa [repeatStep, iterate_go hs hlt] at h

lemma quoted_of_skipText (h : skipText cs = .ok rest) : ∃ s, Quoted s cs rest :=
  ⟨_, h, rfl⟩

/-- What stands before the value of an entry. -/
lemma entry_of_skipKey {u : List Char} (h : skipKey cs = .ok u) :
    ∃ k q q', skipBlanks cs = '"' :: q ∧ Quoted k q q' ∧ readColon q' = .ok u := by
  unfold skipKey at h
  split at h
  · cases h
  · rename_i c q hb
    split_ifs at h with hc
    · subst hc
      rcases ht : skipText q with f | q' <;> simp only [ht] at h
      · cases h
      · obtain ⟨k, hk⟩ := quoted_of_skipText ht
        exact ⟨k, q, q', hb, hk, h⟩
    · cases h

/-- A value that is no list and no object. -/
lemma exists_of_skipAtom (hb : skipBlanks cs = c :: r) (h : skipAtom c r = .ok rest) :
    ∃ v : Tree, v.Heads cs rest := by
  unfold skipAtom at h
  split_ifs at h with hn ht hf hm hd hq
  · exact ⟨.null, r, hn ▸ hb, h⟩
  · exact ⟨.flag true, r, ht ▸ hb, h⟩
  · exact ⟨.flag false, r, hf ▸ hb, h⟩
  · exact ⟨.number, .inl ⟨r, hm ▸ hb, h⟩⟩
  · exact ⟨.number, .inr ⟨c, r, hb, hd, h⟩⟩
  · obtain ⟨s, hs⟩ := quoted_of_skipText h
    exact ⟨.text s, r, hq ▸ hb, hs⟩
  · cases h

/-- What a step that goes into a value has taken: nothing in a list, a key in an object. -/
def Entered : Bracket → Option String → List Char → List Char → Prop
  | .list, _, cs, rest => cs = rest
  | .object, k, cs, rest =>
    ∃ q q', skipBlanks cs = '"' :: q ∧ Quoted k q q' ∧ readColon q' = .ok rest

lemma entered_of_skipInto {b : Bracket} {around : List Bracket} {o : Option Skip}
    (h : skipInto b around cs = .ok (o, rest)) :
    o = some (.before (b :: around)) ∧ ∃ k, Entered b k cs rest := by
  cases b with
  | list =>
    cases h
    exact ⟨rfl, none, rfl⟩
  | object =>
    unfold skipInto at h
    rcases hk : skipKey cs with f | u <;> simp only [hk] at h
    · cases h
    · cases h
      exact ⟨rfl, entry_of_skipKey hk⟩

lemma Entered.suffix {b : Bracket} {k : Option String} (h : Entered b k cs rest) :
    rest <:+ cs := by
  cases b with
  | list =>
    obtain rfl : cs = rest := h
    exact List.suffix_rfl
  | object =>
    obtain ⟨q, q', hb, hk, hc⟩ := h
    exact ((suffix_of_readColon hc).trans (suffix_of_skipText hk.1)).trans
      ((List.suffix_cons _ q).trans (suffix_of_skipBlanks hb))

/-- A step before a value takes the whole of it, or goes into its first item or entry. -/
lemma skipStep_before {around : List Bracket} {o : Option Skip}
    (h : skipStep (.before around) cs = .ok (o, rest)) :
    (o = some (.after around) ∧ ∃ v : Tree, v.Heads cs rest) ∨
      ∃ b r k, skipBlanks cs = b.opening :: r ∧ o = some (.before (b :: around)) ∧
        Entered b k (skipBlanks r) rest := by
  have hopen : ∀ {b r}, skipBlanks cs = Bracket.opening b :: r →
      skipOpen b around r = .ok (o, rest) →
      (∃ q, skipBlanks r = b.closing :: q ∧ o = some (.after around) ∧ rest = q) ∨
        (o = some (.before (b :: around)) ∧ ∃ k, Entered b k (skipBlanks r) rest) := by
    intro b r hb h
    unfold skipOpen at h
    split at h
    · cases h
    · rename_i d q hd
      split_ifs at h with hc
      · cases h
        exact .inl ⟨rest, by rw [hd, hc], rfl, rfl⟩
      · rw [← hd] at h
        exact .inr (entered_of_skipInto h)
  rcases hb : skipBlanks cs with _ | ⟨c, r⟩ <;> simp only [skipStep, hb] at h
  · cases h
  · split_ifs at h with hl ho
    · subst hl
      obtain ⟨q, hq, rfl, rfl⟩ | ⟨rfl, k, hk⟩ := hopen (b := .list) hb h
      · exact .inl ⟨rfl, .list [], r, hb, hq⟩
      · exact .inr ⟨.list, r, k, rfl, rfl, hk⟩
    · subst ho
      obtain ⟨q, hq, rfl, rfl⟩ | ⟨rfl, k, hk⟩ := hopen (b := .object) hb h
      · exact .inl ⟨rfl, .object [], r, hb, hq⟩
      · exact .inr ⟨.object, r, k, rfl, rfl, hk⟩
    · rcases ha : skipAtom c r with f | q <;> simp only [ha] at h
      · cases h
      · cases h
        exact .inl ⟨rfl, exists_of_skipAtom hb ha⟩

/-- A step after a value ends what is around it, or goes into the next item or entry. -/
lemma skipStep_after {b : Bracket} {around : List Bracket} {o : Option Skip}
    (h : skipStep (.after (b :: around)) cs = .ok (o, rest)) :
    (o = some (.after around) ∧ skipBlanks cs = b.closing :: rest) ∨
      ∃ r k, skipBlanks cs = ',' :: r ∧ o = some (.before (b :: around)) ∧ Entered b k r rest := by
  rcases hb : skipBlanks cs with _ | ⟨c, r⟩ <;> simp only [skipStep, hb] at h
  · cases h
  · split_ifs at h with hc he
    · obtain ⟨rfl, k, hk⟩ := entered_of_skipInto h
      exact .inr ⟨r, k, by rw [hc], rfl, hk⟩
    · cases h
      exact .inl ⟨rfl, by rw [he]⟩
    · cases h

/-- A text begins with more items or entries and the end of what they are in. -/
def Ends : Bracket → List Char → List Char → Prop
  | .list, cs, rest => ∃ vs, HeadItems false vs cs rest
  | .object, cs, rest => ∃ es, HeadEntries false es cs rest

section

variable {b : Bracket} {k : Option String} {u mid : List Char} {v : Tree}

lemma ends_closing (h : skipBlanks cs = b.closing :: rest) : Ends b cs rest := by
  cases b with
  | list => exact ⟨[], h⟩
  | object => exact ⟨[], h⟩

lemma Ends.cons (hb : skipBlanks cs = ',' :: r) (hk : Entered b k r u) (hv : v.Heads u mid)
    (he : Ends b mid rest) : Ends b cs rest := by
  cases b with
  | list =>
    obtain ⟨vs, hi⟩ := he
    obtain rfl : r = u := hk
    exact ⟨v :: vs, r, mid, hb, hv, hi⟩
  | object =>
    obtain ⟨es, hi⟩ := he
    obtain ⟨q, q', hq, hk, hc⟩ := hk
    exact ⟨(k, v) :: es, r, q, q', u, mid, hb, hq, hk, hc, hv, hi⟩

/-- A first item or entry and what comes after it make a tree. -/
lemma Ends.exists_tree (hb : skipBlanks cs = b.opening :: r) (hk : Entered b k (skipBlanks r) u)
    (hv : v.Heads u mid) (he : Ends b mid rest) : ∃ w : Tree, w.Heads cs rest := by
  cases b with
  | list =>
    obtain ⟨vs, hi⟩ := he
    obtain rfl : skipBlanks r = u := hk
    exact ⟨.list (v :: vs), r, hb, r, mid, rfl, hv.of_skipBlanks_eq (skipBlanks_idem r), hi⟩
  | object =>
    obtain ⟨es, hi⟩ := he
    obtain ⟨q, q', hq, hk, hc⟩ := hk
    rw [skipBlanks_idem] at hq
    exact ⟨.object ((k, v) :: es), r, hb, r, q, q', u, mid, rfl, hq, hk, hc, hv, hi⟩

end

mutual

/-- Skipping from before a value takes a tree. -/
lemma exists_of_before {around : List Bracket} {cs : List Char} {x : Skip × List Char}
    (h : repeatStep skipStep (.before around) cs = .ok x) :
    ∃ (v : Tree) (mid : List Char), v.Heads cs mid ∧
      repeatStep skipStep (.after around) mid = .ok x := by
  obtain ⟨r, hs, -⟩ | ⟨s', u, hs, hgo⟩ := exists_of_repeatStep h
  · obtain ⟨ho, -⟩ | ⟨b, r, k, -, ho, -⟩ := skipStep_before hs <;> cases ho
  · obtain ⟨ho, v, hv⟩ | ⟨b, r, k, hb, ho, hk⟩ := skipStep_before hs
    · cases ho
      exact ⟨v, u, hv, hgo hv.skips.1⟩
    · cases ho
      have hu : u <:+ r := hk.suffix.trans (List.dropWhile_suffix _)
      have hlt : u.length < cs.length := hu.length_le.trans_lt (length_of_skipBlanks hb)
      obtain ⟨v, mid, hv, hm⟩ := exists_of_before (hgo hlt)
      have hlm := hv.skips.1
      obtain ⟨mid', he, hm'⟩ := exists_of_after hm
      obtain ⟨w, hw⟩ := he.exists_tree hb hk hv
      exact ⟨w, mid', hw, hm'⟩
termination_by cs.length

/-- Skipping from after a value takes what is left of the list or the object around it. -/
lemma exists_of_after {b : Bracket} {around : List Bracket} {cs : List Char} {x : Skip × List Char}
    (h : repeatStep skipStep (.after (b :: around)) cs = .ok x) :
    ∃ mid, Ends b cs mid ∧ repeatStep skipStep (.after around) mid = .ok x := by
  obtain ⟨r, hs, -⟩ | ⟨s', u, hs, hgo⟩ := exists_of_repeatStep h
  · obtain ⟨ho, -⟩ | ⟨r, k, -, ho, -⟩ := skipStep_after hs <;> cases ho
  · obtain ⟨ho, hb⟩ | ⟨r, k, hb, ho, hk⟩ := skipStep_after hs
    · cases ho
      exact ⟨u, ends_closing hb, hgo (length_of_skipBlanks hb)⟩
    · cases ho
      have hlt : u.length < cs.length := hk.suffix.length_le.trans_lt (length_of_skipBlanks hb)
      obtain ⟨v, mid, hv, hm⟩ := exists_of_before (hgo hlt)
      have hlm := hv.skips.1
      obtain ⟨mid', he, hm'⟩ := exists_of_after hm
      exact ⟨mid', he.cons hb hk hv, hm'⟩
termination_by cs.length

end

/-- What is skipped is a tree. -/
lemma exists_of_skipValue (h : skipValue cs = .ok rest) : ∃ v : Tree, v.Heads cs rest := by
  unfold skipValue at h
  rcases hr : repeatStep skipStep (.before []) cs with f | x <;> simp only [hr] at h
  · cases h
  · cases h
    obtain ⟨v, mid, hv, hm⟩ := exists_of_before hr
    rw [repeatStep, iterate_stop rfl] at hm
    cases hm
    exact ⟨v, hv⟩

end Json

end BenchRoster
