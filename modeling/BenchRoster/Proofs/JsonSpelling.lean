/-
# Every tree is written somewhere

There is a text for each tree, so what is said of all texts that hold a tree is never said of none.

* `Tree.spell` writes a tree without line feeds, with a blank behind every item and every entry;
* `Tree.exists_fills` says that the tree is what this text holds.
-/
import BenchRoster.Proofs.JsonRecords
import BenchRoster.Proofs.ReadBack

namespace BenchRoster.Json

/-! ## Spelling -/

/-- A text with its closing quote; one that is missing is half of a pair. -/
def spellText : Option String → List Char
  | some s => s.toList.flatMap quoteChar ++ ['"']
  | none => ['\\', 'u', 'd', '8', '0', '0', '"']

mutual

/-- The characters of a tree. -/
def Tree.spell : Tree → List Char
  | .null => ['n', 'u', 'l', 'l']
  | .flag true => ['t', 'r', 'u', 'e']
  | .flag false => ['f', 'a', 'l', 's', 'e']
  | .number => ['0']
  | .text s => '"' :: spellText s
  | .list [] => ['[', ']']
  | .list (v :: vs) => '[' :: (v.spell ++ ' ' :: spellItems vs)
  | .object [] => ['\x7b', '\x7d']
  | .object ((k, v) :: es) =>
    '\x7b' :: '"' :: (spellText k ++ ':' :: (v.spell ++ ' ' :: spellEntries es))

/-- The items behind an item, and the end of their list. -/
def spellItems : List Tree → List Char
  | [] => [']']
  | v :: vs => ',' :: (v.spell ++ ' ' :: spellItems vs)

/-- The entries behind an entry, and the end of their object. -/
def spellEntries : List (Option String × Tree) → List Char
  | [] => ['\x7d']
  | (k, v) :: es => ',' :: '"' :: (spellText k ++ ':' :: (v.spell ++ ' ' :: spellEntries es))

end

/-! ## What is spelled is there -/

/-- Half of a pair is skipped, but it is no character. -/
lemma quoted_none (rest : List Char) :
    Quoted none ('\\' :: 'u' :: 'd' :: '8' :: '0' :: '0' :: '"' :: rest) rest := by
  have hhex : readHex ('d' :: '8' :: '0' :: '0' :: '"' :: rest) = .ok (0xD800, '"' :: rest) := by
    have hl : ¬(Text.encode ['d', '8', '0', '0']).length < 4 := by decide
    have hv : Text.number? 16 ['d', '8', '0', '0'] = some 0xD800 := by decide
    simp only [readHex, List.take_succ_cons, List.take_zero, if_neg hl, hv]
  have hu : shortEscape? 'u' = none := rfl
  constructor
  · have hq : repeatStep skipTextStep () ('"' :: rest) = .ok ((), rest) := iterate_stop rfl
    rw [skipText, skipTexts_hex hhex, hq]
  · have he : textStep [] ('\\' :: 'u' :: 'd' :: '8' :: '0' :: '0' :: '"' :: rest) =
        faultAhead .unfinishedSurrogate ('"' :: rest) := by
      simp [textStep, readEscape, hu, hhex, readLowSurrogate, faultAhead]
    rw [readText, repeatStep, iterate_error he]
    rfl

lemma quoted_spellText (s : Option String) (rest : List Char) :
    Quoted s (spellText s ++ rest) rest := by
  cases s with
  | none => exact quoted_none rest
  | some s =>
    rw [spellText, List.append_assoc]
    exact quoted_of_readText (readText_quoted s rest)

mutual

/-- A tree is found where it is spelled. -/
lemma Tree.heads_spell : ∀ (v : Tree) (rest : List Char),
    v.Heads (v.spell ++ ' ' :: rest) (' ' :: rest)
  | .null, rest => ⟨_, skipBlanks_cons rfl _, rfl⟩
  | .flag true, rest => ⟨_, skipBlanks_cons rfl _, rfl⟩
  | .flag false, rest => ⟨_, skipBlanks_cons rfl _, rfl⟩
  | .number, rest => .inr ⟨'0', _, skipBlanks_cons rfl _, rfl, rfl⟩
  | .text s, rest => ⟨_, skipBlanks_cons rfl _, quoted_spellText s _⟩
  | .list [], rest => ⟨_, skipBlanks_cons rfl _, skipBlanks_cons rfl _⟩
  | .list (v :: vs), rest => by
    rw [Tree.spell, List.cons_append, List.append_assoc]
    exact ⟨_, skipBlanks_cons rfl _, _, _, rfl, v.heads_spell _, headItems_spell vs _⟩
  | .object [], rest => ⟨_, skipBlanks_cons rfl _, skipBlanks_cons rfl _⟩
  | .object ((k, v) :: es), rest => by
    rw [Tree.spell, List.cons_append, List.cons_append, List.append_assoc, List.cons_append,
      List.append_assoc]
    exact ⟨_, skipBlanks_cons rfl _, _, _, _, _, _, rfl, skipBlanks_cons rfl _,
      quoted_spellText k _, rfl, v.heads_spell _, headEntries_spell es _⟩

lemma headItems_spell : ∀ (vs : List Tree) (rest : List Char),
    HeadItems false vs (' ' :: (spellItems vs ++ rest)) rest
  | [], rest => rfl
  | v :: vs, rest => by
    rw [spellItems, List.cons_append, List.append_assoc]
    exact ⟨_, _, rfl, v.heads_spell _, headItems_spell vs _⟩

lemma headEntries_spell : ∀ (es : List (Option String × Tree)) (rest : List Char),
    HeadEntries false es (' ' :: (spellEntries es ++ rest)) rest
  | [], rest => rfl
  | (k, v) :: es, rest => by
    rw [spellEntries, List.cons_append, List.cons_append, List.append_assoc, List.cons_append,
      List.append_assoc]
    exact ⟨_, _, _, _, _, rfl, skipBlanks_cons rfl _, quoted_spellText k _, rfl, v.heads_spell _,
      headEntries_spell es _⟩

end

/-- **Every tree is held by a text.** -/
lemma Tree.exists_fills (v : Tree) : ∃ s, v.Fills s := by
  refine ⟨String.ofList (v.spell ++ [' ']), [' '], ?_, rfl⟩
  rw [String.toList_ofList]
  exact v.heads_spell []

end BenchRoster.Json
