/-
# The rows of the table of backends

Every row is 80 characters wide, whatever characters there are in the values that it shows.  A value
that fits into its cell is shown as it is, and of a longer one there is as much as leaves room for
an ellipsis.

* `Listing.Shows` says how a cell shows a value, and `Listing.RowOf` how a row shows a backend;
* `CommandLine.list_rows` says that the table has such a row for each backend.
-/
import BenchRoster.Proofs.Totals
import Mathlib.Data.List.Forall2

namespace BenchRoster

namespace Listing

/-- A cell shows a value: the value and then blanks, or the beginning of it and then an ellipsis. -/
structure Shows (width : ℕ) (value cell : List Char) : Prop where
  whole : value.length ≤ width → cell = value ++ List.replicate (width - value.length) ' '
  cut : width < value.length → cell = value.take (width - 1) ++ ['…']

lemma shows_cell {width : ℕ} (h : 0 < width) (value : List Char) :
    Shows width value (cell width value) where
  whole hv := by rw [cell, truncate, if_pos hv]
  cut hv := by
    have hlen : (value.take (width - 1) ++ ['…']).length = width := by
      rw [List.length_append, List.length_take, List.length_singleton]
      omega
    rw [cell, truncate, if_neg (Nat.not_le.2 hv), hlen, Nat.sub_self, List.replicate_zero,
      List.append_nil]

/-- There is one such cell. -/
lemma Shows.eq_cell {width : ℕ} {value shown : List Char} (h : Shows width value shown)
    (hw : 0 < width) : shown = cell width value := by
  rcases Nat.lt_or_ge width value.length with hv | hv
  · rw [h.cut hv, (shows_cell hw value).cut hv]
  · rw [h.whole hv, (shows_cell hw value).whole hv]

lemma Shows.length_eq {width : ℕ} {value cell : List Char} (h : Shows width value cell)
    (hw : 0 < width) : cell.length = width := by
  rcases Nat.lt_or_ge width value.length with hv | hv
  · rw [h.cut hv, List.length_append, List.length_take, List.length_singleton]
    omega
  · rw [h.whole hv, List.length_append, List.length_replicate]
    omega

/-- A row shows a backend: its name, its locator, and its arguments with a hint at its options. -/
def RowOf (e : BackendEntry) (row : String) : Prop :=
  ∃ name locator arguments : List Char,
    row.toList = "║ ".toList ++ name ++ " ║ ".toList ++ locator ++ " ║ ".toList ++ arguments ++
      " ║".toList ∧
    Shows 17 e.name.text.toList name ∧ Shows 17 e.locator.text.toList locator ∧
    Shows 36 (Text.trim (" ".intercalate e.args ++
      if e.options.isSome then " " ++ e.flag ++ " <options>" else "")).toList arguments

lemma argumentsText_eq (e : BackendEntry) : argumentsText e = Text.trim (" ".intercalate e.args ++
    if e.options.isSome then " " ++ e.flag ++ " <options>" else "") := by
  unfold argumentsText
  split <;> simp [toString, String.append_assoc]

/-- There is one such row. -/
lemma RowOf.eq_row {e : BackendEntry} {r : String} (h : RowOf e r) : r = row e := by
  obtain ⟨name, locator, arguments, hr, hn, hl, ha⟩ := h
  rw [← argumentsText_eq] at ha
  rw [← String.toList_inj, hr, row, String.toList_ofList, hn.eq_cell (by decide),
    hl.eq_cell (by decide), ha.eq_cell (by decide)]
  simp [between, nameWidth, locatorWidth, argumentsWidth]

lemma rowOf_row (e : BackendEntry) : RowOf e (row e) := by
  refine ⟨cell nameWidth e.name.text.toList, cell locatorWidth e.locator.text.toList,
    cell argumentsWidth (argumentsText e).toList, ?_, shows_cell (by decide) _,
    shows_cell (by decide) _, ?_⟩
  · rw [row, String.toList_ofList]
    simp [between]
  · rw [← argumentsText_eq]
    exact shows_cell (by decide) _

lemma RowOf.length_eq {e : BackendEntry} {r : String} (h : RowOf e r) : r.length = 80 := by
  obtain ⟨name, locator, arguments, hr, hn, hl, ha⟩ := h
  rw [← String.length_toList, hr]
  simp only [List.length_append, hn.length_eq, hl.length_eq, ha.length_eq, Nat.succ_pos]
  rfl

end Listing

namespace CommandLine

/-- The table has one row for each backend between its header and its footer, in the order of the
backends, and every row is 80 characters wide. -/
theorem list_rows {m : Machine} {path : Option String} {c : Config}
    (hc : Config.find m path = .ok c) (hb : c.backends ≠ []) :
    ∃ rows : List String,
      list m path = success (Listing.header ++ rows ++ Listing.footer ++
        ["", s!"Suite: {c.suite.text} | Total: {c.backends.length} backend(s)"]) ∧
      List.Forall₂ Listing.RowOf c.backends rows ∧ ∀ r ∈ rows, r.length = 80 := by
  have hrows : List.Forall₂ Listing.RowOf c.backends (c.backends.map Listing.row) :=
    List.forall₂_map_right_iff.2 (List.forall₂_same.2 fun e _ => Listing.rowOf_row e)
  refine ⟨c.backends.map Listing.row, ?_, hrows, List.forall_mem_map.2 fun e _ =>
    (Listing.rowOf_row e).length_eq⟩
  rw [list, withConfig, hc]
  dsimp only
  rw [Listing.lines, if_neg (by simpa using hb)]

/-- The rows of three backends: a locator is cut, and an argument is not written in ASCII. -/
theorem list_rows_assorted :
    Config.find assortedWorld.machine (some "c.yaml") = .ok assortedConfig ∧
      assortedConfig.backends ≠ [] ∧ ∃ rows : List String,
        list assortedWorld.machine (some "c.yaml") = success (Listing.header ++ rows ++
          Listing.footer ++ ["", "Suite: transform | Total: 3 backend(s)"]) ∧
        List.Forall₂ Listing.RowOf assortedConfig.backends rows ∧ (∀ r ∈ rows, r.length = 80) ∧
        rows = [
          "║ x                 ║ echo              ║ --größe                              ║",
          "║ gone              ║ missing           ║                                      ║",
          "║ y                 ║ /usr/bin/../bin/… ║                                      ║"] := by
  have hb : assortedConfig.backends ≠ [] := List.cons_ne_nil _ _
  obtain ⟨rows, hl, hr, hw⟩ := list_rows find_assorted hb
  have hrows : List.Forall₂ (· = ·) (assortedConfig.backends.map Listing.row) rows :=
    List.forall₂_map_left_iff.2 (hr.imp fun _ _ h => h.eq_row.symm)
  rw [List.forall₂_eq_eq_eq] at hrows
  refine ⟨find_assorted, hb, rows, hl, hr, hw, ?_⟩
  rw [← hrows]
  decide +kernel

end CommandLine

end BenchRoster
