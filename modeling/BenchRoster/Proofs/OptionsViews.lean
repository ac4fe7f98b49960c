/-
# What an options document in JSON says

The options that are read from a text are those that a view makes of its tree.

* `sees_options` is put together from the readers of the records in an options document.
-/
import BenchRoster.Options.Reading
import BenchRoster.Proofs.JsonRecords

namespace BenchRoster

open Json (Reader Sees FieldSees sees_map sees_record)

/-- Fields of one key with readers that see. -/
lemma fieldSees_map {α π : Type} {read : Reader α} {view : Json.View α} (h : Sees read view)
    (key : String) (seen : π → Bool) (put : α → π → π) :
    FieldSees ⟨key, seen, Format.map put read⟩ ⟨key, seen, Format.map put view⟩ :=
  ⟨rfl, rfl, sees_map h put⟩

lemma sees_parserOptions : Sees ParserOptions.read ParserOptions.read := by
  unfold ParserOptions.read ParserOptions.fields
  exact sees_record (.cons (fieldSees_map (Json.sees_choice _) _ _ _)
    (.cons (fieldSees_map Json.sees_flag _ _ _)
      (.cons (fieldSees_map Json.sees_flag _ _ _) .nil))) _ _ _

lemma sees_globals : Sees Globals.read Globals.read := by
  unfold Globals.read Globals.fields
  exact sees_record (.cons (fieldSees_map Json.sees_table _ _ _)
    (.cons (fieldSees_map Json.sees_table _ _ _) .nil)) _ _ _

lemma sees_optimizer : Sees Optimizer.read Optimizer.read := by
  unfold Optimizer.read Optimizer.fields
  exact sees_record (.cons (fieldSees_map (Json.sees_optional sees_globals) _ _ _) .nil) _ _ _

lemma sees_passes : Sees Passes.read Passes.read := by
  unfold Passes.read Passes.fields
  exact sees_record (.cons (fieldSees_map (Json.sees_optional sees_optimizer) _ _ _) .nil) _ _ _

lemma sees_compilation : Sees Compilation.read Compilation.read := by
  unfold Compilation.read Compilation.fields
  exact sees_record (.cons (fieldSees_map sees_parserOptions _ _ _)
    (.cons (fieldSees_map sees_passes _ _ _) .nil)) _ _ _

/-- **Options are read from a text as its tree says.** -/
lemma sees_options : Sees Options.read Options.read := by
  unfold Options.read Options.fields
  exact sees_record (.cons (fieldSees_map sees_compilation _ _ _) .nil) _ _ _

end BenchRoster
