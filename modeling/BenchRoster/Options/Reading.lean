/-
# Options from a document

The shape of an options document, in any format.  Every entry may be left out, which has the same
effect as writing its default.
-/
import BenchRoster.Format
import BenchRoster.Options

namespace BenchRoster

variable {m : Type → Type} [Format m]

/-- Dialects with the words that name them. -/
def Dialect.choices : List (String × Dialect) :=
  [Dialect.ecmascript, Dialect.typescript].map fun d => (d.word, d)

/-- The entries that say how the text is parsed. -/
def ParserOptions.fields : List (Field m (Option Dialect × Option Bool × Option Bool)) :=
  [⟨"syntax", (·.1.isSome),
     Format.map (fun x p => (some x, p.2)) (Format.choice Dialect.choices)⟩,
   ⟨"jsx", (·.2.1.isSome), Format.map (fun x p => (p.1, some x, p.2.2)) Format.flag⟩,
   ⟨"tsx", (·.2.2.isSome), Format.map (fun x p => (p.1, p.2.1, some x)) Format.flag⟩]

def ParserOptions.read : m ParserOptions :=
  Format.record "ParserConfig" fields (none, none, none) fun p =>
    .ok ⟨p.1.getD .ecmascript, p.2.1.getD false, p.2.2.getD false⟩

/-- The entries with the names to put in. -/
def Globals.fields : List (Field m (Option Table × Option Table)) :=
  [⟨"vars", (·.1.isSome), Format.map (fun x p => (some x, p.2)) Format.table⟩,
   ⟨"envs", (·.2.isSome), Format.map (fun x p => (p.1, some x)) Format.table⟩]

def Globals.read : m Globals :=
  Format.record "GlobalPassOption" fields (none, none) fun p =>
    .ok ⟨p.1.getD .empty, p.2.getD .empty⟩

/-- The entries of the rewriting. -/
def Optimizer.fields : List (Field m (Option (Option Globals))) :=
  [⟨"globals", (·.isSome), Format.map (fun x _ => some x) (Format.optional Globals.read)⟩]

def Optimizer.read : m Optimizer :=
  Format.record "OptimizerConfig" fields none fun p => .ok ⟨p.getD none⟩

/-- The entries of the passes. -/
def Passes.fields : List (Field m (Option (Option Optimizer))) :=
  [⟨"optimizer", (·.isSome), Format.map (fun x _ => some x) (Format.optional Optimizer.read)⟩]

def Passes.read : m Passes :=
  Format.record "TransformConfig" fields none fun p => .ok ⟨p.getD none⟩

/-- The entries of the compilation. -/
def Compilation.fields : List (Field m (Option ParserOptions × Option Passes)) :=
  [⟨"parser", (·.1.isSome), Format.map (fun x p => (some x, p.2)) ParserOptions.read⟩,
   ⟨"transform", (·.2.isSome), Format.map (fun x p => (p.1, some x)) Passes.read⟩]

/-- Both entries may be left out. -/
def Compilation.finish (p : Option ParserOptions × Option Passes) : Compilation :=
  ⟨p.1.getD {}, p.2.getD {}⟩

def Compilation.read : m Compilation :=
  Format.record "JscConfig" fields (none, none) fun p => .ok (finish p)

/-- The entries of an options document. -/
def Options.fields : List (Field m (Option Compilation)) :=
  [⟨"jsc", (·.isSome), Format.map (fun x _ => some x) Compilation.read⟩]

/-- Options from a document of any format. -/
def Options.read : m Options :=
  Format.record "TransformOptions" fields none fun p => .ok ⟨p.getD {}⟩

end BenchRoster
