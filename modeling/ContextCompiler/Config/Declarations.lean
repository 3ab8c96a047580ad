import ContextCompiler.Config.Import
import ContextCompiler.Config.Document
import ContextCompiler.Config.Prompt

/-!
Everything that one configuration declares, before its imports are resolved.
-/

namespace ContextCompiler

/-- What a configuration declares. -/
structure Declarations where
  imports : List ImportDirective
  vars : SortedMap String
  documents : List Document
  prompts : List Prompt
  tools : List Tool

namespace Declarations

/-- Nothing. -/
def empty : Declarations := ⟨[], .empty, [], [], []⟩

/-- Reads the declarations of a configuration. -/
def read (d : Dialect) (n : Node) : Decoded Declarations :=
  FieldRule.record d "struct RawConfig"
    [.orNamed "imports"
       (.mayHave "import" (d.list ImportDirective.read) fun v x => { x with imports := v }),
     .mayHave "variables" (readScalarMap d) fun v x => { x with vars := v },
     .mayHave "documents" (d.list (Document.read d)) fun v x => { x with documents := v },
     .mayHave "prompts" (d.list (Prompt.read d)) fun v x => { x with prompts := v },
     .mayHave "tools" (d.list (Tool.read d)) fun v x => { x with tools := v }]
    empty true n

end Declarations

end ContextCompiler
