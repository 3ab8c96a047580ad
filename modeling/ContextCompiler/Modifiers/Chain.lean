import ContextCompiler.Modifiers.Trim
import ContextCompiler.Modifiers.Redaction
import ContextCompiler.Html.Markdown
import ContextCompiler.Config.Document

/-!
Modifiers: named changes of texts.

A chain looks modifiers up by their names. The first failure, an unknown name included, ends the
work, and is told with the name of the modifier.
-/

namespace ContextCompiler

/-- A named change of a text, with options. -/
structure Modifier where
  name : String
  apply : String → Json → Except Failure String

/-- Modifiers that are looked up by name. -/
structure ModifierChain where
  modifiers : List Modifier

/-- How Markdown is tidied. -/
structure CleanupOptions where
  baseUrl : Option String
  demoteHeadings : Bool

/-- How pages are turned into Markdown. -/
structure HtmlOptions where
  baseUrl : Option String
  extractMain : Bool

namespace CleanupOptions

/-- Reads the options. -/
def read (n : Node) : Decoded CleanupOptions :=
  let d := Dialect.value
  FieldRule.record d "struct CleanupOptions"
    [.mayHave "baseUrl" (d.optional d.string) fun v o => { o with baseUrl := v },
     .mayHave "demoteHeadings" d.boolean fun v o => { o with demoteHeadings := v }]
    ⟨none, false⟩ true n

end CleanupOptions

namespace HtmlOptions

/-- Reads the options. -/
def read (n : Node) : Decoded HtmlOptions :=
  let d := Dialect.value
  FieldRule.record d "struct HtmlOptions"
    [.mayHave "baseUrl" (d.optional d.string) fun v o => { o with baseUrl := v },
     .mayHave "extractMain" d.boolean fun v o => { o with extractMain := v }]
    ⟨none, true⟩ true n

end HtmlOptions

namespace Modifier

/-- Reads the options of a modifier; null stands for the usual ones. -/
def options {α : Type} (name : String) (read : Node → Decoded α) (usual : α) (j : Json) :
    Except Failure α :=
  match j with
  | .null => .ok usual
  | j =>
    match read (.ofJson j) with
    | .ok v => .ok v
    | .error e => .error (.modifier ("invalid options for " ++ name ++ ": " ++ e.message))

/-- The URL of an option, where it is one. -/
def base? (text : Option String) : Option Url := text.bind fun t => (Url.read t).toOption

/-- Pages to Markdown. -/
def htmlToMarkdown : Modifier where
  name := "html-to-markdown"
  apply text j := do
    let o ← options "html-to-markdown" HtmlOptions.read ⟨none, true⟩ j
    let base := base? o.baseUrl
    pure (if o.extractMain then Html.contentMarkdown text base else Html.toMarkdown text base)

/-- Tidying of Markdown. -/
def markdownCleanup : Modifier where
  name := "markdown-cleanup"
  apply text j := do
    let o ← options "markdown-cleanup" CleanupOptions.read ⟨none, false⟩ j
    let s := Markdown.tidy (base? o.baseUrl) text.toList
    pure (String.ofList (if o.demoteHeadings then Markdown.demoteHeadings s else s))

/-- Redaction. -/
def sanitizer : Modifier where
  name := "sanitizer"
  apply text j := do
    let o ← options "sanitizer" RedactionOptions.read .standard j
    String.ofList <$> o.apply text.toList

/-- Trimming. -/
def trim : Modifier where
  name := "trim"
  apply text j := do
    let o ← options "trim" TrimOptions.read .unlimited j
    pure (String.ofList (o.apply text.toList))

end Modifier

namespace ModifierChain

/-- All modifiers of this library. -/
def standard : ModifierChain :=
  ⟨[.htmlToMarkdown, .markdownCleanup, .sanitizer, .trim]⟩

/-- Adds a modifier, in place of one of its name. -/
def register (c : ModifierChain) (m : Modifier) : ModifierChain :=
  ⟨c.modifiers.filter (·.name != m.name) ++ [m]⟩

/-- The modifier of a name. -/
def get? (c : ModifierChain) (name : String) : Option Modifier :=
  c.modifiers.find? (·.name == name)

/-- The names of all modifiers. -/
def names (c : ModifierChain) : List String := c.modifiers.map Modifier.name

/-- A failure of a modifier, told with its name. -/
def blame (name : String) : Failure → Failure
  | .modifier reason => .modifier (name ++ ": " ++ reason)
  | e => .modifier (name ++ ": " ++ e.message)

/-- Applies one modifier. -/
def applyOne (c : ModifierChain) (text : String) (use : ModifierUse) : Except Failure String :=
  match c.get? use.name with
  | none => .error (.modifier ("unknown modifier '" ++ use.name ++ "'"))
  | some m => (m.apply text use.options).mapError (blame use.name)

/-- Applies modifiers one after the other. -/
def apply (c : ModifierChain) (text : String) (uses : List ModifierUse) : Except Failure String :=
  uses.foldlM c.applyOne text

end ModifierChain

end ContextCompiler
