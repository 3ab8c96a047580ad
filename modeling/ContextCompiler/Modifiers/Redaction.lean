import ContextCompiler.Decode.Reader
import ContextCompiler.Glob.Pattern
import ContextCompiler.Regex.Reader
import ContextCompiler.Regex.Size
import ContextCompiler.Regex.Template
import ContextCompiler.Failure

/-!
Redaction of secrets and of listed terms.

The rules for well-known secrets go first, then the expressions of the options, then the
keywords, each over the text that the one before leaves. The marker goes into templates in escaped
form, so that it stands in the text as it is given, whatever signs it holds.
-/

namespace ContextCompiler

/-- What is redacted, and what stands in its place. -/
structure RedactionOptions where
  patterns : List String
  keywords : List String
  replacement : String
  builtin : Bool
  deriving DecidableEq, Repr

/-- A rule for secrets of one form: what they look like, and the template of what stands in their
place, in which `{r}` stands for the marker. -/
structure SecretRule where
  secret : Regex
  template : String

namespace Redaction

/-- Letters, digits and some signs. -/
def alnumAnd (signs : String) : CharSet :=
  .union (.range 'A' 'Z') (.union (.range 'a' 'z') (.union (.range '0' '9') (.ofString signs)))

/-- A word in whatever case. -/
def anyCaseWord (s : String) : Regex := .anyCase s.toList

/-- The edge of a word. -/
def edge : Regex := .anchor (.atWord .edge false)

/-- The line that opens or closes a private key. -/
def keyLine (word : String) : Regex :=
  .seqs [.literal ("-----" ++ word ++ " "), .many (.one (.union (.range 'A' 'Z') (.single ' '))),
    .literal "PRIVATE KEY-----"]

/-- A private key. -/
def privateKey : Regex :=
  .seqs [keyLine "BEGIN", .rep (.one .all) 0 none false, keyLine "END"]

/-- An access key id of a cloud. -/
def accessKeyId : Regex :=
  .seqs [edge, .literal "AKIA",
    .rep (.one (.union (.range '0' '9') (.range 'A' 'Z'))) 16 (some 16) true, edge]

/-- A token of a code host that starts with `gh`. -/
def hubToken : Regex :=
  .seqs [edge, .literal "gh", .one (.ofString "pousr"), .literal "_",
    .rep (.one (alnumAnd "")) 36 none true, edge]

/-- A token of a code host that starts with `glpat`. -/
def labToken : Regex :=
  .seqs [edge, .literal "glpat-", .rep (.one (alnumAnd "_-")) 20 none true, edge]

/-- Two words with a dash, an underscore or nothing between them. -/
def joinedWords (a b : String) : Regex :=
  .seqs [anyCaseWord a, .maybe (.one (.ofString "_-")), anyCaseWord b]

/-- The names of settings that hold secrets. -/
def secretName : Regex :=
  .alts [joinedWords "api" "key", anyCaseWord "secret", anyCaseWord "password",
    anyCaseWord "passwd", joinedWords "access" "token", joinedWords "auth" "token"]

/-- A setting that holds a secret: a name, a sign, and a value with or without quotes. -/
def secretSetting : Regex :=
  let quote : Regex := .maybe (.one (.ofString "\"'"))
  .seqs [edge, .group 1 secretName,
    .group 2 (.seqs [.many (.one .blank), .one (.ofString ":="), .many (.one .blank)]),
    quote, .many1 (.one (.compl (.union .blank (.ofString "\"'")))), quote]

/-- The rules for well-known secrets, in their order. -/
def rules : List SecretRule :=
  [⟨privateKey, "{r}"⟩, ⟨accessKeyId, "{r}"⟩, ⟨hubToken, "{r}"⟩, ⟨labToken, "{r}"⟩,
   ⟨secretSetting, "${1}${2}{r}"⟩]

/-- The text with everything redacted that a rule finds. -/
def applyRule (marker s : List Char) (rule : SecretRule) : List Char :=
  rule.secret.replaceAll (Text.replaceAll "{r}".toList marker rule.template.toList) s

/-- The expression that is written out for a term of the options. -/
def compile (kind term expression : String) : Except Failure Regex :=
  let refuse (reason : String) : Except Failure Regex :=
    .error (.modifier ("invalid " ++ kind ++ " '" ++ term ++ "': " ++ reason))
  match Regex.read? expression with
  | none => refuse "regex parse error:\n"
  | some r =>
    if r.isTooLarge then refuse "Compiled regex exceeds size limit of 10485760 bytes."
    else .ok r

/-- An expression of the options. -/
def readPattern (pattern : String) : Except Failure Regex :=
  compile "sanitizer pattern" pattern pattern

/-- How a keyword is written as an expression that finds it in whatever case. -/
def keywordExpression (keyword : String) : String :=
  String.ofList ("(?i)".toList ++ keyword.toList.flatMap Glob.escaped)

/-- The expression of a keyword. -/
def readKeyword (keyword : String) : Except Failure Regex :=
  compile "keyword" keyword (keywordExpression keyword)

/-- The text with everything redacted that the expression of a term finds. -/
def redact (read : String → Except Failure Regex) (marker s : List Char) (term : String) :
    Except Failure (List Char) := do
  pure ((← read term).replaceAll marker s)

end Redaction

namespace RedactionOptions

/-- Well-known secrets only. -/
def standard : RedactionOptions := ⟨[], [], "[REDACTED]", true⟩

/-- Reads the options. -/
def read (n : Node) : Decoded RedactionOptions :=
  let d := Dialect.value
  FieldRule.record d "struct SanitizeOptions"
    [.mayHave "patterns" (d.list d.string) fun v o => { o with patterns := v },
     .mayHave "keywords" (d.list d.string) fun v o => { o with keywords := v },
     .mayHave "replacement" d.string fun v o => { o with replacement := v },
     .mayHave "builtin" d.boolean fun v o => { o with builtin := v }]
    standard true n

/-- The redacted text. -/
def apply (o : RedactionOptions) (s : List Char) : Except Failure (List Char) := do
  let marker := Template.escape o.replacement.toList
  let s := if o.builtin then Redaction.rules.foldl (Redaction.applyRule marker) s else s
  let s ← o.patterns.foldlM (Redaction.redact Redaction.readPattern marker) s
  (o.keywords.filter (!·.isEmpty)).foldlM (Redaction.redact Redaction.readKeyword marker) s

end RedactionOptions

end ContextCompiler
