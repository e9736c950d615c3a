import MarkdownHighlight.CommandLine.Arguments
import MarkdownHighlight.Engine.Basic
import MarkdownHighlight.Options.File

/-!
The program as a function of its arguments, the files it can read and the home
directory. It highlights one file, as markup or as a terminal preview. What it logs
is not part of its outcome: a process sends log lines to standard error as well, and
a variable of the environment says which, so they are left out here.
-/

namespace MarkdownHighlight.CommandLine

/-- What the program finds around it. -/
structure Environment where
  home? : Option Text
  readFile? : Text → Option ByteArray

structure Outcome where
  code : Nat
  stdout : Text
  /-- The messages that the program itself prints to standard error. Log lines go there
  too, and a refused request is logged; they are not held here. -/
  stderr : Text
  deriving DecidableEq, Repr

def versionLine : Text := "mdlive 0.4.0\n".toList

def helpText : Text :=
  ("mdlive 0.4.0 - live markdown syntax highlighting\n"
  ++ "\n"
  ++ "Usage: mdlive [OPTIONS] FILE\n"
  ++ "\n"
  ++ "Options:\n"
  ++ "  -m, --markup             Print span markup instead of a terminal preview\n"
  ++ "  -c, --config PATH        Read options from PATH instead of ~/.mdlive.toml\n"
  ++ "      --viewport FIRST:LAST\n"
  ++ "                           Only highlight around these lines (0-based)\n"
  ++ "  -h, --help               Show this help message\n"
  ++ "  -V, --version            Show version information\n"
  ++ "\n"
  ++ "Set RUST_LOG=mdlive=debug for per-pass logging.\n").toList

def usageText (e : UsageError) : Text :=
  "mdlive: ".toList ++ e.message ++ "\nTry 'mdlive --help' for more information.\n".toList

/-- The file in the home directory. No slash is put behind an empty name, which stands for
the directory that the program runs in, or behind one that ends in a slash. -/
def standardConfigPath (home : Text) : Text :=
  let separator := if home.getLast?.any (· != '/') then ['/'] else []
  home ++ separator ++ ".mdlive.toml".toList

namespace Environment

/-- The options for a run. A file that is named has to be usable; the standard
one is passed over when it is not. -/
def options (env : Environment) (config? : Option Text) : Except HighlightError Options :=
  match config?, env.home? with
  | some path, _ => Options.ofFile (env.readFile? path)
  | none, some home => .ok (Options.ofFileOrStandard (env.readFile? (standardConfigPath home)))
  | none, none => .ok .standard

def document (env : Environment) (path : Text) : Except HighlightError Text :=
  match (env.readFile? path).bind String.fromUTF8? with
  | some text => .ok text.toList
  | none => .error .io

end Environment

/-- The markup on standard output. A refused request leaves it empty, which only the
log tells; a failed pass shows the document as it is. -/
def markupOutcome (o : Options) (content : Text) (viewport? : Option Viewport) : Outcome :=
  let (pass, _) := (Engine.create o).execute content viewport?
  match pass.effect with
  | .write markup => ⟨0, markup ++ ['\n'], []⟩
  | .none => ⟨0, ['\n'], []⟩
  | .hideAndClear =>
      ⟨0, content, "mdlive: highlighting failed, printing plain text\n".toList⟩

def previewOutcome (o : Options) (content : Text) (viewport? : Option Viewport) :
    Except HighlightError Outcome := do
  let painted ← Terminal.paintDocument o.narrowing content viewport?
  return ⟨0, painted ++ ['\n'], []⟩

/-- The files that a run looks at, whether they exist or not. -/
def filesRead (home? : Option Text) (a : RunArguments) : List Text :=
  match a.config?, home? with
  | some path, _ => [path, a.file]
  | none, some home => [standardConfigPath home, a.file]
  | none, none => [a.file]

def highlightFile (env : Environment) (a : RunArguments) : Except HighlightError Outcome := do
  let o ← env.options a.config?
  let content ← env.document a.file
  if a.markup then return markupOutcome o content a.viewport?
  else previewOutcome o content a.viewport?

def run (env : Environment) (arguments : List Text) : Outcome :=
  match parse arguments with
  | .error e => ⟨2, [], usageText e⟩
  | .ok .help => ⟨0, helpText, []⟩
  | .ok .version => ⟨0, versionLine, []⟩
  | .ok (.run a) =>
      match highlightFile env a with
      | .ok outcome => outcome
      | .error e => ⟨1, [], ("Error: " ++ e.message ++ "\n").toList⟩

end MarkdownHighlight.CommandLine
