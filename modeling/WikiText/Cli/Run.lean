import WikiText.Cli.Command
import WikiText.Cli.Files
import WikiText.Config.Load
import WikiText.Page.Standalone
import WikiText.Render
import WikiText.Text.LineEnds

/-!
# Running a command

A command reads the files below the working directory. What it yields is what it writes and prints
and its exit status; or it fails without a document.
-/

namespace WikiText.Cli

/-- Why a command fails. -/
inductive Failure where
  | unknownLevel (level : Text)
  | config (e : Config.FileError)
  | file (e : FileError)
  | encoding (e : Utf8.DecodeError)
  | style (e : Code.UnknownStyle)

def Failure.message : Failure → Text
  | .unknownLevel level => "Unknown level: ".toList ++ Text.quote level
  | .config e => e.message
  | .file e => e.message
  | .encoding e => e.message
  | .style e => e.message

/-- What a command yields: its exit status, what it prints, and the file that it writes. -/
structure Outcome where
  status : Nat := 0
  stdout : Text := []
  stderr : Text := []
  written : Option (Path × Text) := none

/-- The names of the levels of logging. -/
def logLevels : List Text := (["CRITICAL", "FATAL", "ERROR", "WARN", "WARNING", "INFO", "DEBUG",
  "NOTSET"] : List String).map (·.toList)

def checkLevel (level : Text) : Except Failure Unit :=
  let level := Text.upperAscii level
  if logLevels.elem level then .ok () else .error (.unknownLevel level)

/-- The text of a configuration file. The bytes of a character that is cut off count from its first
one. -/
def configText (fs : Files) (p : Path) : Except Failure Text := do
  let bytes ← (fs.read p).mapError .file
  (Utf8.decode bytes).mapError fun e =>
    .encoding (if e.reason = .incomplete then { e with index := 0 } else e)

/-- The configuration in the file that is given, or in the default file if there is one. -/
def loadConfig (fs : Files) (given : Option Path) : Except Failure Config :=
  let p := given.getD (.ofText Config.defaultFile)
  if (fs.find? p).isSome then do
    let s ← configText fs p
    (Config.ofText s).mapError .config
  else if given.isSome then .error (.config (.missing p.toText))
  else .ok {}

/-- The text of a source file. -/
def sourceText (fs : Files) (p : Path) : Except Failure Text := do
  let bytes ← (fs.read p).mapError .file
  let s ← (Utf8.decode bytes).mapError .encoding
  return Text.unifyLineEnds s

def stylesheet (config : Config) : Except Failure Text := do
  let style ← (Code.Style.ofName config.style).mapError .style
  return style.sheet config.highlightClass

/-- A text with a line end at its end. -/
def endLine (s : Text) : Text := if Text.endsWith ['\n'] s then s else s ++ ['\n']

def line (s : Text) : Text := s ++ ['\n']

/-- Write a document to a file and say so, or print it. -/
def deliver (fs : Files) (output : Option Path) (document : Text) :
    Except Failure Outcome :=
  match output with
  | none => .ok { stdout := document }
  | some p => do
    (fs.checkWrite p).mapError .file
    return {
      stdout := line ("wrote ".toList ++ p.shown fs.directory)
      written := some (p, document) }

/-- What is reported of a render: each warning, and whether it failed. -/
def report (fs : Files) (source : Path) (r : Rendered) : Text :=
  (r.warnings.flatMap fun w => line ("warning: ".toList ++ w.message)) ++
    if r.failed then line ("error: could not render ".toList ++ source.shown fs.directory) else []

/-- The document that a render is delivered as. -/
def document (config : Config) (standalone : Bool) (r : Rendered) :
    Except Failure Text := do
  if standalone then
    return Page.standalone (Page.title none r.headings) (← stylesheet config) r.html
  else return endLine r.html

def runRender (fs : Files) (o : RenderOptions) : Except Failure Outcome := do
  checkLevel o.logLevel
  let config ← loadConfig fs o.config
  let r := renderPlain config (← sourceText fs o.source)
  let outcome ← deliver fs o.output (← document config o.standalone r)
  let isClean := r.warnings.isEmpty && !r.failed
  return { outcome with
    status := if o.failOnWarning && !isClean then 1 else 0
    stderr := report fs o.source r }

def runStyles (fs : Files) (output config : Option Path) : Except Failure Outcome := do
  let config ← loadConfig fs config
  deliver fs output (line (← stylesheet config))

/-- Run a command. -/
def Command.run (fs : Files) : Command → Except Failure Outcome
  | .render o => runRender fs o
  | .styles output config => runStyles fs output config

/-- The files that a command reads, as far as they exist. -/
def Command.reads : Command → List Path
  | .render o => [o.config.getD (.ofText Config.defaultFile), o.source]
  | .styles _ config => [config.getD (.ofText Config.defaultFile)]

end WikiText.Cli
