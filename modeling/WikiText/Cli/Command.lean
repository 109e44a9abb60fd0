import WikiText.Cli.Path
import WikiText.Text.Lower

/-!
# Commands

A command is read from arguments. What they do not tell is looked up in the environment.
-/

namespace WikiText.Cli

/-- How a document is rendered from the command line. -/
structure RenderOptions where
  source : Path
  output : Option Path := none
  config : Option Path := none
  standalone : Bool := false
  failOnWarning : Bool := false
  logLevel : Text := "WARNING".toList

/-- A command: render a document, or write the stylesheet of highlighted code. -/
inductive Command where
  | render (o : RenderOptions)
  | styles (output config : Option Path)

/-- Arguments that make no command. -/
inductive UsageError where
  | noCommand
  | unknownCommand (name : Text)
  | unknownOption (name : Text)
  | missingValue (option : Text)
  | noFlag (value : Text)
  | missingSource
  | extraArgument (value : Text)
deriving DecidableEq, Repr

def UsageError.message : UsageError → Text
  | .noCommand => "a command is missing".toList
  | .unknownCommand name => "unknown command: ".toList ++ name
  | .unknownOption name => "unknown option: ".toList ++ name
  | .missingValue option => "a value is missing for ".toList ++ option
  | .noFlag value => "neither true nor false: ".toList ++ value
  | .missingSource => "the source is missing".toList
  | .extraArgument value => "unused argument: ".toList ++ value

/-- Variables and their values. -/
abbrev Environment := List (Text × Text)

/-- What arguments give: the values of options, the flags, and what stands alone. -/
private structure Given where
  values : List (Text × Text) := []
  flags : List (Text × Bool) := []
  alone : List Text := []

private def valueOptions : List Text :=
  (["source", "output", "config", "log-level"] : List String).map (·.toList)

private def flagOptions : List Text :=
  (["standalone", "fail-on-warning"] : List String).map (·.toList)

private def flag (s : Text) : Except UsageError Bool :=
  let t := Text.lowerAscii s
  if (["true", "t", "yes", "y", "1"] : List String).any (·.toList = t) then .ok true
  else if (["false", "f", "no", "n", "0"] : List String).any (·.toList = t) then .ok false
  else .error (.noFlag s)

/-- Read the arguments of a command. After two hyphens alone nothing is an option. -/
private def given : List Text → Except UsageError Given
  | [] => .ok {}
  | ['-', '-'] :: rest => .ok { alone := rest }
  | arg :: rest => match Text.strip? ['-', '-'] arg with
    | none => do
      let g ← given rest
      return { g with alone := arg :: g.alone }
    | some option =>
      let name := option.takeWhile (· ≠ '=')
      let inline? :=
        if name.length < option.length then some (option.drop (name.length + 1)) else none
      if valueOptions.elem name then
        match inline?, rest with
        | some value, rest => do
          let g ← given rest
          return { g with values := (name, value) :: g.values }
        | none, value :: rest => do
          let g ← given rest
          return { g with values := (name, value) :: g.values }
        | none, [] => .error (.missingValue arg)
      else
        let negated := Text.strip? "no-".toList name
        if flagOptions.elem name then do
          let on ← (inline?.map flag).getD (.ok true)
          let g ← given rest
          return { g with flags := (name, on) :: g.flags }
        else match negated with
          | some name =>
            if flagOptions.elem name && inline?.isNone then do
              let g ← given rest
              return { g with flags := (name, false) :: g.flags }
            else .error (.unknownOption arg)
          | none => .error (.unknownOption arg)

/-- The variable that an option is looked up under. -/
private def variableName (option : Text) : Text :=
  "MDEXTRA_".toList ++ Text.upperAscii (option.map fun c => if c = '-' then '_' else c)

private def Given.value? (g : Given) (env : Environment) (option : String) : Option Text :=
  (g.values.lookup option.toList).or (env.lookup (variableName option.toList))

private def Given.flag (g : Given) (env : Environment) (option : String) : Except UsageError Bool :=
  match g.flags.lookup option.toList, env.lookup (variableName option.toList) with
  | some b, _ => .ok b
  | none, some value => Cli.flag value
  | none, none => .ok false

private def renderOptions (env : Environment) (g : Given) : Except UsageError RenderOptions := do
  let source ← match g.alone with
    | [] => match g.value? env "source" with
      | some s => .ok s
      | none => .error .missingSource
    | [s] => .ok s
    | _ :: extra :: _ => .error (.extraArgument extra)
  let defaults : RenderOptions := { source := .ofText source }
  return { defaults with
    output := (g.value? env "output").map Path.ofText
    config := (g.value? env "config").map Path.ofText
    standalone := ← g.flag env "standalone"
    failOnWarning := ← g.flag env "fail-on-warning"
    logLevel := (g.value? env "log-level").getD defaults.logLevel }

private def stylesOptions (env : Environment) (g : Given) : Except UsageError Command := do
  if let extra :: _ := g.alone then throw (.extraArgument extra)
  let isOwn (name : Text) : Bool := name = "output".toList || name = "config".toList
  if let some (name, _) := g.values.find? fun v => !isOwn v.1 then throw (.unknownOption name)
  if let (name, _) :: _ := g.flags then throw (.unknownOption name)
  return .styles ((g.value? env "output").map Path.ofText) ((g.value? env "config").map Path.ofText)

/-- The command in arguments. -/
def Command.ofArguments (env : Environment) : List Text → Except UsageError Command
  | [] => .error .noCommand
  | name :: args =>
    if name = "render".toList then do return .render (← renderOptions env (← given args))
    else if name = "styles".toList then do stylesOptions env (← given args)
    else .error (.unknownCommand name)

end WikiText.Cli
