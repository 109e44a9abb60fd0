import WikiText.Config.Value
import WikiText.Dictionary
import WikiText.Macro.Expand
import WikiText.Template.Fill

/-! # Registered macros

Names are the same whatever their case. The macro registered last under a name is the one called.
-/

namespace WikiText.Macro

/-- Macros of a kind `μ` under lower-case names. -/
structure Registry (μ : Type) where
  macros : Dictionary μ := {}

namespace Registry

variable {μ : Type}

instance : Inhabited (Registry μ) := ⟨{}⟩

/-- Register a macro. -/
def add (r : Registry μ) (name : Text) (m : μ) : Registry μ :=
  ⟨r.macros.insert (Text.lower name) m⟩

/-- The macros given, registered one after the other. -/
def ofList (ms : List (Text × μ)) : Registry μ := ms.foldl (fun r e => r.add e.1 e.2) {}

/-- What comes of a request to register: the macro that was given, or the name under which one is
awaited. -/
inductive Registered (μ : Type) where
  | given (m : μ)
  | awaited (name : Text)

/-- Register a macro under a name, or await one that is to be decorated. -/
def register (r : Registry μ) (name : Text) : Option μ → Registered μ × Registry μ
  | some m => (.given m, r.add name m)
  | none => (.awaited name, r)

/-- Register the macro that was awaited under a name. The macro itself is given back. -/
def decorate (r : Registry μ) (name : Text) (m : μ) : μ × Registry μ := (m, r.add name m)

def get? (r : Registry μ) (name : Text) : Option μ := r.macros.get? (Text.lower name)

/-- Whether a value is the name of a macro. Only a text can be. -/
def contains (r : Registry μ) : Value → Bool
  | .text name => (r.get? name).isSome
  | _ => false

theorem get?_add (r : Registry μ) (name name' : Text) (m : μ) :
    (r.add name m).get? name' =
      if Text.lower name' = Text.lower name then some m else r.get? name' := by
  simp [add, get?]

end Registry

/-- A macro without a state of its own. -/
abbrev Pure (ε : Type) := List Text → Except ε (Option Text)

instance : Cause Template.Error := ⟨Template.Error.message⟩

/-- A template as a macro: its fields are the arguments by number, or all of them under `args`. -/
def ofTemplate (template : Text) (args : List Text) : Except Template.Error Text :=
  Template.fill template ⟨args, [("args".toList, Text.joinWith ", ".toList args)]⟩

/-- A template among macros that fail with causes of their own. -/
def Pure.ofTemplate {ε : Type} (cause : Template.Error → ε) (template : Text) : Pure ε :=
  fun args => match Macro.ofTemplate template args with
    | .ok s => .ok (some s)
    | .error e => .error (cause e)

/-- Call a registered macro; an unknown name has no answer. -/
def Registry.call {ε : Type} (r : Registry (Pure ε)) (name : Text) (args : List Text) :
    Except ε (Option Text) :=
  match r.get? name with
  | some m => m args
  | none => .ok none

/-- A registry as a resolver. It keeps no state. -/
def Registry.resolver {σ ε : Type} (r : Registry (Pure ε)) : Resolver σ ε :=
  fun name args st => (r.call name args, st)

/-- The registry of templates under their names. -/
def Registry.ofTemplates (ts : Dictionary Text) : Registry (Pure Template.Error) :=
  .ofList (ts.entries.map fun e => (e.1, fun args => (ofTemplate e.2 args).map some))

end WikiText.Macro
