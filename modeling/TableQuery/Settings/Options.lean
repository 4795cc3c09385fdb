import TableQuery.Text.Cut

/-!
# Options

Arguments give values to options.  A value follows its option as the next argument,
or after an equals sign.  It is looked at when the next option begins or when the
arguments end, so a fault in it comes after an unknown argument and before all
else that follows it.
-/

namespace TableQuery
namespace Settings

inductive Fault where
  | badAddress
  | noValue
  | repeated
  | unknown
  | helpWanted
  | extraValue
  deriving Repr, DecidableEq

/-- The options that a program knows, and what it asks of the value of each. -/
structure Options where
  names : List String
  check : String → String → Except Fault Unit

/-- What has been read: the values that were looked at, an option that was not with
its value if it has come, and whether the options have been ended. -/
structure Progress where
  values : List (String × String)
  pending : Option (String × Option String)
  ended : Bool
  deriving Repr, DecidableEq

namespace Progress

def start : Progress :=
  { values := [], pending := none, ended := false }

def set (p : Progress) (options : Options) (name value : String) : Except Fault Progress :=
  if (p.values.lookup name).isSome then
    .error .repeated
  else do
    options.check name value
    pure { p with values := p.values ++ [(name, value)] }

def settle (p : Progress) (options : Options) : Except Fault Progress :=
  match p.pending with
  | none => .ok p
  | some (_, none) => .error .noValue
  | some (name, some value) => { p with pending := none }.set options name value

/-- Takes an argument that is no option: it must be the value of the pending one. -/
def takePlain (p : Progress) (argument : String) : Except Fault Progress :=
  match p.pending with
  | some (name, none) =>
      if p.ended then .error .unknown
      else .ok { p with pending := some (name, some argument) }
  | _ => .error .unknown

/-- Takes an option by its name, and the value after an equals sign. -/
def takeOption (p : Progress) (options : Options) (name : String) (value : Option String) :
    Except Fault Progress :=
  if options.names.contains name then do
    let p ← p.settle options
    match value with
    | some value => p.set options name value
    | none => pure { p with pending := some (name, none) }
  else if name = "help" then
    if value.isSome then
      .error .extraValue
    else do
      let _ ← p.settle options
      .error .helpWanted
  else
    .error .unknown

/-- Takes letters after a single dash, of which only the one for help is known. -/
def takeLetters (p : Progress) (options : Options) (letters : List Char) :
    Except Fault Progress :=
  if letters.head? = some 'h' then do
    let _ ← p.settle options
    .error .helpWanted
  else
    .error .unknown

/-- Takes one argument.  Two dashes alone end the options. -/
def take (p : Progress) (options : Options) (argument : String) : Except Fault Progress :=
  if p.ended then
    p.takePlain argument
  else
    match argument.toList with
    | ['-', '-'] => .ok { p with ended := true }
    | '-' :: '-' :: cs =>
        match Text.cut? '=' cs with
        | some (name, value) =>
            p.takeOption options (String.ofList name) (some (String.ofList value))
        | none => p.takeOption options (String.ofList cs) none
    | ['-'] => p.takePlain argument
    | '-' :: letters => p.takeLetters options letters
    | _ => p.takePlain argument

def takeAll (p : Progress) (options : Options) : List String → Except Fault Progress
  | [] => p.settle options
  | argument :: arguments => do
      let p ← p.take options argument
      p.takeAll options arguments

end Progress

namespace Options

def read (options : Options) (arguments : List String) :
    Except Fault (List (String × String)) := do
  let p ← Progress.start.takeAll options arguments
  pure p.values

end Options

end Settings
end TableQuery
