import MockApi.Config.Environment

/-!
# Arguments

The arguments of a command line are read level by level: each level has options, and either a level below
it or a place for a value. Some options may be given at any level, and some by a variable of the
environment instead.
-/

namespace MockApi.CommandLine

/-- Why reading the arguments ends without a command. -/
inductive Stop
  | displayHelp
  | displayVersion
  | displayHelpOnMissing
  | missingSubcommand
  | invalidSubcommand
  | unknownArgument
  | missingArgument
  | invalidValue
  | valueValidation
  | tooManyValues
  | argumentConflict
deriving DecidableEq

def Stop.name : Stop → String
  | displayHelp => "DisplayHelp"
  | displayVersion => "DisplayVersion"
  | displayHelpOnMissing => "DisplayHelpOnMissingArgumentOrSubcommand"
  | missingSubcommand => "MissingSubcommand"
  | invalidSubcommand => "InvalidSubcommand"
  | unknownArgument => "UnknownArgument"
  | missingArgument => "MissingRequiredArgument"
  | invalidValue => "InvalidValue"
  | valueValidation => "ValueValidation"
  | tooManyValues => "TooManyValues"
  | argumentConflict => "ArgumentConflict"

/-! ### Values -/

inductive Form
  | flag
  | text
  | path
  | port
  | count
  | scenario
deriving DecidableEq

/-- A port; a minus sign is allowed in front of zero. -/
def readPort? (s : String) : Option Nat :=
  match s.toList with
  | '-' :: digits => (Text.readNat? (2 ^ 16) digits).filter fun n =>
      n == 0 && digits.head? != some '+'
  | digits => Text.readNat? (2 ^ 16) digits

def readCount? (s : String) : Option Nat := Text.readNat? (2 ^ 64) s.toList

def readScenario? (s : String) : Option Scenario := (Scenario.parse s).toOption

def readFlag? (s : String) : Option Bool :=
  if s = "true" then some true else if s = "false" then some false else none

def Form.check (form : Form) (s : String) : Except Stop Unit :=
  let valid (isValid : Bool) (otherwise : Stop) : Except Stop Unit :=
    if isValid then .ok () else .error otherwise
  match form with
  | flag => valid (readFlag? s).isSome .invalidValue
  | text => .ok ()
  | path => valid (!s.isEmpty) .invalidValue
  | port => valid (readPort? s).isSome .valueValidation
  | count => valid (readCount? s).isSome .valueValidation
  | scenario => valid (readScenario? s).isSome .valueValidation

/-- An option, or a place for a value. -/
structure Parameter where
  name : String
  form : Form
  letter : Option Char := none
  /-- The variable of the environment that stands in for it. -/
  fallback : Option String := none

/-! ### Levels -/

inductive Level
  | top
  | serve
  | generate
  | routes
  | config
  | showConfig
  | validateConfig
  | version
deriving DecidableEq

namespace Level

def everywhere : List Parameter := [
  { name := "config", form := .path, letter := some 'c', fallback := some "SCHEMA_MOCK_CONFIG" },
  { name := "log-level", form := .text, fallback := some "SCHEMA_MOCK_LOG_LEVEL" },
  { name := "json-logs", form := .flag, fallback := some "SCHEMA_MOCK_JSON_LOGS" },
  { name := "quiet", form := .flag, letter := some 'q' }]

def schemaOption : Parameter := { name := "schema", form := .path, letter := some 's' }

def routesOption : Parameter := { name := "routes", form := .path, letter := some 'r' }

def seedOption : Parameter := { name := "seed", form := .count }

def formatOption : Parameter := { name := "format", form := .text, letter := some 'f' }

def ownOptions : Level → List Parameter
  | top | config | validateConfig | version => []
  | serve => [
    schemaOption,
    routesOption,
    { name := "port", form := .port, letter := some 'p', fallback := some "SCHEMA_MOCK_PORT" },
    { name := "host", form := .text, fallback := some "SCHEMA_MOCK_HOST" },
    { name := "strict", form := .flag },
    { name := "scenario", form := .scenario },
    { name := "base-path", form := .text },
    { name := "resource-name", form := .text },
    { name := "no-cors", form := .flag },
    { name := "hide-branding", form := .flag },
    seedOption]
  | generate => [
    schemaOption,
    { name := "count", form := .count, letter := some 'n' },
    seedOption,
    { name := "compact", form := .flag }]
  | routes => [schemaOption, routesOption, formatOption]
  | showConfig => [formatOption]

def options (level : Level) : List Parameter := level.ownOptions ++ everywhere

def place? : Level → Option Parameter
  | validateConfig => some { name := "file", form := .path }
  | _ => none

def required : Level → List String
  | generate => ["schema"]
  | validateConfig => ["file"]
  | _ => []

def isGroup : Level → Bool
  | top | config => true
  | _ => false

def below? : Level → String → Option Level
  | top, "serve" | top, "s" => some serve
  | top, "generate" | top, "gen" => some generate
  | top, "routes" => some routes
  | top, "config" | top, "cfg" => some config
  | top, "version" => some version
  | config, "show" => some showConfig
  | config, "validate" => some validateConfig
  | _, _ => none

end Level

/-! ### Reading -/

/-- What is given at a level: texts under names, and an option whose text is still to be checked or still
to come. -/
structure Given where
  values : List (String × String) := []
  pending : Option (Parameter × Option String) := none

namespace Given

def record (g : Given) (p : Parameter) (s : String) : Except Stop Given := do
  if g.values.any (·.1 = p.name) then throw .argumentConflict
  p.form.check s
  return { g with values := g.values ++ [(p.name, s)] }

def settle (g : Given) : Except Stop Given :=
  match g.pending with
  | none => .ok g
  | some (_, none) => .error .invalidValue
  | some (p, some s) => { g with pending := none }.record p s

def meet (g : Given) (p : Parameter) (attached : Option String) : Except Stop Given := do
  let g ← g.settle
  match p.form, attached with
  | .flag, _ => g.record p "true"
  | _, some s => g.record p s
  | _, none => return { g with pending := some (p, none) }

def isWaiting (g : Given) : Bool := g.pending.any (·.2.isNone)

def supply (g : Given) (s : String) : Given :=
  { g with pending := g.pending.map fun (p, _) => (p, some s) }

def put (g : Given) (level : Level) (s : String) : Except Stop Given :=
  match level.place? with
  | some p =>
    if g.values.any (·.1 = p.name) || g.pending.any (·.1.name = p.name) then .error .unknownArgument
    else do
      let g ← g.settle
      return { g with pending := some (p, some s) }
  | none => .error (if level.isGroup then .invalidSubcommand else .unknownArgument)

end Given

/-- An argument that starts with two hyphens: the name, and the text behind a sign of equality. -/
def longArgument? (arg : String) : Option (String × Option String) :=
  match arg.toList with
  | '-' :: '-' :: rest =>
    if rest.isEmpty then none
    else match Text.splitOnce '=' rest with
      | some (name, s) => some (String.ofList name, some (String.ofList s))
      | none => some (String.ofList rest, none)
  | _ => none

def letters? (arg : String) : Option (List Char) :=
  match arg.toList with
  | '-' :: '-' :: _ => none
  | '-' :: c :: rest => some (c :: rest)
  | _ => none

def readLong (level : Level) (g : Given) (name : String) (attached : Option String) :
    Except Stop Given :=
  let ask (answer : Stop) : Except Stop Given :=
    if attached.isSome then .error .tooManyValues else do
      let _ ← g.settle
      throw answer
  if name = "help" then ask .displayHelp
  else if name = "version" then ask .displayVersion
  else match level.options.find? (·.name = name) with
    | none => .error .unknownArgument
    | some p =>
      if p.form = .flag ∧ attached.isSome then .error .tooManyValues else g.meet p attached

/-- Options by their letters; behind the letter of an option with a text stands the text. -/
def readLetters (level : Level) (g : Given) : List Char → Except Stop Given
  | [] => .ok g
  | c :: rest =>
    match level.options.find? (·.letter = some c) with
    | some p =>
      if p.form = .flag then do readLetters level (← g.meet p none) rest
      else match rest with
        | [] => g.meet p none
        | '=' :: s => g.meet p (some (String.ofList s))
        | s => g.meet p (some (String.ofList s))
    | none =>
      if c = 'h' then do
        let _ ← g.settle
        throw .displayHelp
      else if c = 'V' then do
        let _ ← g.settle
        throw .displayVersion
      else .error .unknownArgument

/-- The arguments of a level up to the name of a level below; that level, and what follows its name.
Behind two hyphens alone everything is a value. -/
def readLevel (level : Level) (onlyValues : Bool) (g : Given) :
    List String → Except Stop (Given × Option (String × List String))
  | [] => .ok (g, none)
  | arg :: rest => do
    if !onlyValues && !g.isWaiting && level.isGroup &&
        (arg == "help" || (level.below? arg).isSome) then
      return (g, some (arg, rest))
    if onlyValues then readLevel level true (← g.put level arg) rest
    else if arg = "--" then readLevel level true g rest
    else match longArgument? arg with
      | some (name, attached) => readLevel level false (← readLong level g name attached) rest
      | none => match letters? arg with
        | some letters => readLevel level false (← readLetters level g letters) rest
        | none =>
          if g.isWaiting then readLevel level false (g.supply arg) rest
          else readLevel level false (← g.put level arg) rest

def helpStop (level : Level) : List String → Stop
  | [] => .displayHelp
  | name :: rest =>
    match level.below? name with
    | some below => helpStop below rest
    | none => if name = "help" ∧ level.isGroup ∧ rest.isEmpty then .displayHelp else .invalidSubcommand

def fromEnvironment (level : Level) (env : Config.Environment) (g : Given) :
    List (Parameter × String) :=
  level.options.filterMap fun p =>
    if g.values.any (·.1 = p.name) then none
    else (p.fallback.bind env.get?).map (p, ·)

/-- The end of a level: what the environment gives has to have its form, and nothing may be missing. -/
def finishLevel (level : Level) (env : Config.Environment) (hasBelow : Bool) (g : Given) :
    Except Stop Unit := do
  let fallbacks := fromEnvironment level env g
  fallbacks.forM fun (p, s) => p.form.check s
  if level.isGroup && !hasBelow then
    throw (if g.values.isEmpty && fallbacks.isEmpty then .displayHelpOnMissing
      else .missingSubcommand)
  if level.required.any fun name => !g.values.any (·.1 = name) then throw .missingArgument

/-- All levels from one on: the last, and what is given at each of them, the last first. At most `fuel`
levels lie below it. -/
def readLevels (env : Config.Environment) :
    Nat → Level → List String → Except Stop (Level × List Given)
  | 0, level, _ => .ok (level, [])
  | fuel + 1, level, args => do
    let (g, below) ← readLevel level false {} args
    match below with
    | none =>
      let g ← g.settle
      finishLevel level env false g
      return (level, [g])
    | some (name, rest) =>
      match level.below? name with
      | none => throw (helpStop level rest)
      | some next =>
        let (last, given) ← readLevels env fuel next rest
        let g ← g.settle
        finishLevel level env true g
        return (last, given ++ [g])

def levelLimit : Nat := 3

/-! ### Looking up -/

def lookup (env : Config.Environment) (level : Level) (given : List Given) (name : String) :
    Option String :=
  match given.findSome? fun g => (g.values.find? (·.1 = name)).map (·.2) with
  | some s => some s
  | none => ((level.options.find? (·.name = name)).bind (·.fallback)).bind env.get?

end MockApi.CommandLine
