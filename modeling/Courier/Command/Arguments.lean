import Courier.Pairs

/-!
# Command lines

A command line has options before the name of a command, and options and positional texts after it.
`Invocation.parse` reads the texts of a command line; an option with an environment variable takes its
value from there if the command line does not give one.
-/

namespace Courier.Command

/-- An option: how many values it takes, and whether it may be given more than once. -/
structure OptionRule where
  name : String
  arity : Nat
  repeats : Bool

def generalOptions : List OptionRule :=
  [⟨"service-url", 1, false⟩, ⟨"access-token", 1, false⟩, ⟨"compact", 0, false⟩]

def targetOptions : List OptionRule :=
  [⟨"path-param", 1, true⟩, ⟨"query", 1, true⟩]

def requestOptions : List OptionRule :=
  targetOptions ++
    [⟨"header", 2, true⟩, ⟨"form", 1, true⟩, ⟨"body-json", 1, false⟩, ⟨"json-patch", 1, false⟩,
      ⟨"body-file", 1, false⟩, ⟨"content-type", 1, false⟩, ⟨"dry-run", 0, false⟩]

/-- Why a command line is not carried out. -/
inductive Halt
  | usage
  | version
  | help
  deriving DecidableEq, Repr

/-- What a command line gives: the values of each option in their order, and the positional texts. -/
structure Given where
  options : List (String × List String)
  positionals : List String

namespace Given

def nothing : Given := ⟨[], []⟩

def has (g : Given) (name : String) : Bool := g.options.any (·.1 = name)

def values (g : Given) (name : String) : List String :=
  (g.options.filter (·.1 = name)).flatMap (·.2)

def value? (g : Given) (name : String) : Option String := (g.values name).head?

/-- Adds an option, unless it is given already and may not be repeated. -/
def add (g : Given) (rule : OptionRule) (values : List String) : Except Halt Given :=
  if !rule.repeats && g.has rule.name then .error .usage
  else .ok { g with options := g.options ++ [(rule.name, values)] }

end Given

def isFlag (s : String) : Bool := s.startsWith "-" && s ≠ "-"

def afterPrefix (n : Nat) (s : String) : String := String.ofList (s.toList.drop n)

/-- What may stand at a level of a command line. -/
structure Grammar where
  options : List OptionRule
  commands : List String
  positionals : Nat
  versioned : Bool

/-- What an option stands for whose name has one letter. -/
def shortFlag (versioned : Bool) (s : String) : Halt :=
  match s.toList with
  | _ :: 'h' :: _ => .help
  | _ :: 'V' :: _ => if versioned then .version else .usage
  | _ => .usage

/-- Reads a level of a command line: what it gives and, if a command follows, its name and the texts
after it. After `--` all texts are positional. -/
def Grammar.scan (rules : Grammar) (g : Given) (args : List String) :
    Except Halt (Given × Option (String × List String)) :=
  match args with
  | [] => .ok (g, none)
  | a :: rest =>
    if a = "--" then
      if g.positionals.length + rest.length ≤ rules.positionals then
        .ok ({ g with positionals := g.positionals ++ rest }, none)
      else .error .usage
    else if a.startsWith "--" then
      let (name, attached) :=
        match Pairs.split? (afterPrefix 2 a) with
        | some (name, value) => (name, some value)
        | none => (afterPrefix 2 a, none)
      if name = "help" && attached.isNone then .error .help
      else if name = "version" && attached.isNone && rules.versioned then .error .version
      else
        match rules.options.find? (·.name = name), attached with
        | none, _ => .error .usage
        | some rule, some value =>
          if rule.arity = 1 then
            match g.add rule [value] with
            | .ok g => rules.scan g rest
            | .error h => .error h
          else .error .usage
        | some rule, none =>
          let values := rest.take rule.arity
          if values.length < rule.arity || values.any isFlag then .error .usage
          else
            match g.add rule values with
            | .ok g => rules.scan g (rest.drop rule.arity)
            | .error h => .error h
    else if isFlag a then .error (shortFlag rules.versioned a)
    else if a ∈ rules.commands then .ok (g, some (a, rest))
    else if g.positionals.length < rules.positionals then
      rules.scan { g with positionals := g.positionals ++ [a] } rest
    else .error .usage
termination_by args.length
decreasing_by all_goals simp only [List.length_drop, List.length_cons]; omega

/-! ### Invocations -/

structure Target where
  path : String
  pathParams : List String
  queries : List String

/-- Where the body of a request comes from. -/
inductive BodySource
  | json (text : String)
  | patch (text : String)
  | file (name : String)

structure RequestArguments where
  method : String
  target : Target
  headers : List String
  forms : List String
  body : Option BodySource
  contentType : Option String
  dryRun : Bool

inductive Action
  | resolve (target : Target)
  | request (arguments : RequestArguments)

/-- A command line that is understood. -/
structure Invocation where
  serviceUrl : String
  token : Option String
  compact : Bool
  action : Action

/-- The variable that stands in for the service URL. -/
def serviceVariable : String := "CLOUD_SERVICE_URL"

/-- The variable that stands in for the token. -/
def tokenVariable : String := "CLOUD_ACCESS_TOKEN"

/-- The only source of a body, if there is one. The name of a file is not empty. -/
def bodySource (g : Given) : Except Halt (Option BodySource) :=
  match g.value? "body-json", g.value? "json-patch", g.value? "body-file" with
  | none, none, none => .ok none
  | some text, none, none => .ok (some (.json text))
  | none, some text, none => .ok (some (.patch text))
  | none, none, some name => if name.isEmpty then .error .usage else .ok (some (.file name))
  | _, _, _ => .error .usage

def targetOf (g : Given) (path : String) : Target :=
  ⟨path, g.values "path-param", g.values "query"⟩

/-- Reads what stands behind the name of a command. -/
def actionOf (command : String) (args : List String) : Except Halt Action := do
  if command = "resolve" then
    let (g, _) ← Grammar.scan ⟨targetOptions, [], 1, false⟩ .nothing args
    match g.positionals with
    | [path] => return .resolve (targetOf g path)
    | _ => .error .usage
  else
    let (g, _) ← Grammar.scan ⟨requestOptions, [], 2, false⟩ .nothing args
    let body ← bodySource g
    match g.positionals with
    | [method, path] =>
      return .request
        { method
          target := targetOf g path
          headers := g.values "header"
          forms := g.values "form"
          body
          contentType := g.value? "content-type"
          dryRun := g.has "dry-run" }
    | _ => .error .usage

def commandNames : List String := ["resolve", "request", "help"]

/-- What a call for help about some command names stands for: at most one is asked about. -/
def helpAbout (names : List String) : Halt :=
  match names with
  | [] => .help
  | [name] => if name ∈ commandNames then .help else .usage
  | _ => .usage

def Invocation.parse (env : String → Option String) (args : List String) :
    Except Halt Invocation := do
  let (g, command) ← Grammar.scan ⟨generalOptions, commandNames, 0, true⟩ .nothing args
  match command with
  | none => .error .usage
  | some ("help", names) => .error (helpAbout names)
  | some (name, rest) =>
    let action ← actionOf name rest
    match (g.value? "service-url").or (env serviceVariable) with
    | none => .error .usage
    | some serviceUrl =>
      return {
        serviceUrl
        token := (g.value? "access-token").or (env tokenVariable)
        compact := g.has "compact"
        action }

end Courier.Command
