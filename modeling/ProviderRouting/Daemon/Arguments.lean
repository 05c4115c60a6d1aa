import ProviderRouting.Configuration.Layers

/-!
# Command lines

A command line has a command with its own switches and operands.  The switches that apply to every
command may stand before or after it, and those after it take precedence.  A switch that takes a
value has it in the next word or after an equals sign.  At either place a switch stands at most
once.
-/

namespace ProviderRouting

/-- A switch on a command line. -/
inductive Switch where
  /-- The settings file. -/
  | config
  /-- How much is logged. -/
  | logLevel
  /-- The catalog. -/
  | catalog
  /-- How many planned attempts a run examines. -/
  | maxRetries
  /-- Consecutive failures that open a breaker. -/
  | failureThreshold
  /-- Whether breakers are shared. -/
  | store
  /-- The provider to try first. -/
  | prefer
  /-- Ask for streamed responses. -/
  | streaming
  /-- Ask for function calling. -/
  | tools
  /-- Ask for image input. -/
  | vision
  /-- Show the version. -/
  | version
  /-- Show help. -/
  | help
deriving DecidableEq

/-- What the daemon is asked to do. -/
inductive Command where
  /-- Run the engine. -/
  | serve
  /-- Show how a request would be planned. -/
  | plan (request : PlanRequest)
  /-- Show the shared states of breakers. -/
  | breakers
  /-- Show the exported metrics. -/
  | metrics
  /-- Check the settings and the catalog. -/
  | check
deriving DecidableEq

/-- A command with what the command line sets. -/
structure Invocation where
  /-- The settings file, if one is named. -/
  configPath : Option String
  /-- What is laid over the settings. -/
  overrides : SettingOverrides
  /-- The command. -/
  command : Command

/-- Why a command line is refused. -/
inductive UsageFault where
  /-- A word has no meaning at its place. -/
  | unknownWord (word : String)
  /-- A switch lacks its value. -/
  | missingValue (switch : Switch)
  /-- A switch cannot have that value. -/
  | badValue (switch : Switch) (value : String)
  /-- A switch that takes no value has one. -/
  | needlessValue (switch : Switch)
  /-- A switch stands twice at one place. -/
  | repeated (switch : Switch)
  /-- There is no command. -/
  | missingCommand
  /-- The command lacks an operand. -/
  | missingOperand
deriving DecidableEq

/-- What a command line asks for. -/
inductive Usage where
  /-- Carry out a command. -/
  | run (invocation : Invocation)
  /-- Show the version. -/
  | showVersion
  /-- Show help. -/
  | showHelp

namespace Switch

/-- The name of a switch after two hyphens. -/
def name : Switch → String
  | config => "config"
  | logLevel => "log-level"
  | catalog => "catalog"
  | maxRetries => "max-retries"
  | failureThreshold => "failure-threshold"
  | store => "store"
  | prefer => "prefer"
  | streaming => "streaming"
  | tools => "tools"
  | vision => "vision"
  | version => "version"
  | help => "help"

/-- The letter of a switch after one hyphen. -/
def letter? : Switch → Option Char
  | config => some 'c'
  | logLevel => some 'l'
  | version => some 'V'
  | help => some 'h'
  | _ => none

/-- Whether a switch takes a value. -/
def takesValue : Switch → Bool
  | streaming | tools | vision | version | help => false
  | _ => true

/-- A whole number of 32 bits; a sign may stand in front of it. -/
def word32? (value : String) : Option UInt32 :=
  let size := match value.toList with
    | '-' :: digits =>
      if digits.head? = some '+' then none else Text.numeral? 1 (String.ofList digits)
    | _ => Text.numeral? UInt32.size value
  size.map Nat.toUInt32

/-- Yes or no. -/
def truth? (value : String) : Option Bool :=
  if value = "true" then some true else if value = "false" then some false else none

/-- Whether a switch can have a value. -/
def accepts (switch : Switch) (value : String) : Bool :=
  match switch with
  | config | catalog => value ≠ ""
  | maxRetries => (Text.numeral? UInt64.size value).isSome
  | failureThreshold => (word32? value).isSome
  | store => (truth? value).isSome
  | _ => true

/-- The switches that apply to every command. -/
def general : List Switch := [config, logLevel, catalog, maxRetries, failureThreshold, store]

end Switch

namespace CommandLine

/-- The kind of a word. -/
inductive Word where
  /-- Two hyphens: everything after them is an operand. -/
  | separator
  /-- A switch by its name, with the text after an equals sign. -/
  | long (name : String) (value : Option String)
  /-- A switch by its letter, with the text after it. -/
  | short (letter : Char) (rest : List Char)
  /-- Anything else. -/
  | operand
deriving DecidableEq

/-- The kind of a word. -/
def kind (word : String) : Word :=
  match word.toList with
  | ['-', '-'] => .separator
  | '-' :: '-' :: rest =>
    let name := String.ofList (rest.takeWhile (· ≠ '='))
    match rest.dropWhile (· ≠ '=') with
    | '=' :: value => .long name (some (String.ofList value))
    | _ => .long name none
  | '-' :: letter :: rest => .short letter rest
  | _ => .operand

/-- A place for switches: before the command, or after it. -/
structure Place where
  /-- The switches that may stand there. -/
  switches : List Switch
  /-- The words that end it. -/
  commands : List String
  /-- The most operands that may stand there. -/
  operands : Nat

/-- What stands at a place. -/
structure Findings where
  /-- The switches with their values. -/
  values : List (Switch × String)
  /-- The operands. -/
  operands : List String
deriving Inhabited

/-- What ends a place. -/
inductive Ending where
  /-- The command line ends. -/
  | lineEnd
  /-- A command begins. -/
  | command (name : String) (rest : List String)
  /-- The version is asked for. -/
  | version
  /-- Help is asked for. -/
  | help

namespace Findings

/-- The value of a switch. -/
def get? (findings : Findings) (switch : Switch) : Option String :=
  (findings.values.find? (·.1 = switch)).map (·.2)

/-- Add a switch. -/
def add (switch : Switch) (value : String) (findings : Findings) : Except UsageFault Findings :=
  if (findings.get? switch).isSome then .error (.repeated switch)
  else if switch.accepts value then
    .ok { findings with values := findings.values ++ [(switch, value)] }
  else .error (.badValue switch value)

/-- Add an operand. -/
def addOperand (place : Place) (word : String) (findings : Findings) :
    Except UsageFault Findings :=
  if findings.operands.length < place.operands then
    .ok { findings with operands := findings.operands ++ [word] }
  else .error (.unknownWord word)

end Findings

/-- Read the words at a place.  `pending` is a switch whose value is the next word. -/
def scan (place : Place) : (pending : Option Switch) → List String → Findings →
    Except UsageFault (Findings × Ending)
  | some switch, [], _ => .error (.missingValue switch)
  | none, [], findings => .ok (findings, .lineEnd)
  | some switch, word :: rest, findings =>
    match kind word with
    | .operand => do
      let findings ← findings.add switch word
      scan place none rest findings
    | _ => .error (.missingValue switch)
  | none, word :: rest, findings =>
    match kind word with
    | .separator => do
      let findings ← rest.foldlM (fun findings word => findings.addOperand place word) findings
      return (findings, .lineEnd)
    | .operand =>
      if place.commands.contains word then .ok (findings, .command word rest)
      else do
        let findings ← findings.addOperand place word
        scan place none rest findings
    | .long name value =>
      match place.switches.find? (·.name = name) with
      | none => .error (.unknownWord word)
      | some switch =>
        if switch.takesValue then
          match value with
          | some value => do
            let findings ← findings.add switch value
            scan place none rest findings
          | none => scan place (some switch) rest findings
        else if value.isSome then .error (.needlessValue switch)
        else match switch with
          | .version => .ok (findings, .version)
          | .help => .ok (findings, .help)
          | switch => do
            let findings ← findings.add switch ""
            scan place none rest findings
    | .short letter attached =>
      match place.switches.find? (·.letter? = some letter) with
      | none => .error (.unknownWord word)
      | some .version => .ok (findings, .version)
      | some .help => .ok (findings, .help)
      | some switch =>
        match attached with
        | [] => scan place (some switch) rest findings
        | '=' :: value => do
          let findings ← findings.add switch (String.ofList value)
          scan place none rest findings
        | value => do
          let findings ← findings.add switch (String.ofList value)
          scan place none rest findings

/-- The names of the commands, with help on them. -/
def commandNames : List String := ["serve", "plan", "breakers", "metrics", "check", "help"]

/-- The place before the command. -/
def front : Place := ⟨Switch.general ++ [.version, .help], commandNames, 0⟩

/-- The place after a command. -/
def back (command : String) : Place :=
  if command = "plan" then
    ⟨Switch.general ++ [.prefer, .streaming, .tools, .vision, .help], [], 1⟩
  else ⟨Switch.general ++ [.help], [], 0⟩

/-- The variable that names the settings file. -/
def configVariable : String := "GATEWAY_CONFIG"

/-- The command with its operands. -/
def command (name : String) (findings : Findings) : Except UsageFault Command :=
  match name with
  | "serve" => .ok .serve
  | "breakers" => .ok .breakers
  | "metrics" => .ok .metrics
  | "check" => .ok .check
  | "plan" =>
    match findings.operands with
    | [model] =>
      .ok (.plan
        { model := model
          preferred := findings.get? .prefer
          required :=
            { streaming := (findings.get? .streaming).isSome
              functionCalling := (findings.get? .tools).isSome
              vision := (findings.get? .vision).isSome } })
    | _ => .error .missingOperand
  | name => .error (.unknownWord name)

/-- Help on the command that words name.  They may name one command and no more; without words, help
is on the whole. -/
def helpOn : List String → Except UsageFault Usage
  | [] => .ok .showHelp
  | [name] => if commandNames.contains name then .ok .showHelp else .error (.unknownWord name)
  | name :: word :: _ => .error (.unknownWord (if commandNames.contains name then word else name))

/-- The invocation with the switches of both places.  The variable for the settings file is looked
at wherever the switch is missing, and must have a usable value there. -/
def invocation (environment : Environment) (before after : Findings) (command : Command) :
    Except UsageFault Invocation :=
  let get? (switch : Switch) : Option String := (after.get? switch).or (before.get? switch)
  let variableValue := environment.get? configVariable
  let variableUsed := (before.get? .config).isNone || (after.get? .config).isNone
  if variableUsed && variableValue.any (!Switch.config.accepts ·) then
    .error (.badValue .config "")
  else .ok
    { configPath := (get? .config).or variableValue
      overrides :=
        { catalogPath := get? .catalog
          maxRetries := (get? .maxRetries).bind (Text.numeral? UInt64.size)
          failures := (get? .failureThreshold).bind Switch.word32?
          storeEnabled := (get? .store).bind Switch.truth? }
      command := command }

/-- What a command line asks for. -/
def read (environment : Environment) (words : List String) : Except UsageFault Usage := do
  match ← scan front none words default with
  | (_, .version) => return .showVersion
  | (_, .help) => return .showHelp
  | (_, .lineEnd) => .error .missingCommand
  | (before, .command name rest) =>
    if name = "help" then helpOn rest
    else match ← scan (back name) none rest default with
    | (_, .version) => return .showVersion
    | (_, .help) => return .showHelp
    | (after, _) => do
      let command ← command name after
      return .run (← invocation environment before after command)

end CommandLine

end ProviderRouting
