import ServingPreset.CommandLine.Help
import ServingPreset.Preset.Summary
import ServingPreset.Remote.Client

/-!
# The command line

A repository, and the options `--token`, `--endpoint` and `--timeout`: the command prints
the summary of the preset of the repository. Arguments are read from left to right and the
first that decides the outcome wins. An option takes its value behind an equals sign or from
the next argument, which must not look like an option itself, and is given at most once.
-/

namespace ServingPreset

namespace CommandLine

/-- What a valid command line asks for. -/
structure Options where
  token : Option String := none
  endpoint : Option String := none
  timeout : Option UInt64 := none
  repository : Option String := none
deriving DecidableEq, Repr, Inhabited

/-- What a command line amounts to. -/
inductive Invocation where
  | invalid
  | version
  | help
  | generate (options : Options) (repository : String)
deriving DecidableEq, Repr, Inhabited

/-- Whether an argument looks like an option. -/
def looksLikeOption (argument : String) : Bool :=
  match argument.toList with
  | '-' :: _ :: _ => true
  | _ => false

/-- Take the value of an option; nothing when the option is unknown, repeated or unfit. -/
def setOption? (options : Options) (name value : String) : Option Options :=
  match name with
  | "token" => if options.token.isSome then none else some { options with token := some value }
  | "endpoint" =>
      if options.endpoint.isSome then none else some { options with endpoint := some value }
  | "timeout" =>
      if options.timeout.isSome then none
      else (DecimalText.unsigned? value).map fun seconds => { options with timeout := some seconds }
  | _ => none

/-- Take the repository; nothing when there is one already. -/
def setRepository? (options : Options) (repository : String) : Option Options :=
  if options.repository.isSome then none else some { options with repository := some repository }

/-- What the arguments amount to once all of them are read. -/
def finish (options : Options) : Invocation :=
  match options.repository with
  | some repository => .generate options repository
  | none => .invalid

/-- Read the arguments behind `--`, none of which is an option. -/
def readOperands (options : Options) : List String → Invocation
  | [] => finish options
  | argument :: rest =>
      match setRepository? options argument with
      | some options => readOperands options rest
      | none => .invalid

/-- Read arguments. -/
def read (options : Options) : List String → Invocation
  | [] => finish options
  | argument :: rest =>
      match argument.toList with
      | ['-', '-'] => readOperands options rest
      | '-' :: '-' :: long =>
          let name := String.ofList (Text.beforeFirst '=' long)
          match Text.afterFirst? '=' long with
          | some value =>
              match setOption? options name (String.ofList value) with
              | some options => read options rest
              | none => .invalid
          | none =>
              if name = "version" then .version
              else if name = "help" then .help
              else
                match rest with
                | [] => .invalid
                | value :: later =>
                    if looksLikeOption value then .invalid
                    else
                      match setOption? options name value with
                      | some options => read options later
                      | none => .invalid
      | '-' :: 'V' :: _ => .version
      | '-' :: 'h' :: _ => .help
      | '-' :: _ :: _ => .invalid
      | _ =>
          match setRepository? options argument with
          | some options => read options rest
          | none => .invalid

/-- What an invocation leaves behind. -/
structure Outcome where
  exitCode : Nat
  output : String
  diagnostics : String
  requests : List Request := []
deriving DecidableEq, Repr, Inhabited

/-- The settings that options and environment amount to. -/
def settings (options : Options) (environment : String → Option String) : Settings :=
  let base : Settings := {}
  { base with
    baseUrl := (options.endpoint.or (environment endpointVariable)).getD base.baseUrl
    timeoutSeconds := options.timeout.getD base.timeoutSeconds }

/-- Generate and print the preset of a repository. -/
def generate (options : Options) (environment : String → Option String) (network : Network)
    (repository : String) : Outcome :=
  let settings := settings options environment
  let generation := RemoteGeneration.run settings network (environment settings.tokenVariable)
    repository (options.token.getD "")
  match generation.result with
  | .ok preset => ⟨0, (Summary.ofPreset preset).toYaml ++ "\n", "", generation.requests⟩
  | .error (.problem problem) =>
      ⟨1, "", "Error: " ++ problem.message ++ "\n", generation.requests⟩
  | .error (.fault fault) => ⟨101, "", fault.message ++ "\n", generation.requests⟩

/-- Run the command. -/
def run (arguments : List String) (environment : String → Option String) (network : Network) :
    Outcome :=
  match read {} arguments with
  | .invalid => ⟨2, "", usage, []⟩
  | .version => ⟨0, "presetgen 0.2.0\n", "", []⟩
  | .help => ⟨0, help environment, "", []⟩
  | .generate options repository => generate options environment network repository

end CommandLine

end ServingPreset
