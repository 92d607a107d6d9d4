import Relevance.Settings.Load
import Relevance.Site.Results

/-
    tfsearch [OPTIONS] <DOCS> [QUERIES]...

`Invocation.ofArgs` reads the arguments one by one; the first that may not be where it is, or that
asks for the version or for help, ends the reading. `Outcome.ofArgs` is what a run prints and the
code that it ends with, given how files are read.
-/

set_option autoImplicit false

namespace Relevance

structure Invocation where
  /-- The page, or the directory of pages, to index. -/
  docs : String
  queries : List String
  /-- The path of a settings file. -/
  config : Option String
  /-- Takes the place of the similarity in the settings, and `top` likewise. -/
  similarity : Option Similarity
  top : Option Nat
  explain : Bool
  json : Bool
  verbose : Bool
  deriving DecidableEq, Repr

namespace Invocation

inductive Switch where
  | explain
  | json
  | verbose
  deriving DecidableEq, Repr

inductive Parameter where
  | config
  | similarity
  | top
  deriving DecidableEq, Repr

inductive OptionName where
  | switch (switch : Switch)
  | parameter (parameter : Parameter)
  | help
  | version
  deriving DecidableEq, Repr

namespace OptionName

def long : OptionName → String
  | switch .explain => "explain"
  | switch .json => "json"
  | switch .verbose => "verbose"
  | parameter .config => "config"
  | parameter .similarity => "similarity"
  | parameter .top => "top"
  | help => "help"
  | version => "version"

def short? : OptionName → Option Char
  | switch .verbose => some 'v'
  | parameter .config => some 'c'
  | help => some 'h'
  | version => some 'V'
  | _ => none

def all : List OptionName := [
  parameter .config, parameter .similarity, parameter .top, switch .explain, switch .json,
  switch .verbose, help, version]

def ofLong? (name : String) : Option OptionName :=
  all.find? (·.long = name)

def ofShort? (letter : Char) : Option OptionName :=
  all.find? (·.short? = some letter)

end OptionName

inductive UsageError where
  | unknownOption (name : String)
  | repeatedOption (name : OptionName)
  | missingValue (parameter : Parameter)
  | unexpectedValue (name : OptionName)
  | invalidValue (parameter : Parameter) (value : String)
  | missingDocs
  deriving DecidableEq, Repr

def UsageError.message : UsageError → String
  | unknownOption name => "unexpected argument '" ++ name ++ "' found"
  | repeatedOption name => "the argument '--" ++ name.long ++ "' cannot be used multiple times"
  | missingValue parameter =>
    "a value is required for '--" ++ (OptionName.parameter parameter).long ++ "'"
  | unexpectedValue name => "no value is allowed for '--" ++ name.long ++ "'"
  | invalidValue parameter value =>
    "invalid value '" ++ value ++ "' for '--" ++ (OptionName.parameter parameter).long ++ "'"
  | missingDocs => "a value is required for '<DOCS>'"

inductive Stop where
  | version
  | help
  | misuse (error : UsageError)
  deriving DecidableEq, Repr

structure Draft where
  positionals : List String
  config : Option String
  similarity : Option Similarity
  top : Option Nat
  switches : List Switch
  /-- The option whose value the next argument is. -/
  awaiting : Option Parameter
  /-- Whether options have ended. -/
  literal : Bool
  deriving DecidableEq, Repr

/-- A count below `2 ^ 64`, with a plus sign or without. -/
def readCount? (text : List Char) : Option Nat :=
  let digits := match text with
    | '+' :: rest => rest
    | _ => text
  if digits.isEmpty || !digits.all Char.isDigit || UInt64.size ≤ digitsValue digits then none
  else some (digitsValue digits)

namespace Draft

def empty : Draft :=
  ⟨[], none, none, none, [], none, false⟩

/-- Takes an argument that is no option. The first is a path, and not empty. -/
def positional (draft : Draft) (arg : String) : Except Stop Draft :=
  if draft.positionals.isEmpty && arg.isEmpty then .error (.misuse .missingDocs)
  else .ok { draft with positionals := draft.positionals ++ [arg] }

def turnOn (draft : Draft) (switch : Switch) : Except Stop Draft :=
  if switch ∈ draft.switches then .error (.misuse (.repeatedOption (.switch switch)))
  else .ok { draft with switches := draft.switches ++ [switch] }

def has (draft : Draft) : Parameter → Bool
  | .config => draft.config.isSome
  | .similarity => draft.similarity.isSome
  | .top => draft.top.isSome

/-- The draft with a value for a parameter; none if the value is no such value. -/
def withValue? (draft : Draft) (parameter : Parameter) (value : String) : Option Draft :=
  match parameter with
  | .config => if value.isEmpty then none else some { draft with config := some value }
  | .similarity =>
    (Similarity.ofKeyword? value).map fun similarity => { draft with similarity := some similarity }
  | .top => (readCount? value.toList).map fun top => { draft with top := some top }

def assign (draft : Draft) (parameter : Parameter) (value : String) : Except Stop Draft :=
  if draft.has parameter then .error (.misuse (.repeatedOption (.parameter parameter)))
  else match draft.withValue? parameter value with
    | some draft => .ok draft
    | none => .error (.misuse (.invalidValue parameter value))

/-- Takes an option behind two hyphens, with a value behind an equals sign or without. -/
def takeLong (draft : Draft) (text : List Char) : Except Stop Draft :=
  let name := text.takeWhile (· ≠ '=')
  match OptionName.ofLong? (.ofList name), text.drop name.length with
  | none, _ => .error (.misuse (.unknownOption (.ofList ('-' :: '-' :: name))))
  | some (.parameter parameter), _ :: value => draft.assign parameter (.ofList value)
  | some (.parameter parameter), [] => .ok { draft with awaiting := some parameter }
  | some name, _ :: _ => .error (.misuse (.unexpectedValue name))
  | some (.switch switch), [] => draft.turnOn switch
  | some .help, [] => .error .help
  | some .version, [] => .error .version

/-- Takes options of one letter each. All that follows the letter of a parameter is its value, but
for an equals sign in front. -/
def takeShort (draft : Draft) : List Char → Except Stop Draft
  | [] => .ok draft
  | letter :: rest =>
    match OptionName.ofShort? letter with
    | none => .error (.misuse (.unknownOption (.ofList ['-', letter])))
    | some (.switch switch) => do takeShort (← draft.turnOn switch) rest
    | some (.parameter parameter) =>
      match rest with
      | [] => .ok { draft with awaiting := some parameter }
      | '=' :: value => draft.assign parameter (.ofList value)
      | value => draft.assign parameter (.ofList value)
    | some .help => .error .help
    | some .version => .error .version

/-- Takes an argument. A lone hyphen is no option, and two of them end the options. -/
def take (draft : Draft) (arg : String) : Except Stop Draft :=
  if draft.literal then draft.positional arg
  else match draft.awaiting, arg.toList with
    | some parameter, '-' :: _ :: _ => .error (.misuse (.missingValue parameter))
    | some parameter, _ => { draft with awaiting := none }.assign parameter arg
    | none, ['-', '-'] => .ok { draft with literal := true }
    | none, '-' :: '-' :: text => draft.takeLong text
    | none, '-' :: letter :: rest => draft.takeShort (letter :: rest)
    | none, _ => draft.positional arg

/-- What is asked for at the end of the arguments. -/
def finish (draft : Draft) : Except Stop Invocation :=
  match draft.awaiting, draft.positionals with
  | some parameter, _ => .error (.misuse (.missingValue parameter))
  | none, [] => .error (.misuse .missingDocs)
  | none, docs :: queries => .ok {
      docs, queries
      config := draft.config
      similarity := draft.similarity
      top := draft.top
      explain := .explain ∈ draft.switches
      json := .json ∈ draft.switches
      verbose := .verbose ∈ draft.switches }

end Draft

def ofArgs (args : List String) : Except Stop Invocation := do
  (← args.foldlM Draft.take .empty).finish

inductive Failure where
  | settings (error : Settings.LoadError)
  | indexing (error : IndexingError)

def Failure.message : Failure → String
  | settings error => error.message
  | indexing error => error.message

def faultCode : Nat := 101

def Failure.code : Failure → Nat
  | indexing (.fault _) => faultCode
  | _ => 1

/-- The settings in the file that is asked for, with the options in place of what is there. -/
def settings (invocation : Invocation) (read : String → Except FileError (List UInt8)) :
    Except Settings.LoadError Settings := do
  let settings ← match invocation.config with
    | some path => Settings.load path (read path)
    | none => pure .standard
  return { settings with
    similarity := invocation.similarity.getD settings.similarity
    top := invocation.top.getD settings.top
    explain := invocation.explain || settings.explain }

/-- The text of results, in the form that is asked for. -/
def shown (invocation : Invocation) (results : Results) : String :=
  if invocation.json then results.toJson.pretty ++ "\n" else results.text

/-- The texts of the results of queries, up to the first one that cannot be searched for. -/
def answers (invocation : Invocation) (search : String → Except Fault Results) :
    List String → String × Option Fault
  | [] => ("", none)
  | query :: rest =>
    match search query with
    | .ok results =>
      let (later, fault) := invocation.answers search rest
      (invocation.shown results ++ later, fault)
    | .error fault => ("", some fault)

def run (invocation : Invocation) (read : String → Except FileError (List UInt8))
    (view : String → FileTree) : Except Failure (String × Option Fault) := do
  let settings ← (invocation.settings read).mapError .settings
  let empty ← (Site.ofSettings settings).mapError .indexing
  let (site, _) ← (empty.addTree invocation.docs (view invocation.docs)).mapError .indexing
  return invocation.answers (site.search settings) invocation.queries

end Invocation

structure Outcome where
  code : Nat
  output : String
  /-- What there is to complain about. -/
  complaint : Option String
  deriving DecidableEq, Repr

namespace Outcome

def versionText : String :=
  "tfsearch 0.1.0\n"

def helpText : String :=
  "Index HTML files and search them with explainable TF-IDF scores

Usage: tfsearch [OPTIONS] <DOCS> [QUERIES]...

Arguments:
  <DOCS>        HTML file, or directory of HTML files, to index
  [QUERIES]...  Queries to run. Quote a phrase to match it exactly

Options:
  -c, --config <CONFIG>          JSON settings file
      --similarity <SIMILARITY>  [possible values: smoothed, classic]
      --top <TOP>                Number of hits to show per query
      --explain                  Show how each hit was scored
      --json                     Print results as JSON
  -v, --verbose
  -h, --help                     Print help
  -V, --version                  Print version
"

def ofArgs (args : List String) (read : String → Except FileError (List UInt8))
    (view : String → FileTree) : Outcome :=
  match Invocation.ofArgs args with
  | .error .version => ⟨0, versionText, none⟩
  | .error .help => ⟨0, helpText, none⟩
  | .error (.misuse error) => ⟨2, "", some error.message⟩
  | .ok invocation =>
    match invocation.run read view with
    | .ok (output, none) => ⟨0, output, none⟩
    | .ok (output, some fault) => ⟨Invocation.faultCode, output, some fault.message⟩
    | .error failure => ⟨failure.code, "", some failure.message⟩

end Outcome

end Relevance
