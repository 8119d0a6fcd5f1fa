import WireLayout.Output.Encoding
import WireLayout.Output.Listing
import WireLayout.Sample.Transfer

/-!
# The command

The command compiles a schema and prints its models, as a listing or as JSON.
Its first argument names the file of the schema, the sample schema being taken
without one, and its second argument the target language.  Arguments that begin
with two dashes are options wherever they stand, and of these only `--json`
means something.
-/

namespace WireLayout.Command

/-- What a run of the command is asked to do. -/
structure Request where
  path : Option String
  languageName : Option String
  asJson : Bool
  deriving DecidableEq, Repr

/-- Whether an argument is an option. -/
def isOption (argument : String) : Bool :=
  ['-', '-'].isPrefixOf argument.toList

/-- The request that arguments make. -/
def Request.ofArguments (arguments : List String) : Request :=
  let positional := arguments.filter fun argument => !isOption argument
  ⟨positional[0]?, positional[1]?, arguments.contains "--json"⟩

/-- The language of a request. -/
def Request.language (request : Request) : Except CompileFault Language :=
  match request.languageName with
  | some name => Language.ofName name
  | none => .ok .java

/-- The schema of a request, given the contents of files. -/
def Request.schema (request : Request) (files : String → Option ByteArray) :
    Except CompileFault Schema :=
  match request.path with
  | none => (Schema.ofText Sample.transferText).mapError CompileFault.loading
  | some path =>
      match files path with
      | some content => (Schema.ofBytes content).mapError CompileFault.loading
      | none => .error (.loading .unreadable)

/--
The text that the command prints for a request, given the contents of files.
-/
def Request.output (request : Request) (files : String → Option ByteArray) :
    Except CompileFault String := do
  let language ← request.language
  let schema ← request.schema files
  let compiled ← compile schema Settings.standard language
  return if request.asJson then compiled.json.pretty ++ "\n"
    else compiled.listing

/--
What a run of the command leaves: its status, its output, and its
complaint, if it fails.
-/
structure Outcome where
  status : Nat
  output : String
  complaint : Option String
  deriving DecidableEq, Repr

/-- Runs the command on arguments, given the contents of files. -/
def run (files : String → Option ByteArray)
    (arguments : List String) : Outcome :=
  match (Request.ofArguments arguments).output files with
  | .ok output => ⟨0, output, none⟩
  | .error fault =>
      ⟨1, "", some (fault.message?.getD "the schema cannot be read")⟩

end WireLayout.Command
