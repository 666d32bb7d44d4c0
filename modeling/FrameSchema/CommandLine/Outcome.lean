import FrameSchema.Bindings.Functions
import FrameSchema.Bindings.Source
import FrameSchema.CommandLine.Request
import FrameSchema.Schema.Load

/-!
# CommandLine/Outcome — what a run does, and how it is told

A run loads the schema, then counts what it holds, prints the generated source, or writes it to a
file.  Whatever fails first ends it; the report names what was being done and why it failed.
-/

namespace FrameSchema.CommandLine

/-- Why a job fails: what was being done, and the cause. -/
structure Failure where
  activity : String
  cause : LoadError
  deriving DecidableEq, Repr

/-- How a run ends. -/
inductive Outcome where
  /-- The job is done; the text is for the standard output. -/
  | success (text : String)
  | failed (failure : Failure)
  | refused (error : UsageError)
  deriving DecidableEq, Repr

/-! ## Running -/

/-- The source text generated for a schema. -/
def sourceOf (schema : Schema) (options : Bindings.Options) : Except Schema.Error String :=
  Bindings.Module.render <$> Bindings.Module.ofSchema schema options

/-- Generates the source for a schema and writes it to a file. -/
def writeSource {m : Type → Type} [Monad m] [Files m] (schema : Schema)
    (options : Bindings.Options) (path : String) : m (Except LoadError Unit) := do
  match sourceOf schema options with
  | .error cause => return .error (.schema cause)
  | .ok source => return (← Files.writeText path source).mapError .file

/-- The line that counts what a schema holds. -/
def summary (path : String) (schema : Schema) : String :=
  s!"{path}: {schema.classes.length} classes, {schema.methodCount} methods, " ++
    s!"{schema.domains.length} domains, {schema.constants.length} constants\n"

/-- What a job does with its schema. -/
def Job.runOn {m : Type → Type} [Monad m] [Files m] (job : Job) (schema : Schema) : m Outcome := do
  if job.check then return .success (summary job.schemaPath schema)
  else match job.output with
    | some path =>
      match ← writeSource schema job.options path with
      | .ok () => return .success ""
      | .error cause => return .failed ⟨s!"writing {path}", cause⟩
    | none =>
      match sourceOf schema job.options with
      | .ok source => return .success source
      | .error cause => return .failed ⟨"generating source", .schema cause⟩

/-- A whole job. -/
def Job.run {m : Type → Type} [Monad m] [Files m] (job : Job) : m Outcome := do
  match ← Schema.ofFile job.schemaPath with
  | .ok schema => job.runOn schema
  | .error cause => return .failed ⟨s!"loading schema {job.schemaPath}", cause⟩

/-- The answer to a question for the version. -/
def versionText : String := "amqp-codegen 0.1.0\n"

/-- The answer to a question for help. -/
def helpText : String := String.intercalate "\n" [
  "Generate typed codecs from a protocol schema",
  "",
  "Usage: amqp-codegen [OPTIONS] <SCHEMA>",
  "",
  "Arguments:",
  "  <SCHEMA>  JSON schema document",
  "",
  "Options:",
  "  -o, --output <OUTPUT>              Output file (stdout when omitted)",
  "      --runtime-path <RUNTIME_PATH>  Module path of the field codec used by generated code " ++
    "[default: amqp_codegen::wire]",
  "      --no-constants                 Do not emit schema constants",
  "      --check                        Validate only",
  "  -h, --help                         Print help",
  "  -V, --version                      Print version",
  ""]

/-- **What a command line leads to.** -/
def run {m : Type → Type} [Monad m] [Files m] (words : List String) : m Outcome :=
  match Request.ofWords words with
  | .error error => return .refused error
  | .ok .help => return .success helpText
  | .ok .version => return .success versionText
  | .ok (.run job) => job.run

/-! ## Telling -/

/-- A cause and what lies behind it. -/
def causes : LoadError → List String
  | .file fault => [(LoadError.file fault).message, fault.message]
  | .json fault => [(LoadError.json fault).message, fault.message]
  | .schema cause => [cause.message]

/-- Causes below one another: a single one is set in, several are numbered. -/
def causeLines : List String → String
  | [cause] => "    " ++ cause.replace "\n" "\n    "
  | causes => String.intercalate "\n" (causes.mapIdx fun i cause =>
      s!"    {i}: " ++ cause.replace "\n" "\n       ")

/-- The report of a failure. -/
def Failure.report (failure : Failure) : String :=
  s!"Error: {failure.activity}\n\nCaused by:\n{causeLines (causes failure.cause)}\n"

namespace Outcome

/-- The exit code. -/
def code : Outcome → UInt32
  | success _ => 0
  | failed _ => 1
  | refused _ => 2

/-- The text for the standard output. -/
def stdout : Outcome → String
  | success text => text
  | _ => ""

/-- The text for the standard error output. -/
def stderr : Outcome → String
  | success _ => ""
  | failed failure => failure.report
  | refused error => s!"error: {error.message}\n\nFor more information, try '--help'.\n"

end Outcome

end FrameSchema.CommandLine
