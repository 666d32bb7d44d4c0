import FrameSchema.Bindings.Types

/-!
# CommandLine/Request — what the words of a command line ask for

Words are read from left to right.  A word that starts with a dash is an option, unless it is a lone
dash or stands behind `--`; any other word is the path of the schema.  Each option may be given
once.  The first word that cannot be understood decides, and so does the first that asks for help or
for the version.
-/

namespace FrameSchema.CommandLine

/-- What a run is told to do. -/
structure Job where
  schemaPath : String
  /-- Where the source goes, if not to the standard output. -/
  output : Option String
  options : Bindings.Options
  /-- Whether to look at the schema only. -/
  check : Bool
  deriving DecidableEq, Repr

/-- What a command line asks for. -/
inductive Request where
  | help
  | version
  | run (job : Job)
  deriving DecidableEq, Repr

/-- Why a command line is refused. -/
inductive UsageError where
  | unknownOption (word : String)
  | unexpectedWord (word : String)
  | repeated (option : String)
  | missingValue (option : String)
  | unneededValue (option : String)
  | missingSchema
  deriving DecidableEq, Repr

/-- The wording of a refusal. -/
def UsageError.message : UsageError → String
  | unknownOption word => s!"unexpected argument '{word}' found"
  | unexpectedWord word => s!"unexpected argument '{word}' found"
  | repeated option => s!"the argument '{option}' cannot be used multiple times"
  | missingValue option => s!"a value is required for '{option}' but none was supplied"
  | unneededValue option => s!"unexpected value for '{option}' found; no more were expected"
  | missingSchema => "the following required arguments were not provided: <SCHEMA>"

/-! ## Options -/

/-- The options without a value. -/
inductive Flag where
  | check | noConstants | help | version
  deriving DecidableEq, Repr

/-- The options with a value. -/
inductive Setting where
  | output | runtimePath
  deriving DecidableEq, Repr

/-- An option. -/
inductive Switch where
  | flag (flag : Flag)
  | setting (setting : Setting)
  deriving DecidableEq, Repr

/-- The option of a long name. -/
def Switch.ofName? : String → Option Switch
  | "check" => some (.flag .check)
  | "no-constants" => some (.flag .noConstants)
  | "help" => some (.flag .help)
  | "version" => some (.flag .version)
  | "output" => some (.setting .output)
  | "runtime-path" => some (.setting .runtimePath)
  | _ => none

/-- The option of a letter. -/
def Switch.ofLetter? : Char → Option Switch
  | 'h' => some (.flag .help)
  | 'V' => some (.flag .version)
  | 'o' => some (.setting .output)
  | _ => none

/-- What a setting is called in messages. -/
def Setting.name : Setting → String
  | output => "--output <OUTPUT>"
  | runtimePath => "--runtime-path <RUNTIME_PATH>"

/-- What a flag is called in messages. -/
def Flag.name : Flag → String
  | check => "--check"
  | noConstants => "--no-constants"
  | help => "--help"
  | version => "--version"

/-! ## Reading words -/

/-- What was understood so far. -/
structure Draft where
  schemaPath : Option String
  output : Option String
  runtimePath : Option String
  noConstants : Bool
  check : Bool

/-- Nothing was said yet. -/
def Draft.blank : Draft := ⟨none, none, none, false, false⟩

/-- The job of a finished draft; the path of the schema has to be there. -/
def Draft.finish (draft : Draft) : Except UsageError Request :=
  match draft.schemaPath with
  | some schemaPath =>
    let defaults : Bindings.Options := {}
    .ok (.run {
      schemaPath
      output := draft.output
      options := { defaults with
        runtimePath := draft.runtimePath.getD defaults.runtimePath
        emitConstants := !draft.noConstants }
      check := draft.check })
  | none => .error .missingSchema

/-- Takes the path of the schema. -/
def Draft.takePath (draft : Draft) (word : String) : Except UsageError Draft :=
  if draft.schemaPath.isSome then .error (.unexpectedWord word)
  else if word.isEmpty then .error (.missingValue "<SCHEMA>")
  else .ok { draft with schemaPath := some word }

/-- Takes the value of a setting.  A path must not be empty. -/
def Draft.set (draft : Draft) (setting : Setting) (value : String) : Except UsageError Draft :=
  match setting with
  | .output =>
    if value.isEmpty then .error (.missingValue setting.name)
    else if draft.output.isSome then .error (.repeated setting.name)
    else .ok { draft with output := some value }
  | .runtimePath =>
    if draft.runtimePath.isSome then .error (.repeated setting.name)
    else .ok { draft with runtimePath := some value }

/-- Raises a flag: the draft goes on, or the command line is answered at once. -/
def Draft.raise (draft : Draft) (flag : Flag) : Except UsageError (Draft ⊕ Request) :=
  match flag with
  | .help => .ok (.inr .help)
  | .version => .ok (.inr .version)
  | .check =>
    if draft.check then .error (.repeated flag.name)
    else .ok (.inl { draft with check := true })
  | .noConstants =>
    if draft.noConstants then .error (.repeated flag.name)
    else .ok (.inl { draft with noConstants := true })

/-- What a word leads to: the draft with it, a setting whose value has to follow, or the answer. -/
inductive Step where
  | next (draft : Draft)
  | awaitValue (setting : Setting)
  | done (request : Request)

/-- Where a draft or an answer leads. -/
def Step.ofRaise : Draft ⊕ Request → Step
  | .inl draft => .next draft
  | .inr request => .done request

/-- A long option, its name and its value given behind `=`, if one is. -/
def longStep (draft : Draft) (word name : String) (value : Option String) :
    Except UsageError Step :=
  match Switch.ofName? name, value with
  | none, _ => .error (.unknownOption word)
  | some (.flag flag), none => Step.ofRaise <$> draft.raise flag
  | some (.flag flag), some _ => .error (.unneededValue flag.name)
  | some (.setting setting), none => .ok (.awaitValue setting)
  | some (.setting setting), some value => Step.next <$> draft.set setting value

/-- Letters behind one dash: flags, up to a setting whose value is the rest. -/
def lettersStep (word : String) : Draft → List Char → Except UsageError Step
  | draft, [] => .ok (.next draft)
  | draft, letter :: rest =>
    match Switch.ofLetter? letter with
    | none => .error (.unknownOption word)
    | some (.flag flag) => do
      match ← draft.raise flag with
      | .inl draft => lettersStep word draft rest
      | .inr request => .ok (.done request)
    | some (.setting setting) =>
      match rest with
      | [] => .ok (.awaitValue setting)
      | '=' :: value => Step.next <$> draft.set setting (String.ofList value)
      | value => Step.next <$> draft.set setting (String.ofList value)

/-- Whether a word stands for itself and not for an option. -/
def isPlain (word : String) : Bool :=
  match word.toList with
  | '-' :: _ :: _ => false
  | _ => true

/-- One word in front of `--`. -/
def wordStep (draft : Draft) (word : String) : Except UsageError Step :=
  match word.toList with
  | '-' :: '-' :: body =>
    let name := String.ofList (body.takeWhile (· != '='))
    match body.dropWhile (· != '=') with
    | [] => longStep draft word name none
    | _ :: value => longStep draft word name (some (String.ofList value))
  | '-' :: letter :: rest => lettersStep word draft (letter :: rest)
  | _ => Step.next <$> draft.takePath word

/-- The words behind `--`, none of which is an option. -/
def finishPlain : Draft → List String → Except UsageError Request
  | draft, [] => draft.finish
  | draft, word :: words => do finishPlain (← draft.takePath word) words

/-- The words of a command line, with the setting whose value the next word has to be. -/
def readWords : Draft → (awaited : Option Setting) → List String → Except UsageError Request
  | draft, none, [] => draft.finish
  | _, some setting, [] => .error (.missingValue setting.name)
  | draft, some setting, word :: words =>
    if isPlain word then do readWords (← draft.set setting word) none words
    else .error (.missingValue setting.name)
  | draft, none, word :: words =>
    if word == "--" then finishPlain draft words
    else do
      match ← wordStep draft word with
      | .next draft => readWords draft none words
      | .awaitValue setting => readWords draft (some setting) words
      | .done request => return request

/-- **What a command line asks for.** -/
def Request.ofWords (words : List String) : Except UsageError Request :=
  readWords .blank none words

end FrameSchema.CommandLine
