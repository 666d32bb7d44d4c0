import FrameSchema.CommandLine.Outcome
import FrameSchema.Proofs.Bindings.DefaultLiterals
import FrameSchema.Proofs.Bindings.Labels
import FrameSchema.Proofs.Files

/-!
# Proofs/CommandLine/Modes — looking at a schema, printing its source and writing it agree

A run looks at the schema only, prints the source that is generated for it, or writes it to a file.
In all of these the schema is loaded first, and what is loaded always has a source
(`Bindings.sourceOf_eq`), so nothing but a missing schema, or a file that cannot be written, makes a
run fail.
-/

namespace FrameSchema.CommandLine

/-! ## Runs in a tree of files -/

/-- A run in a tree: how it ends, and the tree it leaves. -/
def runIn (words : List String) (tree : FileTree) : Outcome × FileTree :=
  (run words : StateM FileTree Outcome) tree

/-- The words ask for a job. -/
def Asks (words : List String) (job : Job) : Prop := Request.ofWords words = .ok (.run job)

/-- The schema that a file of a tree describes. -/
def loadIn (tree : FileTree) (path : String) : Except LoadError Schema :=
  match tree.readText path with
  | .ok text => Schema.ofText text
  | .error fault => .error (.file fault)

/-- A step that is known is taken. -/
theorem bind_of_eq {σ α β : Type} {x : StateM σ α} {f : α → StateM σ β} {s s' : σ} {a : α}
    (h : x s = (a, s')) : (x >>= f) s = f a s' := by
  change f (x s).1 (x s).2 = f a s'
  rw [h]

theorem ofFile_eq (tree : FileTree) (path : String) :
    (Schema.ofFile path : StateM FileTree _) tree = (loadIn tree path, tree) := by
  have hread : (Files.readText path : StateM FileTree _) tree = (tree.readText path, tree) := rfl
  refine (bind_of_eq hread).trans ?_
  rw [loadIn]
  cases tree.readText path <;> rfl

theorem writeText_eq {tree tree' : FileTree} {path text : String}
    (h : tree.writeText path text = .ok tree') :
    (Files.writeText path text : StateM FileTree _) tree = (.ok (), tree') := by
  have hget : (get : StateM FileTree FileTree) tree = (tree, tree) := rfl
  refine (bind_of_eq hget).trans ?_
  rw [h]
  rfl

/-- The source that is generated for a schema. -/
def source (schema : Schema) (options : Bindings.Options) : String :=
  (schema.bindings options).render

section Runs

variable {tree : FileTree} {words : List String} {job : Job} (hwords : Asks words job)
include hwords

/-- A run that was asked for loads its schema first, and fails with it. -/
theorem runIn_of_loadIn : runIn words tree =
    match loadIn tree job.schemaPath with
    | .ok schema => (job.runOn schema : StateM FileTree _) tree
    | .error cause => (.failed ⟨s!"loading schema {job.schemaPath}", cause⟩, tree) := by
  have hrun : runIn words tree = (job.run : StateM FileTree _) tree := by
    rw [runIn, run, hwords]
  refine hrun.trans ((bind_of_eq (ofFile_eq tree job.schemaPath)).trans ?_)
  cases loadIn tree job.schemaPath <;> rfl

/-- Without a schema a run fails, whatever it is to do. -/
theorem runIn_of_error {cause : LoadError} (hload : loadIn tree job.schemaPath = .error cause) :
    (runIn words tree).1.code = 1 ∧ (runIn words tree).1.stdout = "" ∧
      (runIn words tree).2 = tree := by
  rw [runIn_of_loadIn hwords, hload]
  exact ⟨rfl, rfl, rfl⟩

variable {schema : Schema} (hload : loadIn tree job.schemaPath = .ok schema)
include hload

/-- A check tells what the schema holds, and leaves the files alone. -/
theorem runIn_check (hcheck : job.check = true) :
    runIn words tree = (.success (summary job.schemaPath schema), tree) := by
  rw [runIn_of_loadIn hwords, hload]
  dsimp only
  rw [Job.runOn, if_pos hcheck]
  rfl

/-- A schema that is loaded has a source. -/
theorem runIn_print (hcheck : job.check = false) (houtput : job.output = none) :
    runIn words tree = (.success (source schema job.options), tree) := by
  rw [runIn_of_loadIn hwords, hload]
  dsimp only
  rw [Job.runOn, hcheck, houtput, Bindings.sourceOf_eq]
  rfl

/-- Writing says nothing, and leaves the tree with the text in it. -/
theorem runIn_write {path : String} {tree' : FileTree} (hcheck : job.check = false)
    (houtput : job.output = some path)
    (hwrite : tree.writeText path (source schema job.options) = .ok tree') :
    runIn words tree = (.success "", tree') := by
  have hsource : (writeSource schema job.options path : StateM FileTree _) tree =
      (.ok (), tree') := by
    rw [writeSource, Bindings.sourceOf_eq]
    exact (bind_of_eq (writeText_eq hwrite)).trans rfl
  rw [runIn_of_loadIn hwords, hload]
  dsimp only
  rw [Job.runOn, hcheck, houtput]
  exact (bind_of_eq hsource).trans rfl

omit hload in
/-- **What does not write fails only for want of a schema.** -/
theorem code_eq_zero_iff {text : String} (htext : tree.readText job.schemaPath = .ok text)
    (hmode : job.check = true ∨ job.output = none) :
    (runIn words tree).1.code = 0 ↔ ∃ schema, Schema.ofText text = .ok schema := by
  have hload : loadIn tree job.schemaPath = Schema.ofText text := by
    rw [loadIn, htext]
  cases hschema : Schema.ofText text with
  | error cause =>
    rw [(runIn_of_error hwords (hload.trans hschema)).1]
    simp
  | ok schema =>
    refine iff_of_true ?_ ⟨schema, rfl⟩
    cases hcheck : job.check with
    | true =>
      rw [runIn_check hwords (hload.trans hschema) hcheck]
      rfl
    | false =>
      have houtput : job.output = none := hmode.resolve_left (by simp [hcheck])
      rw [runIn_print hwords (hload.trans hschema) hcheck houtput]
      rfl

end Runs

/-! ## Asking for a run -/

/-- What runs of all modes are told alike. -/
structure Setup where
  schemaPath : String
  runtimePath : String
  noConstants : Bool

namespace Setup

/-- The options with which the source is generated. -/
def options (setup : Setup) : Bindings.Options :=
  { runtimePath := setup.runtimePath, emitConstants := !setup.noConstants }

/-- The job of a mode: to check the schema, to write the source to a file, or to print it. -/
def job (setup : Setup) (output : Option String) (check : Bool) : Job where
  schemaPath := setup.schemaPath
  output := output
  options := setup.options
  check := check

/-- Words that ask for a mode. -/
def words (setup : Setup) (output : Option String) (check : Bool) : List String :=
  (if check then ["--check"] else []) ++ (if setup.noConstants then ["--no-constants"] else []) ++
    (output.toList.map fun path => "--output=" ++ path) ++
    ["--runtime-path=" ++ setup.runtimePath, "--", setup.schemaPath]

end Setup

/-- A word that stands alone is read, and then those behind it. -/
theorem readWords_cons {draft draft' : Draft} {word : String} (hword : word ≠ "--")
    (hstep : wordStep draft word = .ok (.next draft')) (words : List String) :
    readWords draft none (word :: words) = readWords draft' none words := by
  rw [readWords, if_neg (mt eq_of_beq hword), hstep]
  rfl

/-- A switch that is given is read, and one that is not leaves the draft as it is. -/
theorem readWords_switch (drafts : Bool → Draft) {word : String} (hword : word ≠ "--")
    (hstep : wordStep (drafts false) word = .ok (.next (drafts true))) (given : Bool)
    (words : List String) : readWords (drafts false) none ((if given then [word] else []) ++ words)
      = readWords (drafts given) none words := by
  cases given with
  | false => rfl
  | true => exact readWords_cons hword hstep words

/-- A long option with a value behind its name. -/
theorem wordStep_setting {draft draft' : Draft} {word name value : String} {setting : Setting}
    (hword : word.toList = '-' :: '-' :: (name.toList ++ '=' :: value.toList))
    (hname : Switch.ofName? name = some (.setting setting)) (hequals : '=' ∉ name.toList)
    (hset : draft.set setting value = .ok draft') : wordStep draft word = .ok (.next draft') := by
  have hall : ∀ c ∈ name.toList, (c != '=') = true := fun c hc =>
    bne_iff_ne.2 fun heq => hequals (heq ▸ hc)
  have htake : (name.toList ++ '=' :: value.toList).takeWhile (· != '=') = name.toList := by
    rw [List.takeWhile_append_of_pos hall]
    exact List.append_nil name.toList
  have hdrop : (name.toList ++ '=' :: value.toList).dropWhile (· != '=') = '=' :: value.toList := by
    rw [List.dropWhile_append_of_pos hall]
    rfl
  unfold wordStep longStep
  simp only [hword, htake, hdrop, String.ofList_toList, hname, hset]
  rfl

/-- A setting that has its value behind a sign of equality is read as a whole. -/
theorem readWords_setting {draft draft' : Draft} {word name value : String} {setting : Setting}
    (hword : word.toList = '-' :: '-' :: (name.toList ++ '=' :: value.toList))
    (hname : Switch.ofName? name = some (.setting setting)) (hequals : '=' ∉ name.toList)
    (hset : draft.set setting value = .ok draft') (words : List String) :
    readWords draft none (word :: words) = readWords draft' none words := by
  refine readWords_cons ?_ (wordStep_setting hword hname hequals hset) words
  rintro rfl
  simp at hword

theorem finishPlain_singleton {draft : Draft} {path : String} (h : path ≠ "")
    (hnone : draft.schemaPath = none) :
    finishPlain draft [path] = Draft.finish { draft with schemaPath := some path } := by
  have htake : draft.takePath path = .ok { draft with schemaPath := some path } := by
    unfold Draft.takePath
    simp [hnone, h]
  rw [finishPlain, htake]
  rfl

/-- **Every mode can be asked for**, with any path of the runtime. -/
theorem Setup.asks_words (setup : Setup) {output : Option String} {check : Bool}
    (hpath : setup.schemaPath ≠ "") (houtput : output ≠ some "") :
    Asks (setup.words output check) (setup.job output check) := by
  obtain ⟨schemaPath, runtimePath, noConstants⟩ := setup
  -- The words are read one after another, and each fills its own part of the draft.
  have hcheck : ∀ words, readWords .blank none ((if check then ["--check"] else []) ++ words) =
      readWords { Draft.blank with check } none words :=
    readWords_switch (fun check => { Draft.blank with check }) (by decide) rfl check
  have hconstants : ∀ words, readWords { Draft.blank with check } none
      ((if noConstants then ["--no-constants"] else []) ++ words) =
      readWords { Draft.blank with check, noConstants } none words :=
    readWords_switch (fun noConstants => { Draft.blank with check, noConstants }) (by decide) rfl
      noConstants
  have hfile : ∀ words, readWords { Draft.blank with check, noConstants } none
      ((output.toList.map fun path => "--output=" ++ path) ++ words) =
      readWords { Draft.blank with check, noConstants, output } none words := by
    intro words
    cases output with
    | none => rfl
    | some path =>
      have hne : path ≠ "" := fun h => houtput (congrArg some h)
      have hword : ("--output=" ++ path).toList =
          '-' :: '-' :: ("output".toList ++ '=' :: path.toList) := String.toList_append
      refine readWords_setting hword rfl (by decide) ?_ words
      unfold Draft.set
      simp [hne, Draft.blank]
  have hruntime : ∀ words, readWords { Draft.blank with check, noConstants, output } none
      (("--runtime-path=" ++ runtimePath) :: words) =
      readWords { Draft.blank with check, noConstants, output, runtimePath := some runtimePath }
        none words := by
    have hword : ("--runtime-path=" ++ runtimePath).toList =
        '-' :: '-' :: ("runtime-path".toList ++ '=' :: runtimePath.toList) := String.toList_append
    exact readWords_setting hword rfl (by decide) rfl
  rw [Asks, Request.ofWords, Setup.words, List.append_assoc, List.append_assoc, hcheck, hconstants,
    hfile, hruntime]
  exact finishPlain_singleton hpath rfl

/-! ## The modes side by side -/

/-- The summary is one line: behind its path it breaks only at its end. -/
theorem exists_line_summary (path : String) (schema : Schema) :
    ∃ line, summary path schema = line ++ "\n" ∧ Text.lineBreaks line = Text.lineBreaks path := by
  refine ⟨path ++ ": " ++ toString schema.classes.length ++ " classes, " ++
    toString schema.methodCount ++ " methods, " ++ toString schema.domains.length ++ " domains, " ++
    toString schema.constants.length ++ " constants", ?_, ?_⟩
  · simp only [summary, String.append_assoc]
    rfl
  · have hwords : ∀ text ∈ [": ", " classes, ", " methods, ", " domains, ", " constants"],
        Text.lineBreaks text = [] := by decide
    simp only [List.forall_mem_cons] at hwords
    simp only [Text.lineBreaks_append, Bindings.lineBreaks_toString_nat, hwords, List.append_nil]

/-- **What the modes have in common** in a tree of files, whichever words ask for them. -/
structure ModesAgree (setup : Setup) (tree : FileTree) : Prop where
  /-- Each mode can be asked for. -/
  asked : ∀ output check, setup.schemaPath ≠ "" → output ≠ some "" →
    ∃ words, Asks words (setup.job output check)
  /-- What checks, and what prints, succeeds exactly if the text of the schema is accepted. -/
  accepted : ∀ text, tree.readText setup.schemaPath = .ok text → ∀ words output check,
    Asks words (setup.job output check) → check = true ∨ output = none →
      ((runIn words tree).1.code = 0 ↔ ∃ schema, Schema.ofText text = .ok schema)
  /-- A check prints the summary and changes nothing, even where an output is given. -/
  checked : ∀ schema, loadIn tree setup.schemaPath = .ok schema → ∀ words output,
    Asks words (setup.job output true) →
      runIn words tree = (.success (summary setup.schemaPath schema), tree)
  /-- The summary is one line, behind a path that may be of several. -/
  oneLine : ∀ schema, ∃ line, summary setup.schemaPath schema = line ++ "\n" ∧
    Text.lineBreaks line = Text.lineBreaks setup.schemaPath
  /-- Without an output the source is printed, and nothing changes. -/
  printed : ∀ schema, loadIn tree setup.schemaPath = .ok schema → ∀ words,
    Asks words (setup.job none false) →
      runIn words tree = (.success (source schema setup.options), tree)
  /-- A writable output takes the same source, and nothing is printed. -/
  written : ∀ schema, loadIn tree setup.schemaPath = .ok schema → ∀ words path,
    Asks words (setup.job (some path) false) → tree.Writable path →
      ∃ tree', runIn words tree = (.success "", tree') ∧
        tree.Written path (source schema setup.options) tree'
  /-- Without a schema every mode fails, prints nothing and changes nothing. -/
  failed : ∀ cause, loadIn tree setup.schemaPath = .error cause → ∀ words output check,
    Asks words (setup.job output check) → (runIn words tree).1.code = 1 ∧
      (runIn words tree).1.stdout = "" ∧ (runIn words tree).2 = tree

/-- **The modes agree.**  Each can be asked for.  A run that checks, and one that prints, ends with
code 0 exactly if the text of the schema is accepted.  Then checking prints one line, even where an
output is given, and writing puts into the file what printing prints, whatever the file held before;
nothing else is changed.  If no schema is loaded, a run of any mode ends with code 1, prints nothing
and changes nothing. -/
theorem modes_agree (setup : Setup) (tree : FileTree) : ModesAgree setup tree where
  asked _ _ hpath houtput := ⟨_, setup.asks_words hpath houtput⟩
  accepted _ htext _ _ _ hwords hmode := code_eq_zero_iff hwords htext hmode
  checked _ hload _ _ hwords := runIn_check hwords hload rfl
  oneLine := exists_line_summary setup.schemaPath
  printed _ hload _ hwords := runIn_print hwords hload rfl rfl
  written schema hload words path hwords hwritable := by
    obtain ⟨tree', hwrite, hwritten⟩ := hwritable.exists_written (source schema setup.options)
    exact ⟨tree', runIn_write hwords hload rfl rfl hwrite, hwritten⟩
  failed _ hload _ _ _ hwords := runIn_of_error hwords hload

/-- The text of a schema of one constant. -/
def frameEndText : String :=
  "\x7b\"constants\": [\x7b\"name\": \"frame-end\", \"value\": 206\x7d]\x7d"

/-- A folder with that schema and a longer file. -/
def frameEndTree : FileTree := FileTree.ofHome ["home"] [
  ("schema.json", .file (Octets.ofText frameEndText)),
  ("out.rs", .file (List.replicate 5000 0))]

/-- The three modes on that schema, and a run where there is none. -/
theorem modes_on_frameEnd :
    let setup : Setup := ⟨"schema.json", "amqp_codegen::wire", false⟩
    ∃ schema tree', loadIn frameEndTree "schema.json" = .ok schema ∧
      runIn (setup.words (some "out.rs") true) frameEndTree =
        (.success "schema.json: 0 classes, 0 methods, 0 domains, 1 constants\n", frameEndTree) ∧
      (runIn (setup.words none false) frameEndTree).1.code = 0 ∧
      runIn (setup.words none false) frameEndTree =
        (.success (source schema setup.options), frameEndTree) ∧
      runIn (setup.words (some "out.rs") false) frameEndTree = (.success "", tree') ∧
      frameEndTree.Written "out.rs" (source schema setup.options) tree' ∧
      (runIn (setup.words (some "out.rs") false) (FileTree.ofHome [] [])).1.code = 1 := by
  intro setup
  have hwritable : frameEndTree.Writable "out.rs" :=
    ⟨["home", "out.rs"], toOption_eq_some_iff.1 (by decide +kernel), by decide +kernel,
      by decide +kernel⟩
  have htext : frameEndTree.readText "schema.json" = .ok frameEndText :=
    toOption_eq_some_iff.1 (by decide +kernel)
  have hmodel : (loadIn frameEndTree "schema.json").toOption.map (·.toModel) =
      some ⟨[], [], [⟨"frame-end", 206, none⟩]⟩ := by decide +kernel
  obtain ⟨⟨model, hchecked⟩, hload, rfl⟩ := Option.map_eq_some_iff.1 hmodel
  rw [toOption_eq_some_iff] at hload
  have hschema : ∃ schema, Schema.ofText frameEndText = .ok schema := by
    rw [loadIn, htext] at hload
    exact ⟨_, hload⟩
  have hfile : loadIn (FileTree.ofHome [] []) "schema.json" = .error (.file .notFound) := rfl
  have hasks : ∀ output check, output ≠ some "" →
      Asks (setup.words output check) (setup.job output check) := fun _ _ houtput =>
    setup.asks_words (by decide) houtput
  have hmodes : ModesAgree setup frameEndTree := modes_agree setup frameEndTree
  have hempty : ModesAgree setup (FileTree.ofHome [] []) := modes_agree setup _
  have hsummary : summary "schema.json" ⟨_, hchecked⟩ =
      "schema.json: 0 classes, 0 methods, 0 domains, 1 constants\n" := by
    dsimp only [summary]
    decide +kernel
  have hcheck := hmodes.checked _ hload _ _ (hasks (some "out.rs") true (by decide))
  obtain ⟨tree', hrun, hwritten⟩ :=
    hmodes.written _ hload _ "out.rs" (hasks _ _ (by decide)) hwritable
  refine ⟨_, tree', hload, hsummary ▸ hcheck, ?_,
    hmodes.printed _ hload _ (hasks none false (by decide)), hrun, hwritten, ?_⟩
  · exact (hmodes.accepted _ htext _ _ _ (hasks none false (by decide)) (.inr rfl)).2 hschema
  · exact (hempty.failed _ hfile _ _ _ (hasks (some "out.rs") false (by decide))).1

end FrameSchema.CommandLine
