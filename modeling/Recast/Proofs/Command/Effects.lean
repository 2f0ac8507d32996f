import Mathlib.Data.List.Induction
import Recast.Command.Answer
import Recast.Proofs.Files

/-!
# Proofs/Command/Effects — what commands do to the files

A command that fails may have made directories, and has written nothing. One that does not fail has
written the one file it was asked for, if any (`Run.isAtomic_afterAll`). So over any number of runs
a file changes only by runs that did not fail (`Run.exists_of_content?_ne`). This is said of any
tools that commands leave work to, and of any invocation, however its arguments were read.

There are two exceptions. Where the name of a language is no text, the output file is opened, and so
emptied, before the result turns out to be one that cannot be written (`Run.Empties`). And a file
with the initial settings is not overwritten without consent, but for one case. The user is asked if
the path leads to something, and the directories on the way are made after that; so where a path
goes back out of a directory that was missing (`new/../settings.yaml`), it leads to a file by then
that the user was not asked about (`Run.overwrites_unasked`).
-/

namespace Recast

/-! ## Runs -/

/-- A command that is run: the variables it finds, the lines its user answers with, and what its
arguments come to. -/
structure Run where
  env : Environment
  lines : List String
  invocation : Invocation

namespace Run

section Atomic

variable (tools : Command.Tools)

/-- What the run answers. -/
def answer (run : Run) (files : Files) : Answer :=
  run.invocation.answer tools { env := run.env, files } run.lines

/-- The run that arguments ask for. -/
def ofArguments (env : Environment) (lines args : List String) : Run where
  env
  lines
  invocation := .ofArguments args

/-- It answers what the program answers to the arguments. -/
theorem answer_ofArguments (env : Environment) (lines args : List String) (files : Files) :
    (ofArguments env lines args).answer tools files =
      Command.answerTo { env, files } lines args tools := rfl

/-- The files after the run. -/
def after (run : Run) (files : Files) : Files := files.apply (run.answer tools files).changes

/-- The files after some runs, one after another. -/
def afterAll (runs : List Run) (files : Files) : Files :=
  runs.foldl (fun files run => run.after tools files) files

/-- The result of recasting as a run is asked to, with the settings and the source that it finds,
between two languages whose names are texts. -/
def Recasts (run : Run) (files : Files) (order : Order) (outcome : Outcome) : Prop :=
  ∃ settings content text source target,
    Settings.load run.env files (order.settings.map Path.ofText) tools.toTools = .ok settings ∧
    files.place (Path.ofText order.path) = .ok (.file content) ∧
    Text.decode content = .ok text ∧
    order.source.text? = some source ∧ order.target.text? = some target ∧
    outcome = (({ options := settings.options } : Recaster).recast
      (String.ofList (Text.unifyReturns text)) (.id source) (.id target)).1

/-- The user has been asked whether the file at the path may be overwritten, and has consented. -/
def Consents (run : Run) (path : Path) : Prop :=
  (tools.confirm (Consent.overwriteQuestion path.toText) run.lines).2 = .given

/-- The run is to write its result to the file, though not as an object, and the name of a language
in it is no text. -/
def Empties (run : Run) (files : Files) (place : Path) : Prop :=
  ∃ order output, run.invocation = .call (.recast order) ∧ order.output = some output ∧
    order.asObject = false ∧ order.hasTextNames = false ∧
    files.locate (Path.ofText output) = .ok place

/-- **What a run may do to the files.** -/
structure IsAtomic (run : Run) (files : Files) : Prop where
  /-- A run that fails changes no file and adds none, but for an output file that is emptied because
  the name of a language is no text. -/
  failed : (run.answer tools files).exitCode ≠ 0 → ∀ path,
    (run.after tools files).content? path = files.content? path ∨
      run.Empties files path ∧ (run.after tools files).content? path = some []
  /-- A run that shows its result changes no file and adds none. -/
  shown : ∀ order, run.invocation = .call (.recast order) → order.output = none →
    ∀ path, (run.after tools files).content? path = files.content? path
  /-- A run that writes its result writes it to the file it was asked for, and to no other. -/
  written : ∀ order output, run.invocation = .call (.recast order) →
    order.output = some output → (run.answer tools files).exitCode = 0 →
    ∃ outcome place, run.Recasts tools files order outcome ∧
      files.locate (Path.ofText output) = .ok place ∧
      (run.after tools files).content? place = some (Text.encode
        (if order.asObject then tools.report outcome else outcome.code ++ "\n").toList) ∧
      ∀ path ≠ place, (run.after tools files).content? path = files.content? path
  /-- A run that writes initial settings writes them to the file it was asked for, and to no other.
  If the file was there, the user has consented, or the path led nowhere for a missing directory
  and goes back. -/
  initial : ∀ text, run.invocation = .call (.initSettings text) →
    (run.answer tools files).exitCode = 0 →
    ∃ place, (run.after tools files).locate (Path.ofText text) = .ok place ∧
      (run.after tools files).content? place =
        some (Text.encode (Settings.render tools.toTools).toList) ∧
      (∀ path ≠ place, (run.after tools files).content? path = files.content? path) ∧
      (files.content? place = none ∨
        files.holds (Path.ofText text) = true ∧ run.Consents tools (Path.ofText text) ∨
        files.locate (Path.ofText text) = .error .missing ∧ ".." ∈ (Path.ofText text).names)
  /-- No other command changes a file or adds one, nor does an invocation that calls none. -/
  other : (∀ order, run.invocation ≠ .call (.recast order)) →
    (∀ text, run.invocation ≠ .call (.initSettings text)) →
    ∀ path, (run.after tools files).content? path = files.content? path

end Atomic

end Run

/-! ## Names -/

theorem RawText.flatMap_shown_of_mapM {raw : RawText} {chars : List Char}
    (h : raw.mapM Glyph.char? = some chars) : raw.flatMap Glyph.shown = chars := by
  induction raw generalizing chars with
  | nil =>
    obtain rfl : [] = chars := by simpa using h
    rfl
  | cons glyph raw ih =>
    cases glyph with
    | stray byte => simp [Glyph.char?] at h
    | char c =>
      obtain ⟨rest, hrest, rfl⟩ : ∃ rest, raw.mapM Glyph.char? = some rest ∧ c :: rest = chars := by
        simpa [Glyph.char?, Option.bind_eq_some_iff] using h
      rw [List.flatMap_cons, ih hrest]
      rfl

/-- **What is a text** is shown as the text. -/
theorem RawText.shown_of_text? {raw : RawText} {text : String} (h : raw.text? = some text) :
    raw.shown = text := by
  obtain ⟨chars, hchars, rfl⟩ := Option.map_eq_some_iff.mp h
  rw [shown, flatMap_shown_of_mapM hchars]

theorem Order.exists_text?_of_hasTextNames {order : Order} (h : order.hasTextNames = true) :
    ∃ source target, order.source.text? = some source ∧ order.target.text? = some target := by
  rw [hasTextNames, Bool.and_eq_true] at h
  obtain ⟨source, hsource⟩ := Option.isSome_iff_exists.mp h.1
  obtain ⟨target, htarget⟩ := Option.isSome_iff_exists.mp h.2
  exact ⟨source, target, hsource, htarget⟩

/-! ## Answers -/

namespace Answer

theorem ofEffort_changes (effort : Effort) (shown logged : String) :
    (ofEffort effort shown logged).changes = effort.changes := by
  rw [ofEffort]
  cases effort.fault <;> rfl

theorem ofEffort_exitCode (effort : Effort) (shown logged : String) :
    (ofEffort effort shown logged).exitCode = if effort.fault.isSome then 1 else 0 := by
  rw [ofEffort]
  cases effort.fault <;> rfl

end Answer

namespace Command

variable (tools : Tools)

/-- What the user says to the question that a command asks, if it asks one. -/
def consentTo (found : Surroundings) (lines : List String) (command : Command) : Consent :=
  match command.question? found with
  | none => .given
  | some question => (tools.confirm question lines).2

theorem answer_changes (found : Surroundings) (lines : List String) (command : Command) :
    (command.answer tools found lines).changes =
      (command.answerWith tools found (command.consentTo tools found lines)).changes := by
  rw [answer, consentTo]
  cases command.question? found <;> rfl

theorem answer_exitCode (found : Surroundings) (lines : List String) (command : Command) :
    (command.answer tools found lines).exitCode =
      (command.answerWith tools found (command.consentTo tools found lines)).exitCode := by
  rw [answer, consentTo]
  cases command.question? found <;> rfl

/-- Writing a result fails, or is one change. -/
theorem written_cases (found : Surroundings) (order : Order) (outcome : Outcome)
    (logged path : String) :
    (written tools found order outcome logged path).exitCode = 1 ∧
        (written tools found order outcome logged path).changes = [] ∨
      ∃ place, found.files.locate (Path.ofText path) = .ok place ∧
        (written tools found order outcome logged path).exitCode = 0 ∧
        (written tools found order outcome logged path).changes =
          [.write place (Text.encode (outputText tools order outcome).toList)] := by
  rw [written, Answer.ofEffort_exitCode, Answer.ofEffort_changes]
  rcases found.files.write_cases (Path.ofText path)
    (Text.encode (outputText tools order outcome).toList)
    with ⟨fault, heffort⟩ | ⟨place, hlocate, -, heffort⟩
  · rw [heffort]
    exact .inl ⟨rfl, rfl⟩
  · rw [heffort]
    exact .inr ⟨place, hlocate, rfl, rfl⟩

/-- A result that cannot be written is a failure, and empties the file at most. -/
theorem emptied_cases (found : Surroundings) (logged path : String) :
    (emptied found logged path).exitCode = 1 ∧
      ((emptied found logged path).changes = [] ∨
        ∃ place, found.files.locate (Path.ofText path) = .ok place ∧
          (emptied found logged path).changes = [.write place []]) := by
  rw [emptied]
  rcases found.files.write_cases (Path.ofText path) [] with
    ⟨fault, heffort⟩ | ⟨place, hlocate, -, heffort⟩
  · rw [heffort]
    exact ⟨rfl, .inl rfl⟩
  · rw [heffort]
    exact ⟨rfl, .inr ⟨place, hlocate, rfl⟩⟩

/-- What recasting a file may come to. -/
inductive Recasting (run : Run) (files : Files) (order : Order) (answer : Answer) : Prop
  /-- No file is changed, and if one was to be written, the command has failed. -/
  | idle (hchanges : answer.changes = []) (hfailed : order.output.isSome → answer.exitCode ≠ 0)
  /-- The result is written to the file it was asked for. -/
  | written (outcome : Outcome) (output : String) (place : Path)
      (houtcome : run.Recasts tools files order outcome) (houtput : order.output = some output)
      (hlocate : files.locate (Path.ofText output) = .ok place) (hexit : answer.exitCode = 0)
      (hchanges : answer.changes =
        [.write place (Text.encode (outputText tools order outcome).toList)])
  /-- The file is emptied, and the command has failed over a name that is no text. -/
  | emptied (output : String) (place : Path) (houtput : order.output = some output)
      (hobject : order.asObject = false) (hnames : order.hasTextNames = false)
      (hlocate : files.locate (Path.ofText output) = .ok place) (hexit : answer.exitCode = 1)
      (hchanges : answer.changes = [.write place []])

theorem recasting_recastText {run : Run} {files : Files} {order : Order} {settings : Settings}
    {content : List UInt8} {text : List Char}
    (hsettings : Settings.load run.env files (order.settings.map Path.ofText) tools.toTools =
      .ok settings)
    (hplace : files.place (Path.ofText order.path) = .ok (.file content))
    (htext : Text.decode content = .ok text) :
    Recasting tools run files order
      (recastText tools { env := run.env, files } order settings text) := by
  rw [recastText]
  dsimp only
  by_cases hobject : (order.asObject && !order.hasTextNames) = true
  · rw [if_pos hobject]
    exact .idle rfl fun _ => Nat.one_ne_zero
  rw [if_neg hobject]
  cases houtput : order.output with
  | none =>
    refine .idle ?_ fun h => by simp [houtput] at h
    simp only [shown]
    split <;> rfl
  | some output =>
    dsimp only
    by_cases hnames : order.hasTextNames = true
    · rw [if_pos hnames]
      obtain ⟨source, target, hsource, htarget⟩ := Order.exists_text?_of_hasTextNames hnames
      rcases written_cases tools { env := run.env, files } order _ _ output with
        ⟨hexit, hchanges⟩ | ⟨place, hlocate, hexit, hchanges⟩
      · exact .idle hchanges fun _ => by rw [hexit]; exact Nat.one_ne_zero
      · refine .written _ output place ⟨settings, content, text, source, target, hsettings, hplace,
          htext, hsource, htarget, rfl⟩ houtput hlocate hexit ?_
        rw [hchanges, RawText.shown_of_text? hsource, RawText.shown_of_text? htarget]
    · have hplain : order.asObject = false := by
        simpa [hnames] using hobject
      rw [if_neg hnames]
      obtain ⟨hexit, hnil | ⟨place, hlocate, hchanges⟩⟩ :=
        emptied_cases { env := run.env, files } _ output
      · exact .idle hnil fun _ => by rw [hexit]; exact Nat.one_ne_zero
      · exact .emptied output place houtput hplain (Bool.eq_false_iff.mpr hnames) hlocate hexit
          hchanges

/-- **Recasting a file** changes nothing, or writes the result to the file it was asked for, or
empties the file and fails. -/
theorem recasting_answerRecast (run : Run) (files : Files) (order : Order) :
    Recasting tools run files order
      (answerRecast tools { env := run.env, files } order) := by
  rw [answerRecast]
  cases hsettings : Settings.load run.env files (order.settings.map Path.ofText) tools.toTools with
  | error error =>
    dsimp only
    split <;> exact .idle rfl fun _ => Nat.one_ne_zero
  | ok settings =>
    dsimp only
    split
    · exact .idle rfl fun _ => by decide
    · exact .idle rfl fun _ => by decide
    · exact .idle rfl fun _ => Nat.one_ne_zero
    next content hplace =>
      cases htext : Text.decode content with
      | error fault => exact .idle rfl fun _ => Nat.one_ne_zero
      | ok text => exact recasting_recastText tools hsettings hplace htext

/-- **Writing the initial settings** ends with a fault and at most some directories made, or makes
directories and writes the one file. -/
theorem initEffort_cases (tools : Settings.Tools) (files : Files) (path : Path) :
    (initEffort files path tools).fault.isSome ∧
        WritesNothing (initEffort files path tools).changes ∨
      ∃ directories place, WritesNothing directories ∧
        (files.apply directories).locate path = .ok place ∧
        (files.apply directories).standing place ≠ .directory ∧
        initEffort files path tools = { changes := directories ++
          [.write place (Text.encode (Settings.render tools).toList)] } := by
  have hmaking := files.writesNothing_makeDirectories path.parent
  rw [initEffort]
  cases hfault : (files.makeDirectories path.parent).fault with
  | some fault =>
    rw [Files.andThen_of_fault _ (by rw [hfault]; rfl)]
    exact .inl ⟨by rw [hfault]; rfl, hmaking⟩
  | none =>
    rw [Files.andThen_of_no_fault _ hfault]
    rcases (files.apply (files.makeDirectories path.parent).changes).write_cases path
      (Text.encode (Settings.render tools).toList) with
      ⟨fault, hwrite⟩ | ⟨place, hplace, hfree, hwrite⟩
    · rw [hwrite]
      refine .inl ⟨rfl, ?_⟩
      simpa using hmaking
    · rw [hwrite]
      exact .inr ⟨_, place, hmaking, hplace, hfree, rfl⟩

/-- **Answering the request for initial settings** fails and writes no file, or writes the one file;
then the path led to nothing or the user has consented. -/
theorem answerInit_cases (found : Surroundings) (text : String) (consent : Consent) :
    (answerInit tools found text consent).exitCode ≠ 0 ∧
        WritesNothing (answerInit tools found text consent).changes ∨
      ∃ directories place, WritesNothing directories ∧
        (found.files.apply directories).locate (Path.ofText text) = .ok place ∧
        (found.files.apply directories).standing place ≠ .directory ∧
        (found.files.holds (Path.ofText text) = true → consent = .given) ∧
        (answerInit tools found text consent).exitCode = 0 ∧
        (answerInit tools found text consent).changes =
          directories ++ [.write place (Text.encode (Settings.render tools.toTools).toList)] := by
  rw [answerInit]
  by_cases hrefused : (found.files.holds (Path.ofText text) && consent = .refused) = true
  · rw [if_pos hrefused]
    exact .inl ⟨Nat.one_ne_zero, by simp⟩
  · rw [if_neg hrefused, Answer.ofEffort_exitCode, Answer.ofEffort_changes]
    rcases initEffort_cases tools.toTools found.files (Path.ofText text) with
      ⟨hfault, hmaking⟩ | ⟨directories, place, hmaking, hlocate, hfree, heffort⟩
    · rw [if_pos hfault]
      exact .inl ⟨Nat.one_ne_zero, hmaking⟩
    · rw [heffort]
      refine .inr ⟨directories, place, hmaking, hlocate, hfree, fun hholds => ?_, rfl, rfl⟩
      cases consent with
      | given => rfl
      | refused => exact absurd (by rw [hholds]; rfl) hrefused

end Command

namespace Run

variable {tools : Command.Tools} {run : Run} {files : Files} {command : Command} {order : Order}
  {path : Path}

theorem answer_of_call (h : run.invocation = .call command) :
    run.answer tools files = command.answer tools { env := run.env, files } run.lines := by
  rw [answer, h]
  rfl

theorem writesNothing_of_nil {changes : List Change} (h : changes = []) : WritesNothing changes :=
  h ▸ List.forall_mem_nil _

/-- A run that does not write a file leaves every file as it is. -/
theorem content?_after_of_writesNothing (h : WritesNothing (run.answer tools files).changes)
    (path : Path) : (run.after tools files).content? path = files.content? path :=
  Files.content?_apply_of_forall_ne fun change hmem heq => by
    rw [h change hmem] at heq
    cases heq

/-- Changes of which the last writes a file, and the others write none. -/
theorem content?_after_of_snoc {directories : List Change} {place : Path} {content : List UInt8}
    (hmaking : WritesNothing directories)
    (h : (run.answer tools files).changes = directories ++ [.write place content]) :
    (run.after tools files).content? place = some content ∧
      ∀ path ≠ place, (run.after tools files).content? path = files.content? path := by
  rw [after, h]
  refine ⟨Files.content?_apply_snoc_write files directories place content, fun path hne => ?_⟩
  refine Files.content?_apply_of_forall_ne fun change hmem heq => ?_
  rcases List.mem_append.mp hmem with hdirectory | hwrite
  · rw [hmaking change hdirectory] at heq
    cases heq
  · obtain rfl := List.mem_singleton.mp hwrite
    exact hne (Option.some.inj heq).symm

/-- Of an answer it is the exit code and the changes that say whether a file was recast. -/
theorem recasting_of_eq {run : Run} {files : Files} {order : Order} {answer other : Answer}
    (hexit : answer.exitCode = other.exitCode) (hchanges : answer.changes = other.changes)
    (h : Command.Recasting tools run files order other) :
    Command.Recasting tools run files order answer := by
  cases h with
  | idle hnil hfailed => exact .idle (hchanges.trans hnil) fun hsome => hexit ▸ hfailed hsome
  | written outcome output place houtcome houtput hlocate hzero hwrite =>
    exact .written outcome output place houtcome houtput hlocate (hexit.trans hzero)
      (hchanges.trans hwrite)
  | emptied output place houtput hobject hnames hlocate hone hwrite =>
    exact .emptied output place houtput hobject hnames hlocate (hexit.trans hone)
      (hchanges.trans hwrite)

theorem recasting_answer (files : Files) (h : run.invocation = .call (.recast order)) :
    Command.Recasting tools run files order (run.answer tools files) := by
  rw [answer_of_call h]
  exact recasting_of_eq (Command.answer_exitCode tools _ _ _) (Command.answer_changes tools _ _ _)
    (Command.recasting_answerRecast tools run files order)

theorem init_cases (files : Files) {text : String}
    (h : run.invocation = .call (.initSettings text)) :
    (run.answer tools files).exitCode ≠ 0 ∧
        WritesNothing (run.answer tools files).changes ∨
      ∃ directories place, WritesNothing directories ∧
        (files.apply directories).locate (Path.ofText text) = .ok place ∧
        (files.apply directories).standing place ≠ .directory ∧
        (files.holds (Path.ofText text) = true → run.Consents tools (Path.ofText text)) ∧
        (run.answer tools files).exitCode = 0 ∧ (run.answer tools files).changes =
          directories ++ [.write place (Text.encode (Settings.render tools.toTools).toList)] := by
  have hcases := Command.answerInit_cases tools { env := run.env, files } text
    (Command.consentTo tools { env := run.env, files } run.lines (.initSettings text))
  rw [answer_of_call h, Command.answer_changes, Command.answer_exitCode]
  refine hcases.imp_right ?_
  rintro ⟨directories, place, hmaking, hlocate, hfree, hconsent, hexit, hchanges⟩
  refine ⟨directories, place, hmaking, hlocate, hfree, fun hholds => ?_, hexit, hchanges⟩
  have hgiven := hconsent hholds
  rw [Command.consentTo, Command.question?] at hgiven
  simp only [hholds, if_true] at hgiven
  exact hgiven

/-- A run that is neither asked for a recast file nor for initial settings changes nothing. -/
theorem changes_eq_nil (tools : Command.Tools) (files : Files)
    (hrecast : ∀ order, run.invocation ≠ .call (.recast order))
    (hinit : ∀ text, run.invocation ≠ .call (.initSettings text)) :
    (run.answer tools files).changes = [] := by
  cases hinvocation : run.invocation with
  | ended exitCode =>
    rw [answer, hinvocation]
    rfl
  | call command =>
    rw [answer_of_call hinvocation, Command.answer_changes]
    cases command with
    | recast order => exact absurd hinvocation (hrecast order)
    | initSettings text => exact absurd hinvocation (hinit text)
    | languages | pairs | version => rfl

/-- **What any run may do to the files**, whatever files it finds. -/
theorem isAtomic (tools : Command.Tools) (run : Run) (files : Files) :
    run.IsAtomic tools files where
  failed hfailed path := by
    by_cases hrecast : ∃ order, run.invocation = .call (.recast order)
    · obtain ⟨order, hcall⟩ := hrecast
      cases recasting_answer files hcall with
      | idle hnil _ => exact .inl (content?_after_of_writesNothing (writesNothing_of_nil hnil) path)
      | written _ _ _ _ _ _ hexit _ => exact absurd hexit hfailed
      | emptied output place houtput hobject hnames hlocate _ hchanges =>
        -- the one change writes nothing into the file that was opened
        obtain ⟨hempty, hothers⟩ := content?_after_of_snoc (List.forall_mem_nil _) hchanges
        by_cases heq : path = place
        · exact .inr ⟨⟨order, output, hcall, houtput, hobject, hnames, heq ▸ hlocate⟩,
            heq ▸ hempty⟩
        · exact .inl (hothers path heq)
    by_cases hinit : ∃ text, run.invocation = .call (.initSettings text)
    · obtain ⟨text, hcall⟩ := hinit
      rcases init_cases files hcall with ⟨-, hmaking⟩ | ⟨_, _, -, -, -, -, hexit, -⟩
      · exact .inl (content?_after_of_writesNothing hmaking path)
      · exact absurd hexit hfailed
    · have hnil := changes_eq_nil tools files (not_exists.mp hrecast) (not_exists.mp hinit)
      exact .inl (content?_after_of_writesNothing (writesNothing_of_nil hnil) path)
  shown order hcall hshown path := by
    cases recasting_answer files hcall with
    | idle hnil _ => exact content?_after_of_writesNothing (writesNothing_of_nil hnil) path
    | written _ _ _ _ houtput => cases hshown.symm.trans houtput
    | emptied _ _ houtput => cases hshown.symm.trans houtput
  written order output hcall houtput hexit := by
    cases recasting_answer files hcall with
    | idle _ hfailed => exact absurd hexit (hfailed (by rw [houtput]; rfl))
    | written outcome _ place houtcome hsome hlocate _ hchanges =>
      obtain rfl := Option.some.inj (houtput.symm.trans hsome)
      exact ⟨outcome, place, houtcome, hlocate,
        content?_after_of_snoc (List.forall_mem_nil _) hchanges⟩
    | emptied _ _ _ _ _ _ hone => cases hexit.symm.trans hone
  initial text hcall hexit := by
    rcases init_cases files hcall with
      ⟨hfailed, -⟩ | ⟨directories, place, hmaking, hlocate, hfree, hconsent, -, hchanges⟩
    · exact absurd hexit hfailed
    · obtain ⟨hplace, hothers⟩ := content?_after_of_snoc hmaking hchanges
      have hafter : run.after tools files = (files.apply directories).change
          (.write place (Text.encode (Settings.render tools.toTools).toList)) := by
        rw [after, hchanges, Files.apply_snoc]
      refine ⟨place, ?_, hplace, hothers, ?_⟩
      · rw [hafter]
        exact Files.locate_change_write hlocate hfree
      · cases hcontent : files.content? place with
        | none => exact .inl rfl
        | some content =>
          have hextends : Files.Extends files (files.apply directories) :=
            Files.extends_apply hmaking
          -- the file was there, so the path led to it before, or a directory was missing on the way
          refine .inr ((hextends.holds_or_goes_back hlocate (by rw [hcontent]; rfl)).imp_left ?_)
          exact fun hholds => ⟨hholds, hconsent hholds⟩
  other hrecast hinit path :=
    content?_after_of_writesNothing
      (writesNothing_of_nil (changes_eq_nil tools files hrecast hinit)) path

/-! ## Runs one after another -/

theorem afterAll_snoc (runs : List Run) (run : Run) (files : Files) :
    afterAll tools (runs ++ [run]) files = run.after tools (afterAll tools runs files) := by
  rw [afterAll, List.foldl_append]
  rfl

/-- **What a run may do to the files** that the runs before it have left. -/
theorem isAtomic_afterAll (tools : Command.Tools) (files : Files) (before : List Run) (run : Run) :
    run.IsAtomic tools (afterAll tools before files) :=
  isAtomic tools run (afterAll tools before files)

/-- **A file that some runs have changed** holds what the last one of them left that changed it, and
that one did not fail, or has emptied the file. -/
theorem exists_of_content?_ne {runs : List Run}
    (h : (afterAll tools runs files).content? path ≠ files.content? path) :
    ∃ before run later, runs = before ++ run :: later ∧
      ((run.answer tools (afterAll tools before files)).exitCode = 0 ∨
        run.Empties (afterAll tools before files) path) ∧
      (run.after tools (afterAll tools before files)).content? path =
        (afterAll tools runs files).content? path ∧
      (afterAll tools before files).content? path ≠ (afterAll tools runs files).content? path := by
  induction runs using List.reverseRecOn with
  | nil => exact absurd rfl h
  | append_singleton runs run ih =>
    rw [afterAll_snoc] at h ⊢
    by_cases hlast : (run.after tools (afterAll tools runs files)).content? path =
        (afterAll tools runs files).content? path
    · -- the last run left the file alone
      rw [hlast] at h ⊢
      obtain ⟨before, changing, later, rfl, hexit, hsame, hchanged⟩ := ih h
      exact ⟨before, changing, later ++ [run], by simp, hexit, hsame, hchanged⟩
    · refine ⟨runs, run, [], rfl, or_iff_not_imp_left.mpr fun hfailed => ?_, rfl, Ne.symm hlast⟩
      exact (((isAtomic tools run _).failed hfailed path).resolve_left hlast).1

/-! ## Two surprises -/

/-- A file of the user's. -/
def ownFile : Files := { contents := [({ names := ["x.yaml"] }, [0x6f, 0x6c, 0x64])] }

/-- The request for initial settings at a path that goes back out of a missing directory. -/
def roundabout : Run := ofArguments [] [] ["init-config", "new/../x.yaml"]

/-- **The user is not asked**, and the file is overwritten. -/
theorem overwrites_unasked : (roundabout.answer {} ownFile).exitCode = 0 ∧
    ownFile.content? { names := ["x.yaml"] } = some [0x6f, 0x6c, 0x64] ∧
    (roundabout.after {} ownFile).content? { names := ["x.yaml"] } =
      some (Text.encode (Settings.render {}).toList) ∧
    (Command.initSettings "new/../x.yaml").question? { env := [], files := ownFile } = none := by
  decide +kernel

/-- The request to recast a file between two languages, of which one has a name that is no text. -/
def nameless : Run :=
  { env := [], lines := []
    invocation := .call (.recast
      { path := "x.yaml", source := [.stray 0xFF], target := .ofText "dart"
        output := some "x.yaml" }) }

/-- The run fails, and the file is empty. -/
example : (nameless.answer {} ownFile).exitCode = 1 ∧
    (nameless.after {} ownFile).content? { names := ["x.yaml"] } = some [] := by
  decide

end Run

end Recast
