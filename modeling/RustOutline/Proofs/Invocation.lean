import RustOutline.Command.Run
import RustOutline.Proofs.CheckedSettings
import RustOutline.Proofs.NormalPaths

/-! Calls of the `parse` command: what their arguments say, in any order and spelling, and what the
program makes of them. -/
namespace RustOutline

namespace Files

theorem find_ne_file_of_follow {files : Files} {path : String} {bytes : Utf8.Bytes}
    (h : files.follow (files.base (Path.ofText path)) (Path.ofText path).parts = .folder) :
    files.find path ≠ .file bytes := by
  unfold find
  split
  · nofun
  split
  · nofun
  simp only [h]
  nofun

theorem follow_of_find_eq_folder {files : Files} {path : String} (h : files.find path = .folder) :
    files.follow (files.base (Path.ofText path)) (Path.ofText path).parts = .folder := by
  unfold find at h
  split at h
  · cases h
  split at h
  · cases h
  dsimp only at h
  split at h
  · split at h <;> cases h
  · exact h

theorem find_of_read {files : Files} {path : String} {bytes : Utf8.Bytes}
    (h : files.read path = .ok bytes) : files.find path = .file bytes := by
  unfold read at h
  split at h
  next hfind =>
    obtain rfl := Except.ok.inj h
    exact hfind
  all_goals cases h

end Files

namespace Command

/-- No file can be read under a path that is refused. -/
theorem find_of_refused {files : Files} {parameter path : String} {e : UsageError}
    (h : notFolder files parameter path = .error e) (bytes : Utf8.Bytes) :
    files.find (Path.ofText path).text ≠ .file bytes := by
  unfold notFolder at h
  split at h
  next hname =>
    have hnul : '\x00' ∈ (Path.ofText path).text.toList := by
      refine Path.mem_text_ofText ?_ (by decide) (by decide)
      simpa [Files.isNamable] using hname
    have hunnamable : Files.isNamable (Path.ofText path).text = false := by
      simpa [Files.isNamable] using hnul
    unfold Files.find
    simp [hunnamable]
  next =>
    split at h
    next hfolder =>
      have hfollow := Files.follow_of_find_eq_folder (eq_of_beq hfolder)
      rw [← (Path.normal_ofText path).ofText_text] at hfollow
      exact Files.find_ne_file_of_follow hfollow
    next => cases h

/-- A call of the `parse` command for one file. -/
structure Invocation where
  verbose : Bool := false
  config : Option String := none
  /-- Private declarations are asked for, or refused. -/
  choice : Option Bool := none
  pretty : Bool := false
  modules : Bool := false
  path : String
deriving DecidableEq, Repr, Inhabited

def isGiven {ω : Type} [BEq ω] (options : List (Given ω)) (tag : ω) : Bool :=
  options.any fun g => g.tag == tag

theorem scan_flag {ω : Type} {specs : List (OptionSpec ω)} {mixed : Bool} {name : String} {tag : ω}
    (hname : name ≠ "--") (hdash : name.toList.head? = some '-') (hlength : 1 < name.toList.length)
    (hsplit : splitOption name = (name, none))
    (hspec : (findSpec? specs name).filter OptionSpec.isLong = some ⟨name, tag, false⟩)
    (rest : List String) :
    scan specs mixed (name :: rest) = (scan specs mixed rest).map (.given [⟨tag, none⟩]) := by
  simp [scan, hname, hdash, hlength, hsplit, hspec]

theorem scan_parseFlag (name : String) (tag : ParseOption)
    (h : (name, tag) ∈ parseSpecs.map fun spec => (spec.name, spec.tag)) (rest : List String) :
    scan parseSpecs true (name :: rest) =
      (scan parseSpecs true rest).map (.given [⟨tag, none⟩]) := by
  simp only [parseSpecs, List.map_cons, List.map_nil, List.mem_cons, Prod.mk.injEq,
    List.not_mem_nil, or_false] at h
  obtain ⟨rfl, rfl⟩ | ⟨rfl, rfl⟩ | ⟨rfl, rfl⟩ | ⟨rfl, rfl⟩ | ⟨rfl, rfl⟩ := h
  all_goals exact scan_flag (by decide) (by decide) (by decide) (by decide) rfl rest

namespace Invocation

/-- Arguments that are read as a call: options of the program, the name of the command, and then its
options around one path. -/
inductive Spelled : Invocation → List String → Prop
  | mk {args rest : List String} {outer : List (Given MainOption)}
      {inner : List (Given ParseOption)} {path : String}
      (program : scan mainSpecs false args = .ok { options := outer, rest := "parse" :: rest })
      (announces : announcement? outer = none)
      (command : scan parseSpecs true rest = .ok { options := inner, rest := [path] })
      (helps : isGiven inner .help = false) :
      Spelled {
        verbose := isGiven outer .verbose
        config := lastValue? outer
        choice := privateChoice? inner
        pretty := isGiven inner .pretty
        modules := isGiven inner .modules
        path } args

section PlainSpelling

/-- The options of a call that come before the name of the command, and those after it. -/
def outerOptions (i : Invocation) : List (Given MainOption) :=
  (if i.verbose then [⟨.verbose, none⟩] else []) ++
    i.config.elim [] fun path => [⟨.config, some path⟩]

def innerOptions (i : Invocation) : List (Given ParseOption) :=
  (i.choice.elim [] fun all => [⟨if all then .includePrivate else .publicOnly, none⟩]) ++
    (if i.pretty then [⟨.pretty, none⟩] else []) ++ (if i.modules then [⟨.modules, none⟩] else [])

def innerArgs (i : Invocation) : List String :=
  (i.choice.elim [] fun all => [if all then "--include-private" else "--public-only"]) ++
    (if i.pretty then ["--pretty"] else []) ++ (if i.modules then ["--modules"] else []) ++
    ["--", i.path]

def args (i : Invocation) : List String :=
  (if i.verbose then ["-v"] else []) ++ (i.config.elim [] fun path => ["--config", path]) ++
    "parse" :: i.innerArgs

theorem scan_args (i : Invocation) : scan mainSpecs false i.args =
    .ok { options := i.outerOptions, rest := "parse" :: i.innerArgs } := by
  unfold args outerOptions
  cases i.verbose <;> cases i.config <;> rfl

theorem scan_innerArgs (i : Invocation) : scan parseSpecs true i.innerArgs =
    .ok { options := i.innerOptions, rest := [i.path] } := by
  have all := scan_parseFlag "--include-private" .includePrivate (by decide)
  have visible := scan_parseFlag "--public-only" .publicOnly (by decide)
  have pretty := scan_parseFlag "--pretty" .pretty (by decide)
  have modules := scan_parseFlag "--modules" .modules (by decide)
  have path : scan parseSpecs true ["--", i.path] = .ok { rest := [i.path] } := rfl
  unfold innerArgs innerOptions
  rcases i.choice with _ | _ | _ <;> cases i.pretty <;> cases i.modules <;>
    simp [all, visible, pretty, modules, path, Except.map, Scanned.given]

theorem spelled_args (i : Invocation) : i.Spelled i.args := by
  have announces : announcement? i.outerOptions = none := by
    unfold outerOptions
    cases i.verbose <;> cases i.config <;> rfl
  have helps : isGiven i.innerOptions .help = false := by
    unfold innerOptions
    rcases i.choice with _ | _ | _ <;> cases i.pretty <;> cases i.modules <;> rfl
  have spelled := Spelled.mk i.scan_args announces i.scan_innerArgs helps
  have same : i = {
      verbose := isGiven i.outerOptions .verbose
      config := lastValue? i.outerOptions
      choice := privateChoice? i.innerOptions
      pretty := isGiven i.innerOptions .pretty
      modules := isGiven i.innerOptions .modules
      path := i.path } := by
    obtain ⟨verbose, config, choice, pretty, modules, path⟩ := i
    cases verbose <;> cases config <;> rcases choice with _ | _ | _ <;> cases pretty <;>
      cases modules <;> rfl
  rwa [← same] at spelled

end PlainSpelling

def file (i : Invocation) : String := (Path.ofText i.path).text

def request (i : Invocation) : ParseRequest where
  path := i.file
  includePrivate := i.choice
  pretty := i.pretty
  modules := i.modules

def sources (i : Invocation) (w : Surroundings) : Sources where
  files := w.files
  yaml := w.yaml
  globalPath := w.globalPath
  explicitPath := i.config
  environment := w.environment
  homes := w.homes

def checkConfig (files : Files) (config : Option String) : Except UsageError Unit :=
  match config with
  | some path => notFolder files "--config" path
  | none => .ok ()

section Reading
variable {args rest : List String} {outer : List (Given MainOption)}
  {inner : List (Given ParseOption)} {path : String}

theorem mainOptions_of_scan (files : Files)
    (program : scan mainSpecs false args = .ok { options := outer, rest := "parse" :: rest })
    (announces : announcement? outer = none) : mainOptions files args =
      (checkConfig files (lastValue? outer)).map
        fun _ => (none, { options := outer, rest := "parse" :: rest }) := by
  simp only [mainOptions, program, bind, Except.bind, announces, checkConfig]
  cases lastValue? outer with
  | none => rfl
  | some path => cases notFolder files "--config" path <;> rfl

theorem request_of_scan (files : Files)
    (program : scan mainSpecs false args = .ok { options := outer, rest := "parse" :: rest })
    (announces : announcement? outer = none) : Command.request files args =
      (checkConfig files (lastValue? outer)).map
        fun _ => .command (isGiven outer .verbose) (lastValue? outer) "parse" rest := by
  have nonempty : args.isEmpty = false := by
    cases args with
    | nil => cases program
    | cons => rfl
  have options := mainOptions_of_scan files program announces
  rw [Command.request, options, nonempty]
  cases checkConfig files (lastValue? outer) <;> rfl

theorem parseRequest_of_scan (files : Files)
    (command : scan parseSpecs true rest = .ok { options := inner, rest := [path] })
    (helps : isGiven inner .help = false) : parseRequest files rest =
      (notFolder files "PATH" path).map fun _ => {
        path := (Path.ofText path).text
        includePrivate := privateChoice? inner
        pretty := isGiven inner .pretty
        modules := isGiven inner .modules } := by
  have unhelped : (inner.any fun g => g.tag == .help) = false := helps
  simp only [parseRequest, command, bind, Except.bind, unhelped]
  cases notFolder files "PATH" path <;> rfl

end Reading

/-- The program finds the command, and the command finds its request, unless a path is refused. -/
theorem Spelled.exists_rest {i : Invocation} {args : List String} (h : i.Spelled args) : ∃ rest,
    (∀ files, Command.request files args =
      (checkConfig files i.config).map fun _ => .command i.verbose i.config "parse" rest) ∧
    ∀ files, parseRequest files rest =
      (notFolder files "PATH" i.path).map fun _ => i.request := by
  cases h with
  | mk program announces command helps =>
    exact ⟨_, fun files => request_of_scan files program announces,
      fun files => parseRequest_of_scan files command helps⟩

theorem Spelled.run_of_load_error {i : Invocation} {args : List String} (h : i.Spelled args)
    {w : Surroundings} (p : Process) {e : LoadError}
    (accepted : checkConfig w.files i.config = .ok ()) (fails : (i.sources w).load = .error e) :
    run w p args = loadFailed p e := by
  obtain ⟨rest, hrequest, _⟩ := h.exists_rest
  unfold run
  rw [hrequest, accepted]
  unfold sources at fails
  simp only [Except.map, fails]

end Invocation
end Command
end RustOutline
