import EvidenceRank.Cli.Help
import EvidenceRank.Config.File
import EvidenceRank.Faq.Ranking
import EvidenceRank.Json.Reader
import EvidenceRank.Service.Rerank
import EvidenceRank.Service.SliceFetch

/-!
# Running a command

A command settles its configuration (`load_config`, `apply_overrides`), reads its input file
(`read_input`), builds the clients of the services, and prints what ranking gives (`handle_rank`,
`handle_faq`). Everything it needs of the machine comes from a `Host`.

* `Invocation.configure`: the configuration that a command ranks with, decided before the input is
  read.
* `run`: the exit code and what is printed (`run`).
-/

namespace EvidenceRank.Cli

/-- The machine that a command runs on. -/
structure Host (m : Type → Type) where
  /-- What the environment says for an option. -/
  environment : Flag → Option String
  /-- The home directory. -/
  home : Option String
  contentOf : String → m FileContent
  transport : Service.Transport m
  complaints : Complaints
  turns : String → Turns
  now : m String
  freshId : m String

/-- What a run leaves behind. -/
structure Outcome where
  exitCode : Nat := 0
  output : String := ""
  /-- The lines of diagnostics. -/
  diagnostics : List String := []

/-- Why a command cannot finish. -/
inductive Failure where
  /-- The configuration at a path that was named, or at home, cannot be used. -/
  | configuration (path : Option String) (error : RankError)
  | input (fault : FileFault)
  | ranking (error : RankError)
  | allSourcesFailed (count : Nat)
  /-- An ordering has given up, which unwinds the command. -/
  | unwound

namespace Failure

/-- The failure of a ranking that ended without a result. -/
def ofHalt : Halt → Failure
  | .failed error => ranking error
  | .disordered => unwound

def message : Failure → String
  | configuration _ error => s!"Failed to load configuration: {error.chain}"
  | input fault => fault.message
  | ranking error => error.chain
  | allSourcesFailed count => s!"all {count} data sources failed"
  | unwound => "user-provided comparison function does not correctly implement a total order"

def exitCode : Failure → Nat
  | unwound => 101
  | _ => 1

def hint? : Failure → Option String
  | configuration (some path) _ => some s!"Check your config at {path}"
  | configuration none _ => some "Check your global config at ~/.citerank/config.yaml"
  | _ => none

/-- The lines that tell of the failure. -/
def diagnostics (f : Failure) : List String :=
  let label := match f with
    | unwound => "panic"
    | _ => "error"
  s!"{label}: {f.message}" :: f.hint?.toList.map ("hint: " ++ ·)

end Failure

/-- The failure of a run that has printed nothing. -/
def Outcome.ofFailure (f : Failure) : Outcome :=
  { exitCode := f.exitCode, diagnostics := f.diagnostics }

/-! ## Configuration -/

/-- Where the configuration is looked for: under the path that was named, else at home. -/
def configPath? (named home : Option String) : Option String :=
  named.or (home.map (· ++ "/.citerank/config.yaml"))

/-- The configuration that was found; all defaults when there is no place to look. -/
def loadedConfig (complaint : String → String) :
    Option (String × FileContent) → Except RankError (RankingConfig Float)
  | none => .ok .default
  | some (path, content) => RankingConfig.ofFile complaint path content

/-- Put the options of a ranking in place of what was loaded. -/
def RankOptions.override (o : RankOptions) (config : RankingConfig Float) :
    Except RankError (RankingConfig Float) := do
  let method ← match o.method with
    | some name => FusionMethod.ofText name
    | none => .ok config.fusion.method
  return { config with
    fusion := { config.fusion with method }
    expansion := { config.expansion with topRows := o.topRows.getD config.expansion.topRows }
    citation := ⟨o.maxSlices.getD config.citation.maxSlices⟩ }

/-- The configuration with the options of a ranking, if that is valid. -/
def RankOptions.configure (o : RankOptions) (config : RankingConfig Float) :
    Except RankError (RankingConfig Float) := do
  let config ← o.override config
  match config.validate with
  | .ok _ => return config
  | .error fault => throw (.invalidConfiguration fault)

/-- The configuration that a command ranks with. -/
def Invocation.configure (i : Invocation) (complaint : String → String)
    (found : Option (String × FileContent)) : Except Failure (RankingConfig Float) := do
  let loaded ← (loadedConfig complaint found).mapError (.configuration i.config)
  match i.command with
  | .rank options => (options.configure loaded).mapError .ranking
  | .faq _ => return loaded

/-! ## Input -/

/-- The input of a FAQ ranking. -/
structure FaqRequest where
  query : Query
  entries : List Faq.Entry

open Data in
def FaqRequest.read? : Json → Option FaqRequest :=
  record do
    let query ← required "query" Query.read?
    let entries ← withDefault ["candidates"] (list? Faq.Entry.read?) []
    return { query, entries }

/-- Read the input under `path` as a record. -/
def inputOf {α : Type} (read? : Json → Option α) (complaint : String → String) (path : String)
    (content : FileContent) : Except Failure α := do
  let text ← (content.text? path).mapError .input
  match Json.read? text >>= read? with
  | some request => return request
  | none => throw (.input (.malformed path (complaint text)))

/-! ## Commands -/

section
variable {m : Type → Type} [Monad m]

/-- A client, or what is wrong with its configuration. -/
def clientOf {α : Type} (client : Except ServiceError α) : Except Failure α :=
  client.mapError fun e => .ranking (.ofService e)

/-- The client of the rerank service of a configuration. -/
def rerankClientOf (host : Host m) (config : RankingConfig Float) :
    Except Failure (Service.RerankClient m) :=
  clientOf (Service.RerankClient.ofConfig config.services.rerank host.transport
    (host.complaints .scores))

/-- The client of the slice-fetch service of a configuration. -/
def sliceFetchClientOf (host : Host m) (config : RankingConfig Float) :
    Except Failure (Service.SliceFetchClient m) :=
  clientOf (Service.SliceFetchClient.ofConfig config.services.sliceFetch host.transport
    (host.complaints .neighbours))

/-- The pipeline of a configuration with the clients of its services. -/
def pipelineOf (host : Host m) (config : RankingConfig Float) :
    Except Failure (Pipeline m Float) := do
  let reranker ← rerankClientOf host config
  let fetcher ← sliceFetchClientOf host config
  return ⟨config, reranker.reranker, fetcher.fetcher host.freshId, host.turns⟩

/-- What a ranking prints: the report, a warning for each source that failed, and an error when all
of them failed. -/
def rankOutcome (report : String) (o : RankOutput Float) : Outcome :=
  let warnings := o.failures.map fun f =>
    s!"warning: source '{f.dataSource}' failed: {f.error}"
  if o.reports.isEmpty && !o.failures.isEmpty then
    { exitCode := 1
      output := report
      diagnostics := warnings ++ (Failure.allSourcesFailed o.failures.length).diagnostics }
  else { output := report, diagnostics := warnings }

/-- Rank the request of an input file. -/
def runRank (host : Host m) (config : RankingConfig Float) (o : RankOptions) :
    ExceptT Failure m Outcome := do
  let content ← (host.contentOf o.input : m FileContent)
  let request ← ExceptT.mk (pure
    (inputOf RankRequest.read? (host.complaints .rankRequest) o.input content))
  let pipeline ← ExceptT.mk (pure (pipelineOf host config))
  let some output ← ((pipeline.run request).run : m (Option (RankOutput Float)))
    | throw Failure.unwound
  let report ← if o.json then do
      let time ← (host.now : m String)
      pure (stamped time output.members)
    else pure (rankText output)
  return rankOutcome report output

/-- Rank the FAQ entries of an input file. -/
def runFaq (host : Host m) (config : RankingConfig Float) (o : FaqOptions) :
    ExceptT Failure m Outcome := do
  let content ← (host.contentOf o.input : m FileContent)
  let request ← ExceptT.mk (pure
    (inputOf FaqRequest.read? (host.complaints .faqRequest) o.input content))
  let client ← ExceptT.mk (pure (rerankClientOf host config))
  let ranking ←
    (Faq.rank config.faq client.reranker request.query request.entries).adapt Failure.ofHalt
  if o.json then
    let time ← (host.now : m String)
    return { output := stamped time ranking.members }
  else return { output := faqText ranking }

/-- Run an invocation with its configuration. -/
def runWith (host : Host m) (config : RankingConfig Float) : Command → ExceptT Failure m Outcome
  | .rank options => runRank host config options
  | .faq options => runFaq host config options

/-- The configuration file that an invocation finds. -/
def findConfig (host : Host m) (i : Invocation) : m (Option (String × FileContent)) :=
  match configPath? i.config host.home with
  | none => return none
  | some path => do return some (path, ← host.contentOf path)

/-- What there is to note about the configuration of a run: where it was looked for, if that is
wanted, and its odd settings. -/
def notes (i : Invocation) (path : Option String) (config : RankingConfig Float) : List String :=
  let place := path.getD "nowhere"
  let origin := if i.verbose then [s!"configuration looked for at {place}"] else []
  let odd := match config.validate with
    | .ok warnings => warnings.map (·.message)
    | .error _ => []
  (origin ++ odd).map ("note: " ++ ·)

/-- Run an invocation. -/
def runInvocation (host : Host m) (i : Invocation) : ExceptT Failure m Outcome := do
  let found ← (findConfig host i : m (Option (String × FileContent)))
  let config ← ExceptT.mk (pure (i.configure (host.complaints .configuration) found))
  let outcome ← runWith host config i.command
  return { outcome with
    diagnostics := notes i (found.map (·.1)) config ++ outcome.diagnostics }

/-- The version that the program reports. -/
def version : String := "0.1.0"

/-- What is printed when nothing is run. -/
def Stop.outcome (environment : Flag → Option String) : Stop → Outcome
  | version level => { output := unlines [s!"{level.title} {Cli.version}"] }
  | help topic => { output := topic.text environment }
  | refused fault =>
    { exitCode := 2, diagnostics := [s!"error: {fault.message}", "hint: Try --help"] }

/-- Run the program with its arguments. -/
def run (host : Host m) (arguments : List String) : m Outcome :=
  match Invocation.ofArguments host.environment arguments with
  | .error stop => return stop.outcome host.environment
  | .ok invocation => do
    match ← (runInvocation host invocation).run with
    | .ok outcome => return outcome
    | .error failure => return .ofFailure failure

end
end EvidenceRank.Cli
