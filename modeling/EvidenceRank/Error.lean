import EvidenceRank.Decimal.Layout

/-!
# Errors

What can go wrong, as causes, and the wording of each cause in one place.

* `ServiceError`: a request to an external service and what came of it (`ModelError`).
* `ConfigFault`: a configuration that cannot be used, with a hint how to mend it
  (`InvalidConfiguration`).
* `RankError`: what ranking reports; `RankError.ofService` says how a service's error is seen
  (`from_model_error`).
* `Halt`: how ranking ends without a result. Beside the errors that it reports, an ordering may give
  up (`Lists.rankScores`), and with it everything that waits for the order.

What a parser says about a text that it refuses is the parser's own. `Complaints` stands for it.
-/

namespace EvidenceRank

/-- The external services. -/
inductive Service where
  | rerank
  | sliceFetch
deriving DecidableEq

/-- The name of a service in reports. -/
def Service.name : Service → String
  | .rerank => "rerank"
  | .sliceFetch => "slice-fetch"

/-- The name of a service in the wording of configuration faults. -/
def Service.title : Service → String
  | .rerank => "rerank"
  | .sliceFetch => "slice fetch"

/-- Why a service's client cannot be used as configured. -/
inductive ServiceFault where
  | emptyUrl (service : Service)
  | noTimeout (service : Service)
  | noIndex
  | unpairedAnchors (docs segments : Nat)
  | stated (message : String)

def ServiceFault.message : ServiceFault → String
  | emptyUrl s => s!"{s.title} url cannot be empty"
  | noTimeout s => s!"{s.title} timeoutSecs cannot be 0"
  | noIndex => "slice fetch needs at least one index"
  | unpairedAnchors docs segments => s!"{docs} doc ids for {segments} segment ids"
  | stated message => message

/-- Why a service's answer cannot be used. -/
inductive AnswerFault where
  | indexOutOfRange (index count : Nat)
  | indexRepeated (index : Nat)
  | tooManyGroups (groups anchors : Nat)
  | stated (message : String)

def AnswerFault.message : AnswerFault → String
  | indexOutOfRange index count => s!"index {index} out of range for {count} documents"
  | indexRepeated index => s!"index {index} returned twice"
  | tooManyGroups groups anchors => s!"{groups} result groups for {anchors} anchors"
  | stated message => message

/-- What a text is read as. -/
inductive Reading where
  | configuration
  | rankRequest
  | faqRequest
  /-- An answer of the rerank service. -/
  | scores
  /-- An answer of the slice-fetch service. -/
  | neighbours
deriving DecidableEq

/-- What the parsers say about a text that cannot be read as asked for. -/
abbrev Complaints := Reading → String → String

/-- What can go wrong with a request to a service. -/
inductive ServiceError where
  | requestFailed (service : Service) (url message : String)
  | unexpectedStatus (service : Service) (status : Nat) (body : String)
  | invalidResponse (service : Service) (fault : AnswerFault)
  | lengthMismatch (model : String) (expected actual : Nat)
  | invalidConfig (fault : ServiceFault)
  | malformedJson (complaint : String)

/-- How a wrong number of scores is reported. -/
def scoreCountMessage (expected actual : Nat) : String :=
  s!"expected {expected} scores, got {actual}"

/-- How a text that is no record is reported. -/
def malformedMessage (complaint : String) : String := s!"JSON error: {complaint}"

def ServiceError.message : ServiceError → String
  | requestFailed s url message => s!"Request to {s.name} at {url} failed: {message}"
  | unexpectedStatus s status body => s!"{s.name} returned HTTP {status}: {body}"
  | invalidResponse s fault => s!"Invalid response from {s.name}: {fault.message}"
  | lengthMismatch model expected actual =>
    s!"Reranking failed for model '{model}': {scoreCountMessage expected actual}"
  | invalidConfig fault => s!"Invalid service configuration: {fault.message}"
  | malformedJson complaint => malformedMessage complaint

/-- Why a configuration cannot be used. -/
inductive ConfigFault where
  | unknownFusionMethod (name : String)
  | unknownExpansionMethod (name : String)
  | badWeight (field : String) (value : Float)
  | noTopRows
  | noSlices
  | badMultiplier (value : Float)
  | rerankService (fault : ServiceFault)
  | sliceFetchService (fault : ServiceFault)
  | client (fault : ServiceFault)

namespace ConfigFault

def message : ConfigFault → String
  | unknownFusionMethod name => s!"unknown reranker method '{name}'"
  | unknownExpansionMethod name => s!"unknown choose method '{name}'"
  | badWeight field value =>
    s!"fusion.{field}={Decimal.plainText value} must be a non-negative number"
  | noTopRows => "expansion.rerankTopk cannot be 0"
  | noSlices => "citation.maxSlicePerCite cannot be 0"
  | badMultiplier value =>
    s!"faq.outlierMultiplier={Decimal.plainText value} must be a non-negative number"
  | rerankService fault => s!"services.rerank: {(ServiceError.invalidConfig fault).message}"
  | sliceFetchService fault => s!"services.sliceFetch: {(ServiceError.invalidConfig fault).message}"
  | client fault => fault.message

def hint : ConfigFault → String
  | unknownFusionMethod _ =>
    "Use one of: default, cos_and_bm25, hybrid_reranker, only_reranker"
  | unknownExpansionMethod _ => "Use one of: method1, method2, method7"
  | badWeight _ _ => "Defaults are cosSimWeight 1.3 and bm25Weight 1.0"
  | noTopRows => "Set rerankTopk to at least 1 (default: 15)"
  | noSlices => "Set maxSlicePerCite to at least 1 (default: 16)"
  | badMultiplier _ => "Default is 0.5"
  | rerankService _ => "Set services.rerank.url to the rerank endpoint"
  | sliceFetchService _ => "Set services.sliceFetch.url and at least one index"
  | client _ => "Check the services section of config.yaml"

end ConfigFault

/-- Why a configuration file was not taken. -/
inductive FileFault where
  | unreadable (path reason : String)
  | malformed (path complaint : String)

def FileFault.message : FileFault → String
  | unreadable path reason => s!"Failed to read {path}: {reason}"
  | malformed path complaint => s!"Failed to parse {path}: {complaint}"

/-- What ranking reports when it cannot go on. -/
inductive RankError where
  | invalidConfiguration (fault : ConfigFault)
  | invalidConfig (fault : FileFault)
  | rerankerUnavailable (provider reason : String)
  | rerankerFailed (model reason : String)
  | sliceFetchFailed (reason : String)
  | malformedJson (complaint : String)

namespace RankError

def message : RankError → String
  | invalidConfiguration fault => s!"Invalid configuration: {fault.message}. {fault.hint}"
  | invalidConfig fault => s!"Config invalid: {fault.message}"
  | rerankerUnavailable provider reason => s!"Reranker '{provider}' unavailable: {reason}"
  | rerankerFailed model reason => s!"Reranker inference failed for model '{model}': {reason}"
  | sliceFetchFailed reason => s!"Slice fetch failed: {reason}"
  | malformedJson complaint => malformedMessage complaint

/-- The error that lies beneath, if there is one. -/
def cause? : RankError → Option String
  | malformedJson complaint => some complaint
  | _ => none

/-- The wording of an error together with what lies beneath. -/
def chain (e : RankError) : String := ": ".intercalate (e.message :: e.cause?.toList)

/-- A service that does not answer is unavailable; one whose answer is unusable has failed. -/
def ofService : ServiceError → RankError
  | .requestFailed s url message => rerankerUnavailable s.name s!"{url}: {message}"
  | .unexpectedStatus s status body => rerankerUnavailable s.name s!"HTTP {status}: {body}"
  | .invalidResponse s fault => rerankerFailed s.name fault.message
  | .lengthMismatch model expected actual =>
    rerankerFailed model (scoreCountMessage expected actual)
  | .invalidConfig fault => invalidConfiguration (.client fault)
  | .malformedJson complaint => malformedJson complaint

end RankError

/-- How ranking ends without a result. -/
inductive Halt where
  /-- It reports an error. -/
  | failed (error : RankError)
  /-- An ordering has given up. This is no error that is handed on: whatever runs is unwound. -/
  | disordered

namespace Halt

variable {m : Type → Type} [Monad m] {α : Type}

/-- A step that may report an error. -/
def failing (step : ExceptT RankError m α) : ExceptT Halt m α := step.adapt failed

/-- What comes of an order: itself, or the end if there is none. -/
def ordered : Option α → Except Halt α
  | some order => .ok order
  | none => .error disordered

/-- A step that needs an order. -/
def ordering (order : Option α) : ExceptT Halt m α := ExceptT.mk (pure (ordered order))

/-- What is reported of an end: the result or the error, and nothing if all is unwound. -/
def report? : Except Halt α → Option (Except RankError α)
  | .ok a => some (.ok a)
  | .error (failed e) => some (.error e)
  | .error disordered => none

/-- What is reported of a computation. -/
def reported (x : ExceptT Halt m α) : OptionT m (Except RankError α) :=
  OptionT.mk (report? <$> x.run)

end Halt
end EvidenceRank
