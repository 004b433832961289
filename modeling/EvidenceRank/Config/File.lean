import EvidenceRank.Config.Validation
import EvidenceRank.Yaml.Source

/-!
# Configuration files

A configuration is read from a file (`from_path`, `load_default`). Without a file everything is at
its default; a file that is there has to be readable, well formed and valid.
-/

namespace EvidenceRank

/-- What came of reading a file. -/
inductive FileContent where
  /-- There is nothing under the path: the wording of the reason. -/
  | missing (reason : String)
  /-- There is something that cannot be read as text: the wording of the reason. -/
  | unreadable (reason : String)
  | text (content : String)

/-- The text of a file. -/
def FileContent.text? (path : String) : FileContent → Except FileFault String
  | .missing reason => .error (.unreadable path reason)
  | .unreadable reason => .error (.unreadable path reason)
  | .text content => .ok content

namespace RankingConfig

/-- The configuration that a text holds, if it is one and is valid. -/
def ofText (complaint : String → String) (path content : String) :
    Except RankError (RankingConfig Float) :=
  match Yaml.read? content >>= read? with
  | none => .error (.invalidConfig (.malformed path (complaint content)))
  | some config =>
    match config.validate with
    | .ok _ => .ok config
    | .error fault => .error (.invalidConfiguration fault)

/-- The configuration of what was found under `path`. -/
def ofFile (complaint : String → String) (path : String) :
    FileContent → Except RankError (RankingConfig Float)
  | .missing _ => .ok .default
  | .unreadable reason => .error (.invalidConfig (.unreadable path reason))
  | .text content => ofText complaint path content

end RankingConfig
end EvidenceRank
