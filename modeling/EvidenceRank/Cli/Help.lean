import EvidenceRank.Cli.Arguments
import EvidenceRank.Cli.Report

/-!
# Help

What the program tells about its commands and options. Names stand in a column that is as wide as
the longest; an option that has a variable of the environment shows its value.

* `HelpTopic.text`: the help about a topic.
-/

namespace EvidenceRank.Cli

/-! ## Options -/

namespace Flag

/-- How the value of an option is called. -/
def valueName (flag : Flag) : String :=
  flag.long.map fun c => if c == '-' then '_' else c.toUpper

/-- The option with its value, as it is called. -/
def usage (flag : Flag) : String :=
  s!"--{flag.long}" ++ if flag.takesValue then s!" <{flag.valueName}>" else ""

/-- The names of the option. -/
def title (flag : Flag) : String :=
  match flag.short? with
  | some c => String.ofList ['-', c, ',', ' '] ++ flag.usage
  | none => "    " ++ flag.usage

/-- What the option does at a level. -/
def note (flag : Flag) (level : Level) : String :=
  match level, flag with
  | _, verbose => "Enable verbose output (debug logging)"
  | _, config => "Path to configuration file (default: ~/.citerank/config.yaml)"
  | _, help => "Print help"
  | _, version => "Print version"
  | .faq, input => "FAQ file: query and candidate entries"
  | _, input => "Request file: query, per-source dense/sparse pools, optional scopedDocId"
  | _, json => "Output in JSON format"
  | _, topRows => "Rows kept after fusion (overrides expansion.rerankTopk)"
  | _, method => "Fusion method: default, hybrid_reranker or only_reranker"
  | _, maxSlices => "Slices per citation (overrides citation.maxSlicePerCite)"

/-- The variable of the environment that gives the option if no argument does. -/
def environmentName? : Flag → Option String
  | verbose => some "CITERANK_VERBOSE"
  | config => some "CITERANK_CONFIG"
  | _ => none

end Flag

/-- The options of a level in the order of its help. -/
def Level.listed : Level → List Flag
  | program => [.verbose, .config, .help, .version]
  | rank =>
    [.input, .verbose, .config, .json, .topRows, .method, .maxSlices, .help, .version]
  | faq => [.input, .verbose, .config, .json, .help, .version]

/-! ## Layout -/

/-- Rows of a name and a note, the notes in one column. -/
def columns (rows : List (String × String)) : List String :=
  let width := (rows.map (·.1.length)).foldl max 0
  rows.map fun (name, note) => "  " ++ padEnd (width + 2) name ++ note

/-- The note on an option, with what the environment says for it. -/
def optionNote (environment : Flag → Option String) (level : Level) (flag : Flag) : String :=
  match flag.environmentName? with
  | some name =>
    let value := (environment flag).getD ""
    s!"{flag.note level} [env: {name}={value}]"
  | none => flag.note level

/-- The rows of a level's options. -/
def optionRows (environment : Flag → Option String) (level : Level) : List (String × String) :=
  level.listed.map fun flag => (flag.title, optionNote environment level flag)

/-! ## Topics -/

namespace HelpTopic

/-- What a topic is about, in one sentence. -/
def summary : HelpTopic → String
  | level .program => "citerank - CLI binary"
  | level .rank => "Rank retrieval hits and assemble citations"
  | level .faq => "Rank FAQ entries and pick a confident answer"
  | help => "Print this message or the help of the given subcommand(s)"

/-- How it is called. -/
def usage : HelpTopic → String
  | level .program => "citerank [OPTIONS] <COMMAND>"
  | level .rank => "citerank rank [OPTIONS] --input <INPUT>"
  | level .faq => "citerank faq [OPTIONS] --input <INPUT>"
  | help => "citerank help [COMMAND]..."

def examples : HelpTopic → List String
  | level .rank =>
    ["", "EXAMPLES:",
      "    # Rank a request and print citations",
      "    citerank rank --input request.json",
      "",
      "    # Keep the top 10 rows, fuse with channel scores only",
      "    citerank rank --input request.json --topk 10 --method default",
      "",
      "    # JSON output for scripting",
      "    citerank rank --input request.json --json | jq '.reports[0].citations'"]
  | level .faq =>
    ["", "EXAMPLES:",
      "    # Rank FAQ candidates",
      "    citerank faq --input faq.json",
      "",
      "    # JSON output",
      "    citerank faq --input faq.json --json"]
  | _ => []

/-- The commands of the program. -/
def commandRows : List (String × String) :=
  [("rank", (level .rank).summary), ("faq", (level .faq).summary), ("help", help.summary)]

/-- What a topic lists: commands, options or arguments. -/
def sections (environment : Flag → Option String) : HelpTopic → List String
  | level .program =>
    ["Commands:"] ++ columns commandRows ++ ["", "Options:"]
      ++ columns (optionRows environment .program)
  | level l => ["Options:"] ++ columns (optionRows environment l)
  | help => ["Arguments:"] ++ columns [("[COMMAND]...", "Print help for the subcommand(s)")]

/-- The help about a topic, given what the environment says for each option. -/
def text (environment : Flag → Option String) (topic : HelpTopic) : String :=
  unlines ([topic.summary, "", "Usage: " ++ topic.usage, ""] ++ sections environment topic
    ++ topic.examples)

end HelpTopic
end EvidenceRank.Cli
