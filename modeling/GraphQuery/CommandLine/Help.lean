import GraphQuery.CommandLine.Arguments
import GraphQuery.Text.Joined

/-
This file holds the help on the command line.
-/

namespace GraphQuery.CommandLine

def versionText : String := "gqlnodes 0.1.0\n"

def programHelp : List String :=
  ["Send GraphQL documents from the command line with gqlnodes",
    "",
    "Usage: gqlnodes [OPTIONS] <COMMAND>",
    "",
    "Commands:",
    "  run   Send a document to an endpoint and print the response",
    "  help  Print this message or the help of the given subcommand(s)",
    "",
    "Options:",
    "  -v, --verbose...       Raise the log level (-v for debug, -vv for trace). $RUST_LOG takes precedence",
    "      --format <FORMAT>  Output format. Auto-detected if not specified (human for terminal, json for pipe) [possible values: human, json]",
    "  -h, --help             Print help",
    "  -V, --version          Print version"]

def runHelp : List String :=
  ["Send a document to an endpoint and print the response",
    "",
    "Usage: gqlnodes run [OPTIONS] --url <URL> --query <QUERY>",
    "",
    "Options:",
    "      --url <URL>              GraphQL endpoint URL [env: GQLNODES_URL=]",
    "  -v, --verbose...             Raise the log level (-v for debug, -vv for trace). $RUST_LOG takes precedence",
    "      --query <QUERY>          Document text",
    "      --format <FORMAT>        Output format. Auto-detected if not specified (human for terminal, json for pipe) [possible values: human, json]",
    "      --file <FILE>            Read the document from a file (\"-\" for stdin)",
    "      --variables <VARIABLES>  Variables as a JSON object",
    "  -H, --header <HEADERS>       Extra request header as `Name: value`. Repeatable",
    "      --timeout <TIMEOUT>      Request timeout in seconds",
    "  -h, --help                   Print help (see more with '--help')"]

/-- Each line ends with a line break. -/
def lines (content : List String) : String := String.join (content.map (· ++ "\n"))

def Level.help : Level → String
  | program => lines programHelp
  | run => lines runHelp

open Text.Span in
/-- The message of a problem and where to look for help. -/
def UsageProblem.report (problem : UsageProblem) : String :=
  Text.unstyled ([alarm "error:", plain " "] ++ problem.message ++
    [plain "\n\nFor more information, try '", literal "--help", plain "'.\n"])

end GraphQuery.CommandLine
