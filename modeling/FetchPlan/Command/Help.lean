import FetchPlan.Command.Arguments
import FetchPlan.Report.Basic

/-!
The texts that the command line prints about itself.
-/
namespace FetchPlan.Command

def versionLine : String := Report.thisTool.name ++ " " ++ Report.thisTool.version ++ "\n"

def helpText : Option Verb → String
  | none =>
    "Plan offline dependency fetches and emit provenance-attested SBOM components

Usage: prefetch [OPTIONS] <COMMAND>

Commands:
  resolve                Resolve packages and write the report
  sanitize-cargo-config  Print the sanitized form of a cargo config file
  help                   Print this message or the help of the given subcommand(s)

Options:
      --log-level <LOG_LEVEL>  Log filter; falls back to PREFETCH_LOG, then warn
  -h, --help                   Print help
  -V, --version                Print version
"
  | some .resolve =>
    "Resolve packages and write the report

Usage: prefetch resolve [OPTIONS] --output-dir <OUTPUT_DIR>

Options:
      --source-dir <SOURCE_DIR>      Source tree containing the packages [default: .]
      --output-dir <OUTPUT_DIR>      Directory fetched content will land in
      --package <TYPE[:PATH]>        Package to resolve, as TYPE or TYPE:PATH (repeatable)
      --mode <MODE>                  Override the mode (strict|permissive)
      --max-parallel <MAX_PARALLEL>  Override the number of packages resolved concurrently
      --config <CONFIG>              Path to prefetch config TOML
      --report-out <REPORT_OUT>      Where to write the JSON report
      --log-level <LOG_LEVEL>        Log filter; falls back to PREFETCH_LOG, then warn
  -h, --help                         Print help
"
  | some .sanitizeConfig =>
    "Print the sanitized form of a cargo config file

Usage: prefetch sanitize-cargo-config [OPTIONS] <FILE>

Arguments:
  <FILE>  Path to .cargo/config.toml (or legacy .cargo/config)

Options:
      --log-level <LOG_LEVEL>  Log filter; falls back to PREFETCH_LOG, then warn
  -h, --help                   Print help
"

end FetchPlan.Command
