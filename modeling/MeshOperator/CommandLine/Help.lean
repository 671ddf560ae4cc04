import MeshOperator.CommandLine.Command

/-!
The help texts of the program.
-/

namespace MeshOperator

set_option autoImplicit false

namespace CommandLine

def versionText : String := "meshop 0.1.0\n"

def unlines (lines : List String) : String := String.join (lines.map (· ++ "\n"))

def helpText : Topic → String
  | .program => unlines [
    "Linkerd control plane operator",
    "",
    "Usage: meshop <COMMAND>",
    "",
    "Commands:",
    "  run      Watch Linkerd records and reconcile the control plane",
    "  crd      Print the Linkerd CustomResourceDefinition",
    "  render   Print the resources a record would produce",
    "  release  Stop managing records: drop the finalizer and mark them Unmanaged",
    "  help     Print this message or the help of the given subcommand(s)",
    "",
    "Options:",
    "  -h, --help     Print help",
    "  -V, --version  Print version"]
  | .run => unlines [
    "Watch Linkerd records and reconcile the control plane",
    "",
    "Usage: meshop run [OPTIONS]",
    "",
    "Options:",
    "      --pod-namespace <POD_NAMESPACE>",
    "          Namespace the operator runs in [env: POD_NAMESPACE=]",
    "      --watch-namespace <WATCH_NAMESPACE>",
    "          Restrict the watch to this namespace (must equal the pod namespace) [env:",
    "          WATCH_NAMESPACE=]",
    "      --requeue-secs <REQUEUE_SECS>",
    "          Delay before a failed pass is retried [env: MESHOP_REQUEUE_SECS=] [default: 30]",
    "      --metrics-addr <METRICS_ADDR>",
    "          Serve Prometheus metrics on host:port [env: MESHOP_METRICS_ADDR=]",
    "  -h, --help",
    "          Print help"]
  | .definition => unlines [
    "Print the Linkerd CustomResourceDefinition",
    "",
    "Usage: meshop crd",
    "",
    "Options:",
    "  -h, --help  Print help"]
  | .render => unlines [
    "Print the resources a record would produce",
    "",
    "Usage: meshop render [OPTIONS] <FILE>",
    "",
    "Arguments:",
    "  <FILE>  Linkerd record as YAML",
    "",
    "Options:",
    "      --ns <NAMESPACE>    Namespace to assume when the record has none [default: linkerd]",
    "      --include-reserved  Also render the schema extension subsystems",
    "  -h, --help              Print help"]
  | .release => unlines [
    "Stop managing records: drop the finalizer and mark them Unmanaged",
    "",
    "Usage: meshop release [OPTIONS]",
    "",
    "Options:",
    "      --ns <NAMESPACE>  Only release records in this namespace",
    "  -h, --help            Print help"]
  | .help => unlines [
    "Print this message or the help of the given subcommand(s)",
    "",
    "Usage: meshop help [COMMAND]...",
    "",
    "Arguments:",
    "  [COMMAND]...  Print help for the subcommand(s)"]

end CommandLine

end MeshOperator
