/-
The texts a command line can ask for.
-/

namespace BlockProbe.Command

def versionText : String := "nvprobe 0.1.0\n"

def helpText : String :=
  String.join [
    "Command-line block device write/read probe\n",
    "\n",
    "Usage: nvprobe [OPTIONS] [PATH]\n",
    "\n",
    "Arguments:\n",
    "  [PATH]  Block device or file to write the payload to\n",
    "\n",
    "Options:\n",
    "      --interval <SECS>    Seconds between heartbeat messages\n",
    "      --no-verify          Print the read-back without checking it against the payload\n",
    "      --sync               fsync the target after writing\n",
    "      --log-level <LEVEL>  Log level (RUST_LOG takes precedence)\n",
    "      --once               Exit after the round trip instead of idling\n",
    "  -h, --help               Print help\n",
    "  -V, --version            Print version\n"]

/-- what is printed when no path is given -/
def usageLine : String :=
  "Error: no file path given. The first argument should be the block device file path"

end BlockProbe.Command
