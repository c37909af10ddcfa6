/-
Module: Keyring.CommandLine.Usage
Purpose: The texts that explain the command line.
Main exports: versionText, helpText, misuseText
-/
import Keyring.CommandLine.Arguments

namespace Keyring.CommandLine

/-- The name and the version of the program. -/
def versionText : String := "keyblob 0.1.0\n"

/-- The help on a topic, line by line. -/
def helpLines : Topic → List String
  | .program =>
      ["Generate, inspect and split RSA/HMAC key files",
        "",
        "Usage: keyblob [OPTIONS] <COMMAND>",
        "",
        "Commands:",
        "  generate  Generate a complete set of user keys and write them to a key file",
        "  inspect   List the keys held in a key file",
        "  extract   Write a subset of the keys from one or more key files to a new key file",
        "  help      Print this message or the help of the given subcommand(s)",
        "",
        "Options:",
        "  -v, --verbose...  Increase logging verbosity",
        "  -q, --quiet...    Decrease logging verbosity",
        "  -h, --help        Print help",
        "  -V, --version     Print version"]
  | .command .generate =>
      ["Generate a complete set of user keys and write them to a key file",
        "",
        "Usage: keyblob generate [OPTIONS] --output <OUTPUT>",
        "",
        "Options:",
        "  -o, --output <OUTPUT>  Key file to create",
        "  -v, --verbose...       Increase logging verbosity",
        "  -q, --quiet...         Decrease logging verbosity",
        "  -h, --help             Print help"]
  | .command .inspect =>
      ["List the keys held in a key file",
        "",
        "Usage: keyblob inspect [OPTIONS] <FILE>",
        "",
        "Arguments:",
        "  <FILE>  Key file to read",
        "",
        "Options:",
        "  -v, --verbose...  Increase logging verbosity",
        "  -q, --quiet...    Decrease logging verbosity",
        "  -h, --help        Print help"]
  | .command .extract =>
      ["Write a subset of the keys from one or more key files to a new key file",
        "",
        "Usage: keyblob extract [OPTIONS] --output <OUTPUT> <FILES>...",
        "",
        "Arguments:",
        "  <FILES>...  Key files to read",
        "",
        "Options:",
        "  -r                       Keys needed to read archives",
        "  -v, --verbose...         Increase logging verbosity",
        "  -q, --quiet...           Decrease logging verbosity",
        "  -w                       Keys needed to write archives",
        "  -d                       Keys needed to read and delete archives",
        "      --nuke               Only the key needed to delete all archives",
        "      --keylist <KEYLIST>  Explicit key ids, comma separated (e.g. 1,4,5)",
        "  -o, --output <OUTPUT>    Key file to create",
        "  -h, --help               Print help"]
  | .help =>
      ["Print this message or the help of the given subcommand(s)",
        "",
        "Usage: keyblob help [COMMAND]...",
        "",
        "Arguments:",
        "  [COMMAND]...  Print help for the subcommand(s)"]

/-- The help on a topic. -/
def helpText (topic : Topic) : String :=
  String.join ((helpLines topic).map (· ++ "\n"))

/-- What is said about arguments that make no request. -/
def misuseText : String :=
  "error: the arguments make no request\n\n" ++
    "Usage: keyblob [OPTIONS] <COMMAND>\n\n" ++
    "For more information, try '--help'.\n"

end Keyring.CommandLine
