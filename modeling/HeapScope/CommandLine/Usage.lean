/-!
# What the command line looks like

The command line is made of the name of a command, what the command needs, and options that can
stand on either side of the command's name. Each place has a page of help.
-/

namespace HeapScope.CommandLine

/-- Where an argument stands: outside of any command, or behind the name of one. -/
inductive Place where
  | outside | attach | inspect
deriving DecidableEq, Repr

/-- The options that take a value. -/
inductive Setting where
  | target | maxString | maxPreview | maxDepth | pid
deriving DecidableEq, Repr

/-- The name of a setting. -/
def Setting.name : Setting → String
  | .target => "target"
  | .maxString => "max-string"
  | .maxPreview => "max-preview"
  | .maxDepth => "max-depth"
  | .pid => "pid"

/-- What an option asks for. -/
inductive Switch where
  | setting (setting : Setting)
  | verbose
  | help
  | version
deriving DecidableEq, Repr

namespace Place

/-- The options that can stand at every place. -/
def commonSwitches : List (String × Switch) :=
  [("target", .setting .target), ("max-string", .setting .maxString),
   ("max-preview", .setting .maxPreview), ("max-depth", .setting .maxDepth),
   ("verbose", .verbose), ("help", .help)]

/-- The options by their long names. -/
def longSwitches : Place → List (String × Switch)
  | outside => commonSwitches ++ [("version", .version)]
  | attach => ("pid", .setting .pid) :: commonSwitches
  | inspect => commonSwitches

/-- The options by their letters. -/
def shortSwitches : Place → List (Char × Switch)
  | outside => [('v', .verbose), ('h', .help), ('V', .version)]
  | attach => [('p', .setting .pid), ('v', .verbose), ('h', .help)]
  | inspect => [('v', .verbose), ('h', .help)]

end Place

/-- The pages of help: one for each place, and one on how to ask for help. -/
inductive Page where
  | about (place : Place)
  | help
deriving DecidableEq, Repr

namespace Page

/-- The options of every page. -/
def commonOptions : List String :=
  ["      --target <TARGET>            "
     ++ "Kotlin/Native target (linux, osx, ios, raspberrypi, macbook, host, ...) [default: linux]",
   "      --max-string <MAX_STRING>    "
     ++ "Maximum number of UTF-16 code units shown for a string [default: 1024]",
   "      --max-preview <MAX_PREVIEW>  "
     ++ "Maximum number of array elements shown in a summary [default: 16]",
   "      --max-depth <MAX_DEPTH>      Maximum nesting depth of element summaries [default: 3]",
   "  -v, --verbose                    Enable debug logging",
   "  -h, --help                       Print help"]

/-- The lines of a page. -/
def lines : Page → List String
  | .about .outside =>
    ["Inspect values, types and exceptions of Kotlin/Native processes", "",
     "Usage: konan [OPTIONS] <COMMAND>", "",
     "Commands:",
     "  attach   Attach to an existing process",
     "  inspect  Read symbols and type metadata of a binary without a process",
     "  help     Print this message or the help of the given subcommand(s)", "",
     "Options:"] ++ commonOptions
      ++ ["  -V, --version                    Print version"]
  | .about .attach =>
    ["Attach to an existing process", "",
     "Usage: konan attach [OPTIONS] --pid <PID> <BINARY>", "",
     "Arguments:",
     "  <BINARY>  Path to the executable binary", "",
     "Options:",
     "  -p, --pid <PID>                  Process ID to attach to"] ++ commonOptions
  | .about .inspect =>
    ["Read symbols and type metadata of a binary without a process", "",
     "Usage: konan inspect [OPTIONS] <BINARY>", "",
     "Arguments:",
     "  <BINARY>  Path to the executable binary or shared library", "",
     "Options:"] ++ commonOptions
  | .help =>
    ["Print this message or the help of the given subcommand(s)", "",
     "Usage: konan help [COMMAND]...", "",
     "Arguments:",
     "  [COMMAND]...  Print help for the subcommand(s)"]

end Page

/-- The name and version of the program. -/
def versionLine : String := "konan 0.1.0"

end HeapScope.CommandLine
