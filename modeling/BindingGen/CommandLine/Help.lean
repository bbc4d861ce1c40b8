import BindingGen.CommandLine.Arguments

/-!
# Help texts

For every level of the command line the text that explains how to call it.
-/

namespace BindingGen
namespace CommandLine

/-- What a help text says about a level. -/
structure HelpPage where
  about : String
  usage : String
  /-- The names and meanings of the levels inside this one. -/
  commands : List (String × String)
  arguments : List (String × String)
  options : List (String × String)

/-- Rows of two columns under a heading. -/
def helpRows (heading : String) (rows : List (String × String)) : String :=
  if rows.isEmpty then ""
  else
    let width := rows.foldl (fun n row => max n row.1.length) 0
    let line := fun (row : String × String) =>
      "  " ++ row.1 ++ String.ofList (List.replicate (width + 2 - row.1.length) ' ') ++ row.2 ++
        "\n"
    "\n" ++ heading ++ ":\n" ++ String.join (rows.map line)

def HelpPage.text (page : HelpPage) : String :=
  page.about ++ "\n\nUsage: " ++ page.usage ++ "\n" ++ helpRows "Commands" page.commands ++
    helpRows "Arguments" page.arguments ++ helpRows "Options" page.options

def commonOptions : List (String × String) :=
  [("-v, --verbose...", "Increase log verbosity (-v info, -vv debug)"),
    ("    --config <CONFIG>", "Configuration file (default: nearest nativecalls.toml)"),
    ("-h, --help", "Print help")]

def inputArgument : String × String :=
  ("<INPUT>", "Prototypes file, one declaration per line")

def directoryArgument : String × String :=
  ("<OUT_DIR>", "Output directory (created if absent)")

def helpCommand : String × String :=
  ("help", "Print this message or the help of the given subcommand(s)")

def helpPage : Topic → HelpPage
  | .program =>
    { about := "Native call binding generator"
      usage := "nativecalls [OPTIONS] <COMMAND>"
      commands := [("generate", "Generate bindings, reference stubs and the export list"),
        ("exports", "Generate only the linker export list"),
        ("check", "Validate a prototypes file without writing output"),
        ("target", "Inspect target platforms"), helpCommand]
      arguments := []
      options := commonOptions ++ [("-V, --version", "Print version")] }
  | .generate =>
    { about := "Generate bindings, reference stubs and the export list"
      usage := "nativecalls generate [OPTIONS] <INPUT> <OUT_DIR>"
      commands := []
      arguments := [inputArgument, directoryArgument]
      options := ("    --json", "Print the generation report as JSON") :: commonOptions }
  | .exports =>
    { about := "Generate only the linker export list"
      usage := "nativecalls exports [OPTIONS] <INPUT> <OUT_DIR>"
      commands := []
      arguments := [inputArgument, directoryArgument]
      options := commonOptions }
  | .check =>
    { about := "Validate a prototypes file without writing output"
      usage := "nativecalls check [OPTIONS] <INPUT>"
      commands := []
      arguments := [inputArgument]
      options := commonOptions }
  | .target =>
    { about := "Inspect target platforms"
      usage := "nativecalls target [OPTIONS] <COMMAND>"
      commands := [("list", "List configured target platforms"),
        ("describe", "Show details of a target platform"), helpCommand]
      arguments := []
      options := commonOptions }
  | .listTargets =>
    { about := "List configured target platforms"
      usage := "nativecalls target list [OPTIONS]"
      commands := []
      arguments := []
      options := commonOptions }
  | .describeTarget =>
    { about := "Show details of a target platform"
      usage := "nativecalls target describe [OPTIONS] <ID>"
      commands := []
      arguments := [("<ID>", "Platform id (e.g., win-x64)")]
      options := ("    --format <FORMAT>",
        "Output format (default: human-readable, \"toml\" for a catalog entry)") :: commonOptions }

end CommandLine
end BindingGen
