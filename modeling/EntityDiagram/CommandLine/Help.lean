/-!
# Usage, help and version

The texts fit a terminal of eighty columns.
-/

namespace EntityDiagram

def version : String := "0.1.0"

namespace CommandLine

def programName : String := "schema-to-d2"

def usage : String :=
  "usage: " ++ programName ++ " [-h] --input INPUT [--output-dir OUTPUT_DIR]\n" ++
    "                    [--entity ENTITY] [--random-names] [--emit-source]\n" ++
    "                    [--d2-bin D2_BIN] [--debug]\n"

def help : String :=
  usage ++ "\nCommand line interface for rendering models YAML as D2 ER diagrams.\n" ++
    "\noptions:\n" ++
    "  -h, --help            show this help message and exit\n" ++
    "  --input INPUT         Path to the models YAML file.\n" ++
    "  --output-dir OUTPUT_DIR\n" ++
    "                        Directory for the generated SVG files (default:\n" ++
    "                        current directory).\n" ++
    "  --entity ENTITY       Model to include; repeat for several. Defaults to\n" ++
    "                        every model in the file.\n" ++
    "  --random-names        Use random suffixes for nested tables instead of path\n" ++
    "                        hashes.\n" ++
    "  --emit-source         Also write the D2 source next to each SVG.\n" ++
    "  --d2-bin D2_BIN       d2 executable (default: d2).\n" ++
    "  --debug               Log debug output and print the diagrams.\n"

end CommandLine

end EntityDiagram
