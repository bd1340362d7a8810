import Litmus.Settings.Standard
import Litmus.Source.Reader
import Litmus.Text.Escape

/-!
# The texts on the use of the program

The hint that follows a command line that makes no sense, and the help text.
-/

namespace Litmus

/-- The hint on the use of the program. -/
def usageText : String :=
  "usage: litmus [-h] [--config <config file>] [-o <file>] [--output-dir <directory>]\n"
    ++ "              [--keep-going] [-j <number>] [-v <integer level>] [--time]\n"
    ++ "              [<litmus files> ...]\n"

/-- The extensions of the files that can be compiled, for the help text. -/
def extensionsText : String :=
  String.intercalate ", " ((TestFormat.litmus.extensions?.getD []).map ("*." ++ ·))

/-- The help text. -/
def helpText : String :=
  usageText ++ "\n" ++ Text.bold "Litmus tests for SMT-based checkers" ++ "\n\n"
    ++ "options:\n"
    ++ "  -h, --help            show this help message and exit\n\n"
    ++ "input options:\n"
    ++ "  <litmus files>        litmus tests to compile (" ++ extensionsText ++ ").\n"
    ++ "  --config <config file>\n"
    ++ "                        configuration file providing default option values.\n\n"
    ++ "output options:\n"
    ++ "  -o <file>, --output <file>\n"
    ++ "                        writes the records to a file instead of the standard output.\n"
    ++ "  --output-dir <directory>\n"
    ++ "                        writes one record per test in the given directory.\n\n"
    ++ "run options:\n"
    ++ "  --keep-going          skips tests that cannot be compiled instead of stopping.\n"
    ++ "  -j <number>, --processes <number>\n"
    ++ "                        number of tests that may be compiled at a time.\n"
    ++ "  -v <integer level>, --verbosity <integer level>\n"
    ++ "                        verbosity level.\n"
    ++ "  --time                prints time for every test.\n\n"
    ++ "Every option can also be set in the [" ++ Settings.generalSection ++ "] section of a\n"
    ++ "configuration file passed with --config, by its long name with dashes replaced by\n"
    ++ "underscores. A value on the command line comes before one in the configuration file,\n"
    ++ "and that before the default.\n"

end Litmus
