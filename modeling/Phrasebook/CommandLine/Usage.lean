import Phrasebook.CommandLine.Command

/-!
# Usage and help texts

The usage text of a command names its options; the help text also says what each is for.
-/

namespace Phrasebook.CommandLine

/-- The name of the program, followed by that of a command. -/
def programName (verb : Option Verb) : Text :=
  match verb with
  | none => "droptables-l10n".toList
  | some v => "droptables-l10n ".toList ++ v.name

/-- The lines of a text, each of them ended. -/
def ofLines (lines : List String) : Text :=
  lines.flatMap fun line => line.toList ++ ['\n']

def usage : Option Verb → Text
  | none => ofLines ["usage: droptables-l10n [-h] \x7bbuild,update,localize\x7d ..."]
  | some .build => ofLines
    ["usage: droptables-l10n build [-h] [--repo-root REPO_ROOT]",
      "                             [--output-dir OUTPUT_DIR]",
      "                             [--default-language DEFAULT_LANGUAGE] [--summary]",
      "                             [--quiet]"]
  | some .update => ofLines
    ["usage: droptables-l10n update [-h] [--repo-root REPO_ROOT] [--url URL]",
      "                              [--output-dir OUTPUT_DIR] [--force]"]
  | some .localize => ofLines
    ["usage: droptables-l10n localize [-h] --lang LANG [--repo-root REPO_ROOT]",
      "                                [--output OUTPUT] [--quiet]",
      "                                page"]

def helpLine : String :=
  "  -h, --help            show this help message and exit"

def rootLines : List String :=
  ["  --repo-root REPO_ROOT",
    "                        Directory holding the source page and dictionaries",
    "                        (default: .)."]

def directoryLines : List String :=
  ["  --output-dir OUTPUT_DIR",
    "                        Site directory relative to the repository (default:",
    "                        site)."]

def quietLine : String :=
  "  --quiet               Silence progress messages."

/-- What a help text says behind the usage. -/
def details : Option Verb → List String
  | none =>
    ["", "Localize the Warframe drop tables page into every language.", "",
      "positional arguments:", "  \x7bbuild,update,localize\x7d",
      "    build               Generate one localized page per language.",
      "    update              Download the source page and rebuild the site if it",
      "                        changed.",
      "    localize            Localize one page and write it to stdout or a file.", "",
      "options:", helpLine]
  | some .build =>
    ["", "options:", helpLine] ++ rootLines ++ directoryLines
      ++ ["  --default-language DEFAULT_LANGUAGE",
        "                        Language the index page redirects to (default: zh).",
        "  --summary             Print the number of replacements per language.", quietLine]
  | some .update =>
    ["", "options:", helpLine] ++ rootLines
      ++ ["  --url URL             Source page (default:",
        "                        https://www.warframe.com/droptables)."]
      ++ directoryLines
      ++ ["  --force               Rebuild the site even when the page did not change."]
  | some .localize =>
    ["", "positional arguments:", "  page                  Source-language page.", "",
      "options:", helpLine, "  --lang LANG           Target language code."] ++ rootLines
      ++ ["  --output OUTPUT       Destination file (defaults to stdout).", quietLine]

def helpText (verb : Option Verb) : Text :=
  usage verb ++ ofLines (details verb)

/-- What is said about a command line that is no request. -/
def complaint (verb : Option Verb) (m : Misuse) : Text :=
  usage verb ++ programName verb ++ ": error: ".toList ++ m.message ++ ['\n']

end Phrasebook.CommandLine
