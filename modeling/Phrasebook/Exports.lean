import Phrasebook.Text.Quoted

/-!
# Exports

The parts of the library can be asked for by name. A public part answers with its own name, and so
does each operation that every package has; a module answers with a name below that of the package.
The package's texts, tables and flags can be asked for as well, but have no name of their own.
-/

namespace Phrasebook.Exports

def package : Text :=
  "droptables_l10n".toList

def parts : List Text :=
  ["Any", "BoundaryPolicy", "Language", "MarkupTextWalker", "MatchAutomaton", "Substitutor",
    "TranslationIndex", "build_site", "collect_patterns", "update_and_build"].map String.toList

def modules : List Text :=
  ["cli", "config", "constants", "dictionary", "markup", "matching", "site",
    "update"].map String.toList

/-- The operations of a package. -/
def operations : List Text :=
  ["__delattr__", "__dir__", "__eq__", "__format__", "__ge__", "__getattr__", "__getattribute__",
    "__getstate__", "__gt__", "__hash__", "__init__", "__init_subclass__", "__le__", "__lt__",
    "__ne__", "__new__", "__reduce__", "__reduce_ex__", "__repr__", "__setattr__", "__sizeof__",
    "__str__", "__subclasshook__"].map String.toList

/-- The class of a package, and the name of that class. -/
def kind : Text × Text :=
  ("__class__".toList, "module".toList)

/-- The texts, tables and flags of a package. -/
def nameless : List Text :=
  ["TYPE_CHECKING", "__all__", "__annotations__", "__builtins__", "__cached__", "__dict__",
    "__doc__", "__file__", "__loader__", "__name__", "__package__", "__path__", "__spec__",
    "annotations"].map String.toList

/-- A name that is no part's. -/
structure Unknown where
  name : Text

def Unknown.message (u : Unknown) : Text :=
  "module ".toList ++ package.quoted ++ " has no attribute ".toList ++ u.name.quoted

/-- The full name of the part that is asked for, if it has one. -/
def find (name : Text) : Except Unknown (Option Text) :=
  if parts.contains name || operations.contains name then .ok (some name)
  else if modules.contains name then .ok (some (package ++ '.' :: name))
  else if name = kind.1 then .ok (some kind.2)
  else if nameless.contains name then .ok none
  else .error ⟨name⟩

end Phrasebook.Exports
