import DistLock.Config.Toml.Document

/-!
# Settings in TOML

The settings of a document in TOML: those at its root, in the order in which
they are first named. A table is a map and a list of tables is a list,
whatever they hold.
-/

namespace DistLock.Toml

/-- The settings of the document that a text is; a byte order mark at its
start is passed over. -/
def read? (s : String) : Option (List (String × SettingValue)) :=
  let cs := match s.toList with
    | '\uFEFF' :: cs => cs
    | cs => cs
  (Document.readLines? (cs.length + 1) {} cs).map Document.entries

end DistLock.Toml
