import Tunables.Path

/-!
Configurations: where the keys lie, which file `-p` applies, where the audit log goes. A
configuration remembers which of its items were given, and a configuration merged on top wins in
those.
-/

namespace Tunables

inductive Item
  | root
  | preload
  | log
  deriving DecidableEq, Repr

namespace Item

def text : Item → Text
  | root => "root".text
  | preload => "preload".text
  | log => "log".text

def ofText? (text : Text) : Option Item := [root, preload, log].find? (·.text = text)

end Item

structure Items where
  root : Bool
  preload : Bool
  log : Bool
  deriving DecidableEq, Repr

namespace Items

def empty : Items := ⟨false, false, false⟩

def contains (items : Items) : Item → Bool
  | .root => items.root
  | .preload => items.preload
  | .log => items.log

def insert (item : Item) (items : Items) : Items :=
  match item with
  | .root => { items with root := true }
  | .preload => { items with preload := true }
  | .log => { items with log := true }

def union (first second : Items) : Items :=
  ⟨first.root || second.root, first.preload || second.preload, first.log || second.log⟩

end Items

structure Config where
  root : Path
  preload : Path
  log : Option Path
  given : Items
  deriving DecidableEq, Repr

namespace Config

def standard : Config where
  root := ⟨.root, ["proc".text, "sys".text]⟩
  preload := ⟨.root, ["etc".text, "sysctl.conf".text]⟩
  log := none
  given := .empty

def set (item : Item) (path : Path) (config : Config) : Config :=
  let config := { config with given := config.given.insert item }
  match item with
  | .root => { config with root := path }
  | .preload => { config with preload := path }
  | .log => { config with log := some path }

def merge (base overlay : Config) : Config where
  root := if overlay.given.root then overlay.root else base.root
  preload := if overlay.given.preload then overlay.preload else base.preload
  log := if overlay.given.log then overlay.log else base.log
  given := base.given.union overlay.given

end Config

end Tunables
