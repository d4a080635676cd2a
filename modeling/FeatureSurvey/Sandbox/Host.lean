import FeatureSurvey.Sandbox.Start

/-!
# `Sandbox/Host.lean` — a sandbox world as a host

Every operation of a host, on the tree and by the clock of a sandbox world.
-/

set_option autoImplicit false

namespace FeatureSurvey.Sandbox

instance : Host World where
  environment? w name := w.valueOf? name
  workingDirectory w :=
    match w.tree.entryAt? w.here with
    | some .directory => .ok (Tree.pathOf w.here)
    | _ => .error .notFound
  entryKind? w path := w.tree.kind? w.here path
  readFile w path := w.tree.read w.here path
  listDirectory w path := w.tree.list w.here path
  canonicalPath w path := (w.tree.find w.here path).map fun found => Tree.pathOf found.1
  uptime w := w.clock / 1000
  wallClock w := w.began + (w.clock / 1000 : Nat)
  run := runCommand
  writeFile path bytes := World.change fun t here => t.write here path bytes
  appendFile path bytes := World.change fun t here => t.append here path bytes
  copyFile source dest := World.change fun t here => t.copy here source dest
  makeDirectories path := fun w =>
    let (result, tree) := w.tree.layPath w.here path
    (result, { w with tree })
  removeTree path := World.change fun t here => t.removeDirectory here path
  makeTemporary front := fun w => w.makeTemporary front
  temporaryRoot w := w.temporaryRoot

end FeatureSurvey.Sandbox
