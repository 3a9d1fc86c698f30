import Assay.Json.Reader
import Assay.Machine.Launch

/-! # Machine images -/

namespace Assay.Machine

def addItem (cwd : Place) (tree : FileTree) (x : Json) : Option FileTree := do
  let p : Path := ⟨← (← x.field? "path").text?⟩
  let made : Except SysFault FileTree := do
    if x.isSet "dir" then tree.makeDirectories cwd p
    else
      let tree ← tree.makeDirectories cwd (p.parent?.getD ⟨""⟩)
      match (x.field? "link").bind Json.text? with
      | some t => tree.makeLink cwd p t
      | none => do
        let s := ((x.field? "text").bind Json.text?).getD ""
        let tree ← tree.write cwd p (Text.encode s)
        tree.setExecutable cwd p (x.isSet "exec")
  made.toOption

def ofImage? (cwd : Place) (s : String) : Option FileTree := do
  let xs ← if s.isEmpty then some [] else (Json.parse? s).bind Json.items?
  xs.foldlM (addItem cwd) (baseTree.putDirectories cwd)

end Assay.Machine
