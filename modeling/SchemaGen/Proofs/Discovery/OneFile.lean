import SchemaGen.Proofs.Discovery.Finding
import SchemaGen.Proofs.File.Walks

/-!
# A directory with one file

The smallest schema tree that bears a fragment. A search below it finds what its
one text holds (`discover_shelf`).
-/

namespace SchemaGen

open SchemaGen.File
open SchemaGen.Yaml (Value)

/-- A schema directory with one file of the name. -/
def oneFile (name text : String) : Disk :=
  { items := [(["work"], .directory), (["work", "schemas"], .directory),
      (["work", "schemas", name], .file text.toUTF8)]
    home := ["work"] }

namespace OneFile

variable {name : String} (proper : ProperName name) (text : String)

include proper

theorem tree : (oneFile name text).Tree where
  distinct := by
    change [["work"], ["work", "schemas"], ["work", "schemas", name]].Nodup
    simp
  inside := by
    simp only [oneFile, List.forall_mem_cons]
    exact ⟨rfl, rfl, rfl, nofun⟩
  named := by
    simp only [oneFile, List.forall_mem_cons]
    exact ⟨by decide, by decide, by simpa using ⟨by decide, by decide, proper⟩, nofun⟩
  shut := nofun
  solid := by
    simp only [oneFile, List.forall_mem_cons]
    exact ⟨nofun, nofun, nofun, nofun⟩

theorem walk : (oneFile name text).walk ⟨"schemas"⟩ =
    [.directory ⟨"schemas"⟩, .file (FilePath.join ⟨"schemas"⟩ name)] := by
  have located : (oneFile name text).locate true ⟨"schemas"⟩ = .ok ["work", "schemas"] := rfl
  have held : (oneFile name text).namesIn ["work", "schemas"] = [name] :=
    Disk.namesIn_eq rfl (List.pairwise_singleton _ _)
  refine (tree proper text).walk_files located rfl rfl held fun other listed => ?_
  rw [List.mem_singleton.mp listed]
  exact ⟨text.toUTF8, ((tree proper text).wellFormed.mem_items_iff (by simp)).mp (by simp [oneFile])⟩

end OneFile

/-- A schema directory with one file. -/
def shelf (text : String) : Disk :=
  { items := [(["work"], .directory), (["work", "schemas"], .directory),
      (["work", "schemas", "order.yaml"], .file text.toUTF8)]
    home := ["work"] }

namespace Shelf

variable (text : String)

theorem tree : (shelf text).Tree :=
  OneFile.tree (by decide) text

theorem walk : (shelf text).walk ⟨"schemas"⟩ =
    [.directory ⟨"schemas"⟩, .file ⟨"schemas/order.yaml"⟩] :=
  OneFile.walk (by decide) text

theorem readText : (shelf text).readText ⟨"schemas/order.yaml"⟩ = .ok text :=
  Disk.readText_of_lookup rfl

end Shelf

/-- A search for what is put on a shelf. -/
def Search.sample : Search :=
  ⟨"botecopro_domain", "yaml"⟩

/-- A search finds what the file of a shelf bears. -/
theorem Search.discover_shelf {s : Search} {text : String} {value body : Value}
    (extension : s.extension = "yaml") (parsed : document text = .ok value)
    (marked : s.bodyOf? value = some body) :
    (s.discover (shelf text) ⟨"schemas"⟩).1 = .ok [⟨⟨"schemas/order.yaml"⟩, body⟩] := by
  have there : (shelf text).pathExists ⟨"schemas"⟩ = true := rfl
  have accepted : s.accepts ⟨"schemas/order.yaml"⟩ = true := by
    rw [accepts, extension]
    rfl
  have fragment : s.fragment? (shelf text) ⟨"schemas/order.yaml"⟩ =
      .ok (some ⟨⟨"schemas/order.yaml"⟩, body⟩) := by
    rw [fragment?_of_parses ⟨text, Shelf.readText text, parsed⟩, marked]
    rfl
  rw [discover, if_pos there, Shelf.walk]
  simp only [collect, collectWith, accepted, if_true, fragment]
  rfl

end SchemaGen
