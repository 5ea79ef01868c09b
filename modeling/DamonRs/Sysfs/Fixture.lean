import DamonRs.Sysfs.World

/-!
# Concrete hierarchies

Files given by their values, and an environment that leaves the hierarchy
alone, to run the model on.
-/

namespace DamonRs

open Library

namespace Files

/-- The files of a list of paths, values and permissions; the first of a path counts. -/
def ofAttributes (attributes : List (Path × String × Bool)) : Files where
  store := Store.empty.insertAll ((attributes.filter fun entry =>
    entry.1.length < pathDepth).map fun (path, value, writable) =>
      (path, ⟨.text (.ofWritten value), writable⟩))
  addressable := by
    intro path member
    rw [← Store.get?_isSome, Store.get?_insertAll] at member
    have none : (Store.empty : Store Path File).get? path = none := rfl
    rw [none, Option.none_or, Store.find_isSome, List.map_map] at member
    obtain ⟨entry, kept, rfl⟩ := List.mem_map.mp member
    simpa using (List.mem_filter.mp kept).2

end Files

/-- A hierarchy of which no kdamond runs on other inputs than those staged. -/
def System.settled (files : Files) : System := ⟨files, files.get?⟩

/-- An environment in which nothing else happens and no access fails. -/
def Env.calm (kernel : Kernel) (pid : Pid) : Env where
  kernel := kernel
  interfere := fun _ sys => sys
  fault := fun _ _ => none
  freshPid := fun _ => pid
  lockHeld := fun _ => false
  bootId := "00000000-0000-0000-0000-000000000000"
  pageSize := 4096

/-- A kernel whose indexed children have no attributes. -/
def Kernel.bare : Kernel := ⟨fun _ _ => []⟩

end DamonRs
