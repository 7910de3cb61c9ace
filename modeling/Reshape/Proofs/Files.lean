import Mathlib.Data.List.Basic
import Reshape.Host.Desk
import Reshape.Proofs.Results

/-!
# Files of a host

A host keeps its files if looking and reading change nothing and a file that has been written is
there and holds its text: `Host.Keeps`. A desk does (`Desk.host_keeps`), whatever path a file is
written under:

* `Desk.isDirectory_dropLast`: what holds a directory is a directory;
* `Desk.walk_put`: a file that is put where no directory is stays out of the way of every walk
  between directories;
* `Desk.held_of_write`: the path that a file was written under leads to it.
-/

namespace Reshape

/-- What the paths of a machine lead to. -/
structure Files where
  presence : (path : String) → Presence
  text : (path : String) → Except FileFault String

/-- Whether a host whose states hold `files` keeps them. -/
structure Host.Keeps {σ : Type} (host : Host (StateM σ)) (files : σ → Files) : Prop where
  looked (path : String) (s : σ) : (host.presence path).run s = ((files s).presence path, s)
  read (path : String) (s : σ) : (host.read path).run s = ((files s).text path, s)
  written {path content : String} {s s' : σ} :
    (host.write path content).run s = (.ok (), s') →
      (files s').presence path = .file ∧ (files s').text path = .ok content

namespace Desk

open Results (bind_eq_ok)

variable {desk : Desk} {place path parts : List String}

/-- What the paths of a desk lead to. -/
def held (desk : Desk) : Files := ⟨desk.presence, desk.read⟩

theorem joined_concat (parts : List String) (name : String) (inside : parts ≠ []) :
    joined (parts ++ [name]) = joined parts ++ "/" ++ name := by
  rw [joined, String.intercalate_append_of_ne_nil inside (List.cons_ne_nil name []),
    String.intercalate_singleton, joined]

/-- A place that files lie below is a directory, and so is the desk. -/
theorem isDirectory_iff : desk.isDirectory parts = true ↔
    parts = [] ∨ ∃ name ∈ desk.files.keys, (joined parts ++ "/").toList <+: name.toList := by
  simp only [isDirectory, Bool.or_eq_true, List.isEmpty_iff, List.any_eq_true,
    List.isPrefixOf_iff_prefix]

/-- What holds a directory is a directory. -/
theorem isDirectory_dropLast (directory : desk.isDirectory parts = true) :
    desk.isDirectory parts.dropLast = true := by
  obtain rfl | ⟨outer, last, rfl⟩ := List.eq_nil_or_concat' parts
  · exact directory
  rw [List.dropLast_concat]
  obtain rfl | inside := eq_or_ne outer []
  · exact isDirectory_iff.2 (.inl rfl)
  obtain root | ⟨name, present, below⟩ := isDirectory_iff.1 directory
  · exact absurd root (by simp)
  · refine isDirectory_iff.2 (.inr ⟨name, present, .trans ?_ below⟩)
    rw [joined_concat outer last inside]
    simp [String.toList_append]

/-! ## Putting a file -/

/-- The desk with a file at `place` made or replaced. -/
def put (desk : Desk) (place : List String) (content : String) : Desk :=
  { desk with files := desk.files.insert (joined place) content }

theorem isFile_put (desk : Desk) (place : List String) (content : String) (parts : List String) :
    (desk.put place content).isFile parts =
      (desk.isFile parts || joined place == joined parts) := by
  simp only [isFile, put, Keyed.contains, Keyed.get?_insert]
  split
  · rename_i same
    simp [same]
  · rename_i other
    simp [other]

theorem isDirectory_put (directory : desk.isDirectory parts = true) (place : List String)
    (content : String) : (desk.put place content).isDirectory parts = true := by
  obtain root | ⟨name, present, below⟩ := isDirectory_iff.1 directory
  · exact isDirectory_iff.2 (.inl root)
  · refine isDirectory_iff.2 (.inr ⟨name, ?_, below⟩)
    rw [put, Keyed.keys_insert]
    split
    · exact present
    · exact List.mem_append_left _ present

/-- Whether something is at this place. -/
def Stands (desk : Desk) (parts : List String) : Prop :=
  desk.isFile parts = true ∨ desk.isDirectory parts = true

theorem Stands.put (stands : desk.Stands parts) (place : List String) (content : String) :
    (desk.put place content).Stands parts := by
  obtain file | directory := stands
  · exact .inl (by rw [isFile_put, file, Bool.true_or])
  · exact .inr (isDirectory_put directory place content)

/-- Whether a walk may go on from this place: no file is there. -/
def Passable (desk : Desk) (parts : List String) : Prop := parts = [] ∨ desk.isFile parts = false

theorem passable_iff :
    desk.Passable parts ↔ (!parts.isEmpty && desk.isFile parts) = false := by
  simp [Passable, or_iff_not_imp_left]

theorem Passable.isDirectory (passable : desk.Passable place) (stands : desk.Stands place) :
    desk.isDirectory place = true := by
  obtain rfl | noFile := passable
  · exact isDirectory_iff.2 (.inl rfl)
  · refine stands.resolve_left ?_
    rw [noFile]
    nofun

/-- A directory stays passable when a file is put where no directory is. -/
theorem Passable.put {new : List String} (free : desk.isDirectory new = false)
    (stands : desk.Stands place) (passable : desk.Passable place) (content : String) :
    (desk.put new content).Passable place := by
  refine or_iff_not_imp_left.2 fun inside => ?_
  have other : joined new ≠ joined place := by
    intro same
    obtain root | ⟨name, present, below⟩ := isDirectory_iff.1 (passable.isDirectory stands)
    · exact inside root
    · rw [← same] at below
      rw [isDirectory_iff.2 (.inr ⟨name, present, below⟩)] at free
      cases free
  rw [isFile_put, passable.resolve_left inside, Bool.false_or, beq_eq_false_iff_ne]
  exact other

theorem walk_cons_iff {part : String} {there : List String} :
    desk.walk place (part :: path) = .ok there ↔
      desk.Passable place ∧
        ((part = "" ∨ part = ".") ∧ desk.walk place path = .ok there ∨
          part = ".." ∧ place ≠ [] ∧ desk.walk place.dropLast path = .ok there ∨
          part ≠ "" ∧ part ≠ "." ∧ part ≠ ".." ∧ desk.Stands (place ++ [part]) ∧
            desk.walk (place ++ [part]) path = .ok there) := by
  have stands : desk.Stands (place ++ [part]) ↔
      (desk.isFile (place ++ [part]) || desk.isDirectory (place ++ [part])) = true := by
    rw [Stands, Bool.or_eq_true]
  rw [walk, passable_iff, stands]
  split
  · rename_i blocked
    simp [blocked]
  rename_i free
  rw [Bool.not_eq_true] at free
  simp only [free, true_and]
  split
  · rename_i here
    obtain rfl | rfl := here
    · simp
    · simp
  rename_i notHere
  obtain ⟨named, notHere⟩ := not_or.1 notHere
  split
  · rename_i up
    subst up
    split <;> simp_all
  · rename_i notUp
    simp only [named, notHere, notUp]
    split <;> simp_all

/-- A walk between places that stand is not changed by a file put where no directory is, and ends
where something stands. -/
theorem walk_put {new : List String} (free : desk.isDirectory new = false) (content : String)
    {there : List String} (stands : desk.Stands place)
    (walked : desk.walk place path = .ok there) :
    desk.Stands there ∧ (desk.put new content).walk place path = .ok there := by
  induction path generalizing place with
  | nil =>
    cases walked
    exact ⟨stands, rfl⟩
  | cons part path ih =>
    obtain ⟨passable, step⟩ := walk_cons_iff.1 walked
    have goes := passable.put free stands content
    obtain ⟨skipped, rest⟩ | ⟨up, inside, rest⟩ | ⟨named, notHere, notUp, next, rest⟩ := step
    · obtain ⟨ends, same⟩ := ih stands rest
      exact ⟨ends, walk_cons_iff.2 ⟨goes, .inl ⟨skipped, same⟩⟩⟩
    · obtain ⟨ends, same⟩ := ih (.inr (isDirectory_dropLast (passable.isDirectory stands))) rest
      exact ⟨ends, walk_cons_iff.2 ⟨goes, .inr (.inl ⟨up, inside, same⟩)⟩⟩
    · obtain ⟨ends, same⟩ := ih next rest
      exact ⟨ends, walk_cons_iff.2
        ⟨goes, .inr (.inr ⟨named, notHere, notUp, next.put new content, same⟩)⟩⟩

theorem walk_append (desk : Desk) (place first rest : List String) :
    desk.walk place (first ++ rest) =
      desk.walk place first >>= fun there => desk.walk there rest := by
  induction first generalizing place with
  | nil => rfl
  | cons part first ih =>
    simp only [List.cons_append, walk, ih]
    split
    · rfl
    split
    · rfl
    split
    · split <;> rfl
    · split <;> rfl

/-! ## Writing -/

/-- A file is put into the place that the path leads to, where no directory is. -/
theorem write_eq_ok {desk' : Desk} {path content : String}
    (written : desk.write path content = .ok desk') :
    ∃ parts directory name, parts? path = .ok (parts ++ [name]) ∧
      desk.walk [] parts = .ok directory ∧ desk.Passable directory ∧
      (name ≠ "" ∧ name ≠ "." ∧ name ≠ "..") ∧ desk.isDirectory (directory ++ [name]) = false ∧
      desk' = desk.put (directory ++ [name]) content := by
  obtain ⟨parts, read, rest⟩ := bind_eq_ok.1 written
  obtain ⟨directory, walked, rest⟩ := bind_eq_ok.1 rest
  split at rest
  · cases rest
  rename_i passable
  dsimp only at rest
  split at rest
  · cases rest
  rename_i proper
  cases rest
  simp only [not_or, Bool.not_eq_true] at passable proper
  obtain ⟨named, notHere, notUp, free⟩ := proper
  cases last : parts.getLast? with
  | none =>
    rw [last] at named
    exact absurd rfl named
  | some name =>
    rw [last] at named notHere notUp free
    refine ⟨parts.dropLast, directory, name, ?_, walked, passable_iff.2 passable,
      ⟨named, notHere, notUp⟩, free, rfl⟩
    rw [read, List.dropLast_append_getLast? name last]

/-- The path that a file was written under leads to it. -/
theorem held_of_write {desk' : Desk} {path content : String}
    (written : desk.write path content = .ok desk') :
    desk'.held.presence path = .file ∧ desk'.held.text path = .ok content := by
  obtain ⟨parts, directory, name, read, walked, passable, ⟨named, notHere, notUp⟩, free, rfl⟩ :=
    write_eq_ok written
  have root : desk.Stands [] := .inr (isDirectory_iff.2 (.inl rfl))
  obtain ⟨stands, same⟩ := walk_put free content root walked
  have file : (desk.put (directory ++ [name]) content).isFile (directory ++ [name]) = true := by
    simp [isFile_put]
  have last : (desk.put (directory ++ [name]) content).walk directory [name] =
      .ok (directory ++ [name]) :=
    walk_cons_iff.2
      ⟨passable.put free stands content, .inr (.inr ⟨named, notHere, notUp, .inl file, rfl⟩)⟩
  have whole : (desk.put (directory ++ [name]) content).walk [] (parts ++ [name]) =
      .ok (directory ++ [name]) := by
    rw [walk_append, same]
    exact last
  have leads : (parts? path >>= (desk.put (directory ++ [name]) content).walk []) =
      .ok (directory ++ [name]) := bind_eq_ok.2 ⟨_, read, whole⟩
  have kept : (desk.put (directory ++ [name]) content).files.get? (joined (directory ++ [name])) =
      some content := by
    rw [Desk.put, Keyed.get?_insert, if_pos rfl]
  have inside : (directory ++ [name]).isEmpty = false := by simp
  constructor
  · simp only [held, presence, leads, inside, file]
    rfl
  · simp only [held]
    rw [Desk.read, bind_eq_ok]
    refine ⟨parts ++ [name], read, bind_eq_ok.2 ⟨directory ++ [name], whole, ?_⟩⟩
    simp only [kept, inside]
    rfl

theorem run_write (environment : Environment) (desk : Desk) (path content : String) :
    ((host environment).write path content).run desk =
      match desk.write path content with
      | .ok made => (.ok (), made)
      | .error fault => (.error fault, desk) := by
  simp only [host, StateT.run_bind, StateT.run_get, pure_bind]
  cases desk.write path content with
  | ok made => rfl
  | error fault => rfl

/-- A desk keeps its files. -/
theorem host_keeps (environment : Environment) : (host environment).Keeps Desk.held where
  looked _ _ := rfl
  read _ _ := rfl
  written := by
    intro path content desk desk' written
    rw [run_write] at written
    split at written
    · rename_i made result
      cases written
      exact held_of_write result
    · cases written

end Desk

end Reshape
