import ExerciseSheet.Files.Tree
import Mathlib.Data.List.Basic

/-!
# Writing files into a directory

Setting one place of a tree changes what stands at that place and nowhere else (`node?_put`), and a
file never takes the place of a directory, so paths that led to a directory before lead to it
afterwards (`walk_put`). Hence a file written into a directory is read back, and every other file of
that directory is as it was (`readFile_writeFile`).
-/

namespace ExerciseSheet

namespace FileTree

variable {tree after : FileTree} {place d : List Text} {node : FileNode} {cwd : List Text}
  {p : FilePath} {name other : Text} {content : Octets}

theorem lookup_setNode (place q : List Text) (node : FileNode) :
    ∀ entries : List (List Text × FileNode),
      (setNode place node entries).lookup q = if q = place then some node else entries.lookup q
  | [] => by
    rw [setNode, List.lookup_cons]
    split_ifs with h
    · simp [h]
    · simp [beq_eq_false_iff_ne.2 h]
  | (other, known) :: entries => by
    unfold setNode
    by_cases ho : other = place
    · subst ho
      rw [if_pos rfl, List.lookup_cons, List.lookup_cons]
      by_cases h : q = other
      · simp [h]
      · simp [h, beq_eq_false_iff_ne.2 h]
    · rw [if_neg ho, List.lookup_cons, List.lookup_cons, lookup_setNode]
      by_cases h : q = place
      · simp [h, beq_eq_false_iff_ne.2 (Ne.symm ho)]
      · simp only [if_neg h]

theorem node?_put (hplace : place ≠ []) (q : List Text) :
    (tree.put place node).node? q = if q = place then some node else tree.node? q := by
  unfold node? put
  rw [lookup_setNode]
  split_ifs with hq hqp hqp
  · rw [hqp, List.isEmpty_iff] at hq
    exact absurd hq hplace
  all_goals rfl

theorem walk_append (ps qs : List Text) : ∀ place,
    tree.walk place (ps ++ qs) = (tree.walk place ps).bind fun q => tree.walk q qs := by
  induction ps with
  | nil => exact fun _ => rfl
  | cons p ps ih =>
    intro place
    rw [List.cons_append, walk, walk]
    rcases tree.node? place with _ | ⟨_ | _⟩
    · rfl
    · rfl
    · simp only []
      split_ifs
      · exact ih _
      · rfl
      · exact ih _

/-- A walk goes through directories only, so it is the same after anything else is set. -/
theorem walk_put (hd : d ≠ []) (hnode : tree.node? d ≠ some .directory) :
    ∀ {ps place q : List Text}, tree.walk place ps = .ok q →
      (tree.put d node).walk place ps = .ok q
  | [], _, _, h => h
  | p :: ps, place, q, h => by
    rw [walk] at h ⊢
    rcases hplace : tree.node? place with _ | ⟨_ | _⟩ <;> rw [hplace] at h
    · cases h
    · cases h
    · have hne : place ≠ d := by
        rintro rfl
        exact hnode hplace
      rw [node?_put hd, if_neg hne, hplace]
      simp only [] at h ⊢
      split_ifs at h ⊢
      · exact walk_put hd hnode h
      · exact walk_put hd hnode h

theorem locate_child (hdirectory : tree.locate cwd p = .ok d) (hname : name ≠ FilePath.parentPart) :
    tree.locate cwd (p.child name) = match tree.node? d with
      | none => .error .absent
      | some (.file _) => .error .notDirectory
      | some .directory =>
        if nameLimit < name.utf8.length then .error .nameTooLong else .ok (d ++ [name]) := by
  unfold locate at hdirectory ⊢
  rw [FilePath.child, walk_append, hdirectory]
  change tree.walk d [name] = _
  rcases hnode : tree.node? d with _ | ⟨_ | _⟩ <;> simp only [walk, hnode, if_neg hname]

theorem placeToWrite_eq_ok {place : List Text} (h : tree.placeToWrite cwd p = .ok place) :
    tree.locate cwd p = .ok place ∧ tree.node? place ≠ some .directory := by
  unfold placeToWrite at h
  rcases hplace : tree.locate cwd p with r | d <;> rw [hplace] at h
  · cases h
  · rcases hnode : tree.node? d with _ | ⟨_ | _⟩ <;> simp only [hnode] at h
    · split_ifs at h <;> cases h
      exact ⟨rfl, by simp [hnode]⟩
    · split_ifs at h <;> cases h
      exact ⟨rfl, by simp [hnode]⟩
    · cases h

/-- A file that is written in a directory is the only thing that changes. -/
theorem writeFile_child_eq_ok (hname : name ≠ FilePath.parentPart)
    (h : tree.writeFile cwd (p.child name) content = .ok after) :
    ∃ d, tree.locate cwd p = .ok d ∧ tree.node? d = some .directory
      ∧ name.utf8.length ≤ nameLimit ∧ tree.node? (d ++ [name]) ≠ some .directory
      ∧ after = tree.put (d ++ [name]) (.file content) := by
  rcases hwrite : tree.placeToWrite cwd (p.child name) with f | place <;>
    rw [writeFile, hwrite] at h <;> cases h
  obtain ⟨hlocate, hfree⟩ := placeToWrite_eq_ok hwrite
  rcases hp : tree.locate cwd p with r | d
  · have hchild : tree.locate cwd (p.child name) = .error r := by
      unfold locate at hp ⊢
      rw [FilePath.child, walk_append, hp]
      rfl
    cases hchild.symm.trans hlocate
  · refine ⟨d, rfl, ?_⟩
    rw [locate_child hp hname] at hlocate
    rcases hd : tree.node? d with _ | ⟨_ | _⟩ <;> simp only [hd] at hlocate
    · cases hlocate
    · cases hlocate
    · split_ifs at hlocate with hlong
      cases hlocate
      exact ⟨rfl, Nat.not_lt.1 hlong, hfree, rfl⟩

theorem readFile_child (hdirectory : tree.locate cwd p = .ok d)
    (hnode : tree.node? d = some .directory) (hname : name ≠ FilePath.parentPart) :
    tree.readFile cwd (p.child name) =
      if nameLimit < name.utf8.length then refuse (p.child name) .nameTooLong
      else match tree.node? (d ++ [name]) with
        | none => refuse (p.child name) .absent
        | some .directory => refuse (p.child name) .isDirectory
        | some (.file content) => .ok content := by
  unfold readFile
  rw [locate_child hdirectory hname, hnode]
  by_cases hlong : nameLimit < name.utf8.length
  · simp only [if_pos hlong]
  · rcases hchild : tree.node? (d ++ [name]) with _ | ⟨_ | _⟩ <;> simp only [if_neg hlong, hchild]

/-- What is read in a directory after a file is written there: that file, or what was there. -/
theorem readFile_writeFile (hname : name ≠ FilePath.parentPart)
    (hother : other ≠ FilePath.parentPart)
    (h : tree.writeFile cwd (p.child name) content = .ok after) :
    after.readFile cwd (p.child other)
      = if other = name then .ok content else tree.readFile cwd (p.child other) := by
  obtain ⟨d, hd, hnode, hshort, hfree, rfl⟩ := writeFile_child_eq_ok hname h
  have hplace : d ++ [name] ≠ [] := by simp
  have hd' : (tree.put (d ++ [name]) (.file content)).locate cwd p = .ok d :=
    walk_put hplace hfree hd
  have hnode' : (tree.put (d ++ [name]) (.file content)).node? d = some .directory := by
    rw [node?_put hplace, if_neg (by simp), hnode]
  rw [readFile_child hd' hnode' hother, node?_put hplace]
  by_cases heq : other = name
  · subst heq
    rw [if_neg (Nat.not_lt.2 hshort), if_pos rfl, if_pos rfl]
  · have hne : d ++ [other] ≠ d ++ [name] := by simpa using heq
    rw [if_neg hne, if_neg heq, readFile_child hd hnode hother]

end FileTree

end ExerciseSheet
