import FrameSchema.Files
import FrameSchema.Proofs.Success
import FrameSchema.Proofs.Wire.TableView

/-!
# Proofs/Files — a file that was written reads back, and nothing else is changed

A path is followed through folders, and what is written is no folder, so the steps to a file are the
same before and after it is written (`FileTree.follow_put`).
-/

namespace FrameSchema.FileTree

variable {tree : FileTree} {dest : List String}

/-! ## Entries -/

/-- What stands under another key is found without the pairs of a key. -/
theorem lookup_filter_of_ne {α β : Type} [BEq α] [LawfulBEq α] {k j : α} (h : k ≠ j) :
    ∀ l : List (α × β), (l.filter (·.1 != j)).lookup k = l.lookup k
  | [] => rfl
  | (i, b) :: l => by
      rw [List.filter_cons]
      split
      · rw [List.lookup_cons, List.lookup_cons, lookup_filter_of_ne h]
      · rename_i hi
        obtain rfl : i = j := by simpa using hi
        rw [List.lookup_cons, beq_false_of_ne h, lookup_filter_of_ne h]

/-- What is put somewhere leaves all other places as they are. -/
theorem entry?_put_of_ne {other : List String} (h : other ≠ dest) (entry : Entry) :
    FileTree.entry? (tree.put dest entry) other = tree.entry? other := by
  have hlookup : (tree.put dest entry).entries.lookup other = tree.entries.lookup other := by
    rw [put, List.lookup_cons, beq_false_of_ne h, lookup_filter_of_ne h]
  unfold FileTree.entry?
  rw [hlookup]
  rfl

/-- What is put somewhere is found there, unless a folder stands in the way. -/
theorem entry?_put_self (h : tree.entry? dest ≠ some .folder) (entry : Entry) :
    FileTree.entry? (tree.put dest entry) dest = some entry := by
  have haway : ¬dest.isPrefixOf tree.home = true := fun hbefore => h (if_pos hbefore)
  exact (if_neg haway).trans List.lookup_cons_self

/-! ## Steps -/

/-- The next step is taken from a folder. -/
theorem follow_cons_of_folder {taken : List String} (h : tree.entry? taken = some .folder)
    (step : String) (steps : List String) :
    tree.follow taken (step :: steps) =
      if step == "" || step == "." then tree.follow taken steps
      else if step == ".." then tree.follow taken.dropLast steps
      else if maxName < step.utf8ByteSize then .error .nameTooLong
      else tree.follow (taken ++ [step]) steps := by
  rw [follow, h]

theorem folder_of_follow_cons {taken : List String} {step : String} {steps : List String}
    (h : tree.follow taken (step :: steps) = .ok dest) : tree.entry? taken = some .folder := by
  rw [follow] at h
  split at h
  · cases h
  · cases h
  · cases h
  · assumption

/-- **Steps lead where they led** after an entry was put there, unless it replaced a folder. -/
theorem follow_put (hdest : tree.entry? dest ≠ some .folder) (entry : Entry) :
    ∀ {taken steps : List String}, tree.follow taken steps = .ok dest →
      (tree.put dest entry).follow taken steps = .ok dest
  | _, [], h => h
  | taken, step :: steps, h => by
      -- A step is taken from a folder, which the replaced entry is not.
      have hfolder := folder_of_follow_cons h
      have hne : taken ≠ dest := fun heq => hdest (heq ▸ hfolder)
      have hfolder' : FileTree.entry? (tree.put dest entry) taken = some .folder := by
        rw [entry?_put_of_ne hne, hfolder]
      rw [follow_cons_of_folder hfolder] at h
      rw [follow_cons_of_folder hfolder']
      split_ifs at h ⊢
      · exact follow_put hdest entry h
      · exact follow_put hdest entry h
      · exact follow_put hdest entry h

/-- What may be written is found by all steps of its path. -/
theorem follow_of_target {path : String} (h : tree.target path = .ok dest) :
    ∃ start, tree.start path = .ok start ∧ tree.follow start (pathSteps path) = .ok dest := by
  rw [target, bind_eq_ok_iff] at h
  obtain ⟨start, hstart, h⟩ := h
  refine ⟨start, hstart, ?_⟩
  dsimp only at h
  split at h
  · exact h
  · obtain ⟨_, -, h⟩ := bind_eq_ok_iff.1 h
    cases h

/-! ## Writing -/

/-- The path leads to a file or to a place where there is nothing yet: not to a folder, nor to a
device that forgets what is written. -/
def Writable (tree : FileTree) (path : String) : Prop :=
  ∃ dest, tree.target path = .ok dest ∧
    tree.entry? dest ≠ some .folder ∧ tree.entry? dest ≠ some .sink

/-- The second tree is the first one with this text, and nothing else, in the file of the path. -/
structure Written (tree : FileTree) (path text : String) (tree' : FileTree) : Prop where
  reads : tree'.readText path = .ok text
  home : tree'.home = tree.home
  entries : ∃ dest, tree.target path = .ok dest ∧
    tree'.entry? dest = some (.file (Octets.ofText text)) ∧
    ∀ other, other ≠ dest → tree'.entry? other = tree.entry? other

/-- **A writable path takes a text**, whatever the file held before. -/
theorem Writable.exists_written {path : String} (h : tree.Writable path) (text : String) :
    ∃ tree', tree.writeText path text = .ok tree' ∧ tree.Written path text tree' := by
  obtain ⟨dest, htarget, hfolder, hsink⟩ := h
  obtain ⟨start, hstart, hfollow⟩ := follow_of_target htarget
  have hself := entry?_put_self hfolder (.file (Octets.ofText text))
  refine ⟨tree.put dest (.file (Octets.ofText text)), ?_, ?_, rfl, dest, htarget, hself, ?_⟩
  · rw [writeText, htarget]
    dsimp only [Bind.bind, Except.bind]
    split
    · exact absurd ‹_› hfolder
    · exact absurd ‹_› hsink
    · rfl
    · rfl
  · have hstart' : (tree.put dest (.file (Octets.ofText text))).start path = .ok start := hstart
    rw [readText, hstart']
    dsimp only [Bind.bind, Except.bind]
    rw [follow_put hfolder _ hfollow]
    dsimp only
    rw [hself]
    dsimp only
    rw [Octets.toText?_ofText]
  · exact fun other hother => entry?_put_of_ne hother _

end FrameSchema.FileTree
