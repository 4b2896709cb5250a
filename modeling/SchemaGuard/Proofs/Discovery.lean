import Mathlib.Data.List.Forall2
import SchemaGuard.Proofs.Files
import SchemaGuard.Proofs.NameOrder
import SchemaGuard.Proofs.Outcome

/-! # What discovery finds

A folder is searched to any depth. The files that count are listed once each, with the names that
lead to them, in the order of those names: the entries of every folder come in the order of their
names, and what is below an entry comes where the entry stands. Discovery decodes the files of
that list one after the other.
-/

namespace SchemaGuard

open Table

/-! ## Trees -/

/-- A tree whose folders hold no two entries under one name. -/
inductive FileTree.IsProper : FileTree → Prop
  | file (text : String) : IsProper (.file text)
  | folder {entries : Table FileTree} (hnodup : (keys entries).Nodup)
      (hnames : ∀ name ∈ keys entries, IsEntryName name)
      (htrees : ∀ entry ∈ entries, IsProper entry.2) : IsProper (.folder entries)

variable {tree : FileTree} {entries : Table FileTree} {names : List String} {text : String}

theorem FileTree.find_cons {name : String} {rest : List String} :
    (FileTree.folder entries).find (name :: rest) = .ok (.file text) ↔
      ∃ inner, get? entries name = some inner ∧ inner.find rest = .ok (.file text) := by
  rw [FileTree.find]
  cases get? entries name with
  | none => simp
  | some inner => simp

theorem FileTree.IsProper.entryNames (hproper : tree.IsProper)
    (hfind : tree.find names = .ok (.file text)) : ∀ name ∈ names, IsEntryName name := by
  induction names generalizing tree with
  | nil => simp
  | cons name rest ih =>
      cases hproper with
      | file => cases hfind
      | folder hnodup hnames htrees =>
          obtain ⟨inner, hget, hinner⟩ := FileTree.find_cons.mp hfind
          exact List.forall_mem_cons.mpr ⟨hnames name (mem_keys_of_get? hget),
            ih (htrees _ (mem_of_get? hget)) hinner⟩

/-! ## Files with the names that lead to them -/

mutual

/-- The files of a tree that are not passed over, each with the names that lead to it. -/
def FileTree.leaves : FileTree → List (List String × String)
  | .file text => [([], text)]
  | .folder entries => (sortByName (leavesOfEntries entries)).flatMap Prod.snd
termination_by structural tree => tree

/-- For every entry of a folder its name and the files below it. -/
def leavesOfEntries : List (String × FileTree) → List (String × List (List String × String))
  | [] => []
  | (name, tree) :: rest =>
      let files := if isPassedOver name then [] else
        tree.leaves.map (fun file => (name :: file.1, file.2))
      (name, files) :: leavesOfEntries rest
termination_by structural entries => entries

end

/-- A file with the names that lead to it, as a file with its path. -/
def located (base : String) (file : List String × String) : String × String :=
  (pathTo base file.1, file.2)

mutual

/-- The paths that discovery goes through are the paths to the leaves. -/
theorem FileTree.filesBelow_eq : ∀ (tree : FileTree) (base : String),
    tree.filesBelow base = tree.leaves.map (located base)
  | .file text, base => rfl
  | .folder entries, base => by
      rw [FileTree.filesBelow, filesOfEntries_eq entries base, sortByName_mapValues,
        FileTree.leaves, mapValues, List.flatMap_map, List.map_flatMap]

theorem filesOfEntries_eq : ∀ (entries : List (String × FileTree)) (base : String),
    filesOfEntries base entries = mapValues (List.map (located base)) (leavesOfEntries entries)
  | [], _ => rfl
  | (name, tree) :: rest, base => by
      rw [filesOfEntries, leavesOfEntries, filesOfEntries_eq rest base,
        FileTree.filesBelow_eq tree (joinPath base name)]
      by_cases hname : isPassedOver name = true
      · simp [hname, mapValues]
      · simp [hname, mapValues, located]

end

theorem leavesOfEntries_eq_map (entries : Table FileTree) :
    leavesOfEntries entries = entries.map fun entry =>
      (entry.1, if isPassedOver entry.1 then [] else
        entry.2.leaves.map (fun file => (entry.1 :: file.1, file.2))) := by
  induction entries with
  | nil => rfl
  | cons head rest ih => rw [leavesOfEntries, ih, List.map_cons]

theorem keys_leavesOfEntries (entries : Table FileTree) :
    keys (leavesOfEntries entries) = keys entries := by
  rw [leavesOfEntries_eq_map, keys, keys, List.map_map]
  rfl

/-- A leaf of a folder is a leaf of an entry that is not passed over, reached by its name. -/
theorem mem_leaves_folder {file : List String × String} :
    file ∈ (FileTree.folder entries).leaves ↔ ∃ name tree rest, (name, tree) ∈ entries ∧
      isPassedOver name = false ∧ (rest, file.2) ∈ tree.leaves ∧ file.1 = name :: rest := by
  rw [FileTree.leaves, List.mem_flatMap]
  simp only [(sortByName_perm _).mem_iff, leavesOfEntries_eq_map, List.mem_map]
  constructor
  · rintro ⟨_, ⟨⟨name, tree⟩, htree, rfl⟩, hfile⟩
    by_cases hname : isPassedOver name = true
    · simp [hname] at hfile
    · rw [if_neg hname] at hfile
      obtain ⟨⟨rest, text⟩, hrest, rfl⟩ := List.mem_map.mp hfile
      exact ⟨name, tree, rest, htree, by simpa using hname, hrest, rfl⟩
  · rintro ⟨name, tree, rest, htree, hname, hrest, hfile⟩
    refine ⟨_, ⟨(name, tree), htree, rfl⟩, ?_⟩
    rw [if_neg (by simp [hname])]
    exact List.mem_map.mpr ⟨(rest, file.2), hrest, Prod.ext hfile.symm rfl⟩

/-- The leaves of a tree are the files that names lead to none of which is passed over. -/
theorem FileTree.IsProper.mem_leaves (hproper : tree.IsProper) :
    (names, text) ∈ tree.leaves ↔
      tree.find names = .ok (.file text) ∧ ∀ name ∈ names, isPassedOver name = false := by
  induction names generalizing tree with
  | nil =>
      cases tree with
      | file content =>
          simp only [FileTree.leaves, FileTree.find, List.mem_singleton, Prod.mk.injEq, true_and,
            Except.ok.injEq, FileTree.file.injEq, List.not_mem_nil, false_implies, implies_true,
            and_true]
          exact eq_comm
      | folder entries => simp [mem_leaves_folder, FileTree.find]
  | cons name rest ih =>
      cases hproper with
      | file => simp [FileTree.leaves, FileTree.find]
      | folder hnodup hnames htrees =>
          rw [mem_leaves_folder, FileTree.find_cons, List.forall_mem_cons]
          constructor
          · rintro ⟨_, inner, _, hinner, hname, hleaf, heq⟩
            obtain ⟨rfl, rfl⟩ := List.cons.inj heq
            obtain ⟨hfind, hrest⟩ := (ih (htrees _ hinner)).mp hleaf
            exact ⟨⟨inner, get?_of_mem hnodup hinner, hfind⟩, hname, hrest⟩
          · rintro ⟨⟨inner, hget, hfind⟩, hname, hrest⟩
            have hinner := mem_of_get? hget
            exact ⟨name, inner, rest, hinner, hname, (ih (htrees _ hinner)).mpr ⟨hfind, hrest⟩, rfl⟩

/-- The names that lead to the leaves are in order: entries of one folder by their names, and the
leaves below an entry where the entry stands. -/
theorem FileTree.IsProper.leaves_inOrder (hproper : tree.IsProper) :
    (tree.leaves.map Prod.fst).Pairwise (· < ·) := by
  induction hproper with
  | file text => exact List.pairwise_singleton _ _
  | @folder entries hnodup hnames htrees ih =>
      have hsorted : InNameOrder (sortByName (leavesOfEntries entries)) := by
        apply InNameOrder.sortByName
        rwa [keys_leavesOfEntries]
      have hentry : ∀ {entry}, entry ∈ sortByName (leavesOfEntries entries) →
          ∃ tree, (entry.1, tree) ∈ entries ∧ (entry.2 = [] ∨
            entry.2 = tree.leaves.map (fun file => (entry.1 :: file.1, file.2))) := by
        intro entry hmem
        rw [(sortByName_perm _).mem_iff, leavesOfEntries_eq_map] at hmem
        obtain ⟨⟨name, tree⟩, htree, rfl⟩ := List.mem_map.mp hmem
        refine ⟨tree, htree, ?_⟩
        by_cases hname : isPassedOver name = true
        · exact .inl (if_pos hname)
        · exact .inr (if_neg hname)
      rw [FileTree.leaves, List.map_flatMap, List.pairwise_flatMap]
      constructor
      · intro entry hmem
        obtain ⟨tree, htree, hfiles | hfiles⟩ := hentry hmem
        · rw [hfiles]
          exact List.Pairwise.nil
        · rw [hfiles, List.map_map, List.pairwise_map]
          refine (List.pairwise_map.mp (ih _ htree)).imp ?_
          intro first second hlt
          exact List.cons_lt_cons_iff.mpr (.inr ⟨rfl, hlt⟩)
      · have hheads : ∀ {entry names}, entry ∈ sortByName (leavesOfEntries entries) →
            names ∈ entry.2.map Prod.fst → ∃ rest, names = entry.1 :: rest := by
          intro entry names hmem hnames
          obtain ⟨tree, -, hfiles | hfiles⟩ := hentry hmem
          · simp [hfiles] at hnames
          · rw [hfiles, List.map_map] at hnames
            obtain ⟨file, -, rfl⟩ := List.mem_map.mp hnames
            exact ⟨file.1, rfl⟩
        refine (List.pairwise_map.mp hsorted).imp_of_mem ?_
        intro entry later hmem hlater hlt first hfirst second hsecond
        obtain ⟨rest, rfl⟩ := hheads hmem hfirst
        obtain ⟨rest', rfl⟩ := hheads hlater hsecond
        exact List.cons_lt_cons_iff.mpr (.inl hlt)

/-! ## Files that count -/

theorem isPassedOver_eq_false {name : String} :
    isPassedOver name = false ↔ name.toList.head? ≠ some '_' := by
  rw [isPassedOver, beq_eq_false_iff_ne]

/-- The files that count in a folder, with the names that lead to them, in the order of the names:
those whose own name is one of a document, where no name on the way begins with an underscore. -/
structure FileTree.Considers (folder : FileTree) (found : List (List String × String)) : Prop where
  inOrder : (found.map Prod.fst).Pairwise (· < ·)
  mem_iff : ∀ names text, (names, text) ∈ found ↔ folder.find names = .ok (.file text) ∧
    (∀ name ∈ names, name.toList.head? ≠ some '_') ∧
    ∃ hne : names ≠ [], NamesDocument (names.getLast hne)

/-- What counts in a folder, and its order, leave no choice. -/
theorem FileTree.Considers.unique {folder : FileTree} {found other : List (List String × String)}
    (hfound : folder.Considers found) (hother : folder.Considers other) : other = found := by
  have hnodup : ∀ {files : List (List String × String)}, folder.Considers files → files.Nodup := by
    intro files hfiles
    refine (List.pairwise_map.mp hfiles.inOrder).imp ?_
    rintro first _ hlt rfl
    exact List.lt_irrefl _ hlt
  have hperm : other.Perm found := by
    rw [List.perm_ext_iff_of_nodup (hnodup hother) (hnodup hfound)]
    intro file
    exact (hother.mem_iff file.1 file.2).trans (hfound.mem_iff file.1 file.2).symm
  refine hperm.eq_of_pairwise ?_ (List.pairwise_map.mp hother.inOrder)
    (List.pairwise_map.mp hfound.inOrder)
  intro first second _ _ hlt hgt
  exact absurd hgt (List.lt_asymm hlt)

theorem FileTree.IsProper.considers (hproper : (FileTree.folder entries).IsProper) (base : String) :
    (FileTree.folder entries).Considers ((FileTree.folder entries).leaves.filter
      fun file => holdsDocument (pathTo base file.1)) := by
  constructor
  · exact hproper.leaves_inOrder.sublist (List.filter_sublist.map Prod.fst)
  · intro names text
    rw [List.mem_filter, hproper.mem_leaves]
    simp only [isPassedOver_eq_false]
    constructor
    · rintro ⟨⟨hfind, hvisible⟩, hholds⟩
      have hne : names ≠ [] := by
        rintro rfl
        cases hfind
      exact ⟨hfind, hvisible, hne,
        (holdsDocument_pathTo (hproper.entryNames hfind) hne base).mp hholds⟩
    · rintro ⟨hfind, hvisible, hne, hdocument⟩
      exact ⟨⟨hfind, hvisible⟩,
        (holdsDocument_pathTo (hproper.entryNames hfind) hne base).mpr hdocument⟩

namespace Files

/-! ## Decoding -/

variable {base : String} {found : List (List String × String)}

theorem documentsOf_eq_ok {documents : List Discovered} :
    documentsOf (found.map (located base)) = .ok documents ↔
      List.Forall₂ (fun file discovered => discovered.path = pathTo base file.1 ∧
        documentOf (pathTo base file.1) file.2 = .ok discovered.document) found documents := by
  induction found generalizing documents with
  | nil => simp [documentsOf, eq_comm]
  | cons file rest ih =>
      simp only [List.map_cons, located, documentsOf, Outcome.bind_eq_ok, ih,
        List.forall₂_cons_left_iff]
      constructor
      · rintro ⟨document, hdocument, others, hothers, heq⟩
        cases heq
        exact ⟨_, others, ⟨rfl, hdocument⟩, hothers, rfl⟩
      · rintro ⟨⟨_, document⟩, others, ⟨rfl, hdocument⟩, hothers, rfl⟩
        exact ⟨document, hdocument, others, hothers, rfl⟩

/-- Decoding fails with the failure of the first file that holds no document. -/
theorem documentsOf_eq_error {failure : Failure} :
    documentsOf (found.map (located base)) = .error failure ↔
      ∃ before file after, found = before ++ file :: after ∧
        (∀ earlier ∈ before, ∃ document,
          documentOf (pathTo base earlier.1) earlier.2 = .ok document) ∧
        documentOf (pathTo base file.1) file.2 = .error failure := by
  induction found with
  | nil => simp [documentsOf]
  | cons file rest ih =>
      rw [List.map_cons, located, documentsOf]
      cases hfile : documentOf (pathTo base file.1) file.2 with
      | error first =>
          rw [Outcome.error_bind, Except.error.injEq]
          constructor
          · rintro rfl
            exact ⟨[], file, rest, rfl, by simp, hfile⟩
          · rintro ⟨before, other, after, heq, hbefore, hother⟩
            cases before with
            | nil =>
                obtain ⟨rfl, rfl⟩ := List.cons.inj heq
                exact Except.error.inj (hfile.symm.trans hother)
            | cons head before =>
                obtain ⟨rfl, rfl⟩ := List.cons.inj heq
                obtain ⟨document, hdocument⟩ := hbefore _ List.mem_cons_self
                cases hfile.symm.trans hdocument
      | ok document =>
          have hrest : (documentsOf (rest.map (located base)) >>= fun others =>
              pure (⟨pathTo base file.1, document⟩ :: others)) = .error failure ↔
              documentsOf (rest.map (located base)) = .error failure := by
            cases documentsOf (rest.map (located base)) <;> simp
          rw [Outcome.ok_bind, hrest, ih]
          constructor
          · rintro ⟨before, other, after, rfl, hbefore, hother⟩
            refine ⟨file :: before, other, after, rfl, ?_, hother⟩
            exact List.forall_mem_cons.mpr ⟨⟨document, hfile⟩, hbefore⟩
          · rintro ⟨before, other, after, heq, hbefore, hother⟩
            cases before with
            | nil =>
                obtain ⟨rfl, rfl⟩ := List.cons.inj heq
                cases hfile.symm.trans hother
            | cons head before =>
                obtain ⟨rfl, rfl⟩ := List.cons.inj heq
                exact ⟨before, other, after, rfl, (List.forall_mem_cons.mp hbefore).2, hother⟩

theorem discover_folder (files : Files) {root : String}
    (hroot : files.tree.find (pathNames root) = .ok (.folder entries)) :
    files.discover (some root) = documentsOf (((FileTree.folder entries).leaves.filter
      fun file => holdsDocument (pathTo (files.pathOf root) file.1)).map
        (located (files.pathOf root))) := by
  rw [discover, hroot]
  dsimp only
  rw [FileTree.filesBelow_eq, List.filter_map]
  rfl

/-- The entries of a folder of documents, some of them to be passed over. -/
def draftEntries : Table FileTree :=
  [("users.json", .file "name: Users"), ("notes.md", .file "Users"),
    ("_old", .folder [("users.yaml", .file "name: Users")]),
    ("billing", .folder [("_tax.yml", .file "name: Tax"), ("Invoice.YML", .file "name: Invoice")])]

/-- The folder of documents, under a name that itself begins with an underscore. -/
def draftFiles : Files where
  location := "/srv"
  tree := .folder [("_drafts", .folder draftEntries)]

theorem draftEntries_proper : (FileTree.folder draftEntries).IsProper := by
  refine .folder (by decide) (by decide) ?_
  simp only [draftEntries, List.forall_mem_cons, List.not_mem_nil, false_implies, implies_true,
    and_true]
  refine ⟨.file _, .file _, .folder (by decide) (by decide) ?_,
    .folder (by decide) (by decide) ?_⟩
  · simpa using .file _
  · simpa using ⟨.file _, .file _⟩

end Files

end SchemaGuard
