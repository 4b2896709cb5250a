import Mathlib.Data.List.Basic
import SchemaGuard.Files

/-! # Paths and the names on them

A path that is continued by the name of an entry leads to that entry: its names are the names on
the path and the new one. Whether a file may hold a document is therefore a matter of its own
name, however it was reached.
-/

namespace SchemaGuard

namespace Text

variable {c : Char} {last : List Char}

theorem piecesFrom_of_notMem {text : List Char} (hc : c ∉ text) (piece : List Char) :
    piecesFrom [c] 0 piece text = [piece.reverse ++ text] := by
  induction text generalizing piece with
  | nil => simp [piecesFrom]
  | cons head rest ih =>
      rw [List.mem_cons, not_or] at hc
      rw [piecesFrom, if_neg (by simp [hc.1]), ih hc.2]
      simp

theorem splitOn_of_notMem {text : List Char} (hc : c ∉ text) : splitOn [c] text = [text] :=
  piecesFrom_of_notMem hc []

/-- The last piece is what follows the last separator. -/
theorem splitOn_append (text : List Char) (hlast : c ∉ last) :
    splitOn [c] (text ++ c :: last) = splitOn [c] text ++ [last] := by
  suffices h : ∀ piece, piecesFrom [c] 0 piece (text ++ c :: last) =
      piecesFrom [c] 0 piece text ++ [last] from h []
  induction text with
  | nil =>
      intro piece
      simp [piecesFrom, piecesFrom_of_notMem hlast]
  | cons head rest ih =>
      intro piece
      rw [List.cons_append, piecesFrom, piecesFrom]
      by_cases hhead : head = c
      · rw [if_pos (by simp [hhead]), if_pos (by simp [hhead])]
        simpa using ih []
      · rw [if_neg (by simp [Ne.symm hhead]), if_neg (by simp [Ne.symm hhead])]
        exact ih (head :: piece)

theorem splitOn_ne_nil (text : List Char) : splitOn [c] text ≠ [] := by
  suffices h : ∀ piece, piecesFrom [c] 0 piece text ≠ [] from h []
  induction text with
  | nil => simp [piecesFrom]
  | cons head rest ih =>
      intro piece
      rw [piecesFrom]
      split
      · simp
      · exact ih _

/-- A separator that occurs occurs for a last time. -/
theorem exists_last_separator {text : List Char} (hc : c ∈ text) :
    ∃ before last, text = before ++ c :: last ∧ c ∉ last := by
  obtain ⟨last, before, htext, hlast⟩ := List.eq_append_cons_of_mem (List.mem_reverse.mpr hc)
  refine ⟨before.reverse, last.reverse, ?_, by simpa using hlast⟩
  simpa using congrArg List.reverse htext

theorem eq_of_splitOn_eq_singleton {text piece : List Char} (h : splitOn [c] text = [piece]) :
    piece = text := by
  by_cases hc : c ∈ text
  · obtain ⟨before, last, rfl, hlast⟩ := exists_last_separator hc
    rw [splitOn_append before hlast] at h
    exact absurd (List.append_eq_singleton_iff.mp h) (by simp [splitOn_ne_nil])
  · rw [splitOn_of_notMem hc] at h
    exact (List.singleton_inj.mp h).symm

end Text

/-! ## Names of entries -/

/-- A name that an entry of a folder can have. -/
structure IsEntryName (name : String) : Prop where
  notEmpty : name ≠ ""
  notHere : name ≠ "."
  notParent : name ≠ ".."
  noSlash : '/' ∉ name.toList

instance (name : String) : Decidable (IsEntryName name) :=
  decidable_of_iff (name ≠ "" ∧ name ≠ "." ∧ name ≠ ".." ∧ '/' ∉ name.toList)
    ⟨fun h => ⟨h.1, h.2.1, h.2.2.1, h.2.2.2⟩,
      fun h => ⟨h.notEmpty, h.notHere, h.notParent, h.noSlash⟩⟩

theorem pathNames_append {name : String} (hname : IsEntryName name) (base : List Char) :
    pathNames (String.ofList (base ++ '/' :: name.toList)) =
      pathNames (String.ofList base) ++ [name] := by
  rw [pathNames, pathNames, String.toList_ofList, String.toList_ofList,
    Text.splitOn_append base hname.noSlash]
  simp [hname.notEmpty, hname.notHere]

/-- A slash at the end of a path does not count. -/
theorem pathNames_slash (base : List Char) :
    pathNames (String.ofList (base ++ ['/'])) = pathNames (String.ofList base) := by
  rw [pathNames, pathNames, String.toList_ofList, String.toList_ofList,
    Text.splitOn_append base List.not_mem_nil]
  simp

theorem pathNames_joinPath {name : String} (hname : IsEntryName name) (base : String) :
    pathNames (joinPath base name) = pathNames base ++ [name] := by
  rw [joinPath]
  split
  next hslash =>
    obtain ⟨before, hbefore⟩ := List.getLast?_eq_some_iff.mp hslash
    have hbase : base = String.ofList (before ++ ['/']) := by rw [← hbefore, String.ofList_toList]
    have hjoined : base ++ name = String.ofList (before ++ '/' :: name.toList) := by
      rw [← String.toList_inj, String.toList_append, hbefore, String.toList_ofList]
      simp
    rw [hjoined, pathNames_append hname, hbase, pathNames_slash]
  next =>
    have hjoined : base ++ "/" ++ name = String.ofList (base.toList ++ '/' :: name.toList) := by
      rw [← String.toList_inj, String.toList_append, String.toList_append, String.toList_ofList]
      simp
    rw [hjoined, pathNames_append hname, String.ofList_toList]

/-- The path to what names lead to from a place. -/
def pathTo (base : String) (names : List String) : String :=
  names.foldl joinPath base

@[simp] theorem pathTo_nil (base : String) : pathTo base [] = base := rfl

@[simp] theorem pathTo_cons (base name : String) (names : List String) :
    pathTo base (name :: names) = pathTo (joinPath base name) names := rfl

theorem pathNames_pathTo {names : List String} (hnames : ∀ name ∈ names, IsEntryName name)
    (base : String) : pathNames (pathTo base names) = pathNames base ++ names := by
  induction names generalizing base with
  | nil => simp
  | cons name rest ih =>
      obtain ⟨hname, hrest⟩ := List.forall_mem_cons.mp hnames
      rw [pathTo_cons, ih hrest, pathNames_joinPath hname, List.append_assoc,
        List.singleton_append]

/-! ## Extensions -/

theorem extension?_of_notMem {name : String} (hdot : '.' ∉ name.toList) :
    extension? name = none := by
  rw [extension?, Text.splitOn_of_notMem hdot]
  rfl

theorem extension?_append {before last : List Char} (hbefore : before ≠ []) (hlast : '.' ∉ last)
    (hparent : String.ofList (before ++ '.' :: last) ≠ "..") :
    extension? (String.ofList (before ++ '.' :: last)) = some (String.ofList last) := by
  rw [extension?, String.toList_ofList, Text.splitOn_append before hlast, List.reverse_append,
    List.reverse_singleton, List.singleton_append]
  cases hpieces : (Text.splitOn ['.'] before).reverse with
  | nil => exact absurd (List.reverse_eq_nil_iff.mp hpieces) (Text.splitOn_ne_nil before)
  | cons piece pieces =>
      split
      next heq => cases heq
      next heq => cases heq
      next heq =>
        cases heq
        have hsplit : Text.splitOn ['.'] before = [[]] := by
          rw [← List.reverse_reverse (Text.splitOn _ _), hpieces]
          rfl
        exact absurd (Text.eq_of_splitOn_eq_singleton hsplit).symm hbefore
      next heq =>
        cases heq
        exact if_neg hparent

theorem extension?_dot {last : List Char} (hlast : '.' ∉ last) :
    extension? (String.ofList ('.' :: last)) = none := by
  have hsplit := Text.splitOn_append [] hlast
  rw [List.nil_append] at hsplit
  rw [extension?, String.toList_ofList, hsplit]
  rfl

/-- An extension is what follows the last dot of a name, if something stands before that dot. -/
theorem extension?_eq_some {name extension : String} (hparent : name ≠ "..") :
    extension? name = some extension ↔
      ∃ stem, stem ≠ "" ∧ name = stem ++ "." ++ extension ∧ '.' ∉ extension.toList := by
  constructor
  · intro h
    by_cases hdot : '.' ∈ name.toList
    · obtain ⟨before, last, hname, hlast⟩ := Text.exists_last_separator hdot
      obtain rfl : name = String.ofList (before ++ '.' :: last) := by
        rw [← hname, String.ofList_toList]
      by_cases hbefore : before = []
      · rw [hbefore, List.nil_append, extension?_dot hlast] at h
        cases h
      · rw [extension?_append hbefore hlast hparent] at h
        cases h
        refine ⟨String.ofList before, by simpa [← String.toList_inj] using hbefore, ?_,
          by simpa using hlast⟩
        simp [← String.toList_inj]
    · rw [extension?_of_notMem hdot] at h
      cases h
  · rintro ⟨stem, hstem, rfl, hlast⟩
    have hname : stem ++ "." ++ extension =
        String.ofList (stem.toList ++ '.' :: extension.toList) := by
      simp [← String.toList_inj]
    have hbefore : stem.toList ≠ [] := fun hnil => hstem (String.toList_eq_nil_iff.mp hnil)
    rw [hname, extension?_append hbefore hlast (hname ▸ hparent), String.ofList_toList]

/-- A name that ends in a dot and an extension of documents, in letters of either case. -/
def NamesDocument (name : String) : Prop :=
  ∃ stem extension, stem ≠ "" ∧ name = stem ++ "." ++ extension ∧
    extension.map Char.toLower ∈ documentExtensions

theorem notMem_documentExtension {extension : String}
    (hextension : extension.map Char.toLower ∈ documentExtensions) : '.' ∉ extension.toList := by
  intro hdot
  have hlower : '.' ∈ (extension.map Char.toLower).toList := by
    rw [String.toList_map]
    exact List.mem_map.mpr ⟨'.', hdot, rfl⟩
  simp only [documentExtensions, List.mem_cons, List.not_mem_nil, or_false] at hextension
  rcases hextension with h | h | h
  all_goals
    rw [h] at hlower
    revert hlower
    decide

/-- Whether a file may hold a document is a matter of the last name on its path. -/
theorem holdsDocument_pathTo {names : List String} (hnames : ∀ name ∈ names, IsEntryName name)
    (hne : names ≠ []) (base : String) :
    holdsDocument (pathTo base names) = true ↔ NamesDocument (names.getLast hne) := by
  have hparent := (hnames _ (List.getLast_mem hne)).notParent
  have hlast : (pathNames base ++ names).getLast? = some (names.getLast hne) := by
    rw [List.getLast?_append, List.getLast?_eq_some_getLast hne]
    rfl
  rw [holdsDocument, pathNames_pathTo hnames, hlast, Option.bind_some]
  constructor
  · intro h
    split at h
    next extension hextension =>
      obtain ⟨stem, hstem, hname, -⟩ := (extension?_eq_some hparent).mp hextension
      exact ⟨stem, extension, hstem, hname, List.contains_iff_mem.mp h⟩
    next => cases h
  · rintro ⟨stem, extension, hstem, hname, hextension⟩
    rw [(extension?_eq_some hparent).mpr
      ⟨stem, hstem, hname, notMem_documentExtension hextension⟩]
    exact List.contains_iff_mem.mpr hextension

end SchemaGuard
