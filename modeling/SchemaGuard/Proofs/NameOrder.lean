import SchemaGuard.Discovery
import SchemaGuard.Proofs.Table

/-! # Entries in the order of names

An entry that is put in its place among entries in the order of names leaves them in that
order, and is found under its name from then on.
-/

namespace SchemaGuard

open Table

variable {α : Type} {entries : Table α} {name : String} {entry : α}

/-- Entries whose names are in order, none of them twice. -/
def InNameOrder (entries : Table α) : Prop :=
  (keys entries).Pairwise (· < ·)

theorem insertByName_perm (name : String) (entry : α) (entries : Table α) :
    (insertByName name entry entries).Perm ((name, entry) :: entries) := by
  induction entries with
  | nil => exact List.Perm.refl _
  | cons head rest ih =>
      obtain ⟨other, found⟩ := head
      rw [insertByName]
      split
      · exact List.Perm.refl _
      · exact (ih.cons (other, found)).trans (List.Perm.swap _ _ _)

theorem mem_keys_insertByName {other : String} :
    other ∈ keys (insertByName name entry entries) ↔ other = name ∨ other ∈ keys entries := by
  have hperm := (insertByName_perm name entry entries).map Prod.fst
  exact hperm.mem_iff.trans List.mem_cons

theorem InNameOrder.insertByName (hentries : InNameOrder entries) (hname : name ∉ keys entries) :
    InNameOrder (insertByName name entry entries) := by
  induction entries with
  | nil => exact List.pairwise_singleton _ _
  | cons head rest ih =>
      obtain ⟨other, found⟩ := head
      rw [keys_cons, List.mem_cons, not_or] at hname
      obtain ⟨hother, hrest⟩ := List.pairwise_cons.mp hentries
      rw [SchemaGuard.insertByName]
      split
      next hle =>
        have hlt : name < other := String.not_le.mp fun hge => hname.1 (String.le_antisymm hle hge)
        refine List.pairwise_cons.mpr ⟨?_, hentries⟩
        intro later hlater
        obtain rfl | hlater := List.mem_cons.mp hlater
        · exact hlt
        · exact String.lt_trans hlt (hother later hlater)
      next hle =>
        refine List.pairwise_cons.mpr ⟨?_, ih hrest hname.2⟩
        intro later hlater
        obtain rfl | hlater := mem_keys_insertByName.mp hlater
        · exact String.not_le.mp hle
        · exact hother later hlater

theorem get?_insertByName (hname : name ∉ keys entries) (other : String) :
    get? (insertByName name entry entries) other =
      if name = other then some entry else get? entries other := by
  induction entries with
  | nil => rfl
  | cons head rest ih =>
      obtain ⟨key, found⟩ := head
      rw [keys_cons, List.mem_cons, not_or] at hname
      rw [insertByName]
      split
      · rfl
      · rw [get?_cons, get?_cons, ih hname.2]
        by_cases hkey : key = other
        · subst hkey
          rw [if_pos rfl, if_pos rfl, if_neg hname.1]
        · rw [if_neg hkey, if_neg hkey]

/-! ## Sorting by name -/

theorem sortByName_perm (entries : Table α) : (sortByName entries).Perm entries := by
  induction entries with
  | nil => exact List.Perm.refl _
  | cons head rest ih => exact (insertByName_perm head.1 head.2 _).trans (ih.cons head)

theorem InNameOrder.sortByName (hnodup : (keys entries).Nodup) :
    InNameOrder (sortByName entries) := by
  induction entries with
  | nil => exact List.Pairwise.nil
  | cons head rest ih =>
      obtain ⟨hhead, hrest⟩ := List.nodup_cons.mp hnodup
      have hkeys := (sortByName_perm rest).map Prod.fst
      exact (ih hrest).insertByName fun hmem => hhead (hkeys.mem_iff.mp hmem)

theorem insertByName_mapValues {β : Type} (f : α → β) (name : String) (entry : α)
    (entries : Table α) :
    insertByName name (f entry) (mapValues f entries) =
      mapValues f (insertByName name entry entries) := by
  induction entries with
  | nil => rfl
  | cons head rest ih =>
      obtain ⟨other, found⟩ := head
      simp only [mapValues, List.map_cons, SchemaGuard.insertByName] at ih ⊢
      split
      · rfl
      · rw [ih, List.map_cons]

/-- The order of names has no regard to what stands under them. -/
theorem sortByName_mapValues {β : Type} (f : α → β) (entries : Table α) :
    sortByName (mapValues f entries) = mapValues f (sortByName entries) := by
  induction entries with
  | nil => rfl
  | cons head rest ih =>
      change insertByName head.1 (f head.2) (sortByName (mapValues f rest)) = _
      rw [ih, insertByName_mapValues]
      rfl

end SchemaGuard
