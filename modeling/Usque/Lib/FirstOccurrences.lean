import Mathlib.Data.List.Nodup
import Mathlib.Data.List.Perm.Basic

/-! Removing duplicates by a key, where the first element with a key stays. The
loop that keeps an element unless its key was seen computes it, and the order in
which the elements of a block come makes no difference to what stays as long as
no two of a block share a key. -/
namespace FirstOccurrences

variable {α : Type u} {β : Type v} {ι : Type w} [DecidableEq β] {key : α → β}

/-- The first element with each key, in order. -/
def firsts (key : α → β) : List α → List α
  | [] => []
  | item :: rest => item :: (firsts key rest).filter (key · ≠ key item)

/-- One turn of the loop: an element whose key was kept before is dropped. -/
def keepNew (key : α → β) (kept : List α) (item : α) : List α :=
  if key item ∈ kept.map key then kept else kept ++ [item]

theorem mem_of_mem_firsts {item : α} {items : List α} (member : item ∈ firsts key items) :
    item ∈ items := by
  induction items with
  | nil => exact member
  | cons head rest ih =>
    rcases List.mem_cons.mp member with rfl | later
    · exact List.mem_cons_self
    · exact List.mem_cons_of_mem _ (ih (List.mem_filter.mp later).1)

/-- Every key keeps an element. -/
theorem exists_mem_firsts (key : α → β) {item : α} {items : List α} (member : item ∈ items) :
    ∃ kept ∈ firsts key items, key kept = key item := by
  induction items with
  | nil => cases member
  | cons head rest ih =>
    by_cases same : key item = key head
    · exact ⟨head, List.mem_cons_self, same.symm⟩
    · rcases List.mem_cons.mp member with rfl | later
      · exact absurd rfl same
      · obtain ⟨kept, within, named⟩ := ih later
        refine ⟨kept, List.mem_cons_of_mem _ (List.mem_filter.mpr ⟨within, ?_⟩), named⟩
        rw [named]
        exact decide_eq_true same

/-- No key is kept twice. -/
theorem firsts_nodup (items : List α) : ((firsts key items).map key).Nodup := by
  induction items with
  | nil => exact List.nodup_nil
  | cons head rest ih =>
    rw [firsts, List.map_cons, List.nodup_cons]
    constructor
    · intro again
      obtain ⟨other, within, named⟩ := List.mem_map.mp again
      exact of_decide_eq_true (List.mem_filter.mp within).2 named
    · exact ih.sublist (List.filter_sublist.map key)

theorem nodup_firsts (items : List α) : (firsts key items).Nodup :=
  (firsts_nodup items).of_map key

/-- The loop keeps the first elements whose keys were not kept before it. -/
theorem foldl_keepNew (kept items : List α) :
    items.foldl (keepNew key) kept =
      kept ++ (firsts key items).filter (key · ∉ kept.map key) := by
  induction items generalizing kept with
  | nil => simp [firsts]
  | cons head rest ih =>
    rw [List.foldl_cons, ih, firsts, List.filter_cons, List.filter_filter]
    by_cases seen : key head ∈ kept.map key
    · have drop : keepNew key kept head = kept := if_pos seen
      rw [drop, if_neg (by simpa using seen)]
      congr 1
      apply List.filter_congr
      intro item member
      by_cases old : key item ∈ kept.map key
      · simp [old]
      · have other : key item ≠ key head := fun same => old (same ▸ seen)
        simp [old, other]
    · have push : keepNew key kept head = kept ++ [head] := if_neg seen
      rw [push, if_pos (by simpa using seen), List.append_assoc, List.singleton_append]
      congr 2
      apply List.filter_congr
      intro item member
      simp only [List.map_append, List.map_cons, List.map_nil, List.mem_append, List.mem_singleton,
        not_or, Bool.decide_and]

theorem foldl_keepNew_nil (items : List α) : items.foldl (keepNew key) [] = firsts key items := by
  simp [foldl_keepNew]

theorem firsts_append (front back : List α) :
    firsts key (front ++ back) =
      firsts key front ++ (firsts key back).filter (key · ∉ front.map key) := by
  have keys : ∀ item : α, key item ∈ (firsts key front).map key ↔ key item ∈ front.map key := by
    intro item
    constructor
    · intro member
      obtain ⟨kept, within, named⟩ := List.mem_map.mp member
      exact List.mem_map.mpr ⟨kept, mem_of_mem_firsts within, named⟩
    · intro member
      obtain ⟨old, within, named⟩ := List.mem_map.mp member
      obtain ⟨kept, keptWithin, same⟩ := exists_mem_firsts key within
      exact List.mem_map.mpr ⟨kept, keptWithin, same.trans named⟩
  rw [← foldl_keepNew_nil, List.foldl_append, foldl_keepNew_nil, foldl_keepNew]
  congr 1
  apply List.filter_congr
  intro item member
  rw [decide_eq_decide]
  exact not_congr (keys item)

/-- The elements of a list have keys of their own. -/
def Distinct (key : α → β) (items : List α) : Prop :=
  ∀ first ∈ items, ∀ second ∈ items, key first = key second → first = second

theorem mem_firsts_iff {item : α} {items : List α} (distinct : Distinct key items) :
    item ∈ firsts key items ↔ item ∈ items := by
  constructor
  · exact mem_of_mem_firsts
  · intro member
    obtain ⟨kept, within, named⟩ := exists_mem_firsts key member
    rwa [← distinct kept (mem_of_mem_firsts within) item member named]

/-- A block with keys of its own keeps the same elements in any order. -/
theorem firsts_perm {items others : List α} (same : items.Perm others)
    (distinct : Distinct key items) : (firsts key items).Perm (firsts key others) := by
  have distinctOthers : Distinct key others := by
    intro first inFirst second inSecond
    exact distinct first (same.mem_iff.mpr inFirst) second (same.mem_iff.mpr inSecond)
  apply (List.perm_ext_iff_of_nodup (nodup_firsts items) (nodup_firsts others)).mpr
  intro item
  rw [mem_firsts_iff distinct, mem_firsts_iff distinctOthers]
  exact same.mem_iff

/-- Rearranging every block within itself rearranges what stays. -/
theorem firsts_flatMap_perm {indices : List ι} {block other : ι → List α}
    (same : ∀ index ∈ indices, (block index).Perm (other index))
    (distinct : ∀ index ∈ indices, Distinct key (block index)) :
    (firsts key (indices.flatMap block)).Perm (firsts key (indices.flatMap other)) := by
  induction indices with
  | nil => exact List.Perm.refl _
  | cons index rest ih =>
    have here := same index List.mem_cons_self
    have others := ih (fun later member => same later (List.mem_cons_of_mem _ member))
      fun later member => distinct later (List.mem_cons_of_mem _ member)
    rw [List.flatMap_cons, List.flatMap_cons, firsts_append, firsts_append]
    refine (firsts_perm here (distinct index List.mem_cons_self)).append ?_
    have keys : (fun item : α => decide (key item ∉ (block index).map key)) =
        fun item => decide (key item ∉ (other index).map key) := by
      funext item
      rw [decide_eq_decide]
      exact not_congr (here.map key).mem_iff
    rw [keys]
    exact others.filter _

end FirstOccurrences
