import Flowchart.Document.Parse
import Flowchart.Graph
import Mathlib.Data.List.Basic

/-!
# The first definition counts

Adding nodes to a document one by one keeps, of the nodes added, those whose
id is neither in the document nor on an earlier one of them. `fresh` says
which these are without mentioning a document (`defineAll_eq`), and its laws
are the laws of the node list: nothing is lost that is new, nothing is added
twice, and adding two lists is adding one after the other (`fresh_append`). The
ids that are taken only leave nodes out (`fresh_eq_filter`).
-/

namespace Flowchart

variable {taken taken' : List String} {ns ms : List Node} {n : Node} {id : String}

/-- The ids of a list of nodes. -/
def idsOf (ns : List Node) : List String :=
  ns.map (·.id)

/-- The nodes of the list whose id is not taken, each id at its first place. -/
def fresh (taken : List String) : List Node → List Node
  | [] => []
  | n :: rest => if n.id ∈ taken then fresh taken rest else n :: fresh (taken ++ [n.id]) rest

@[simp] theorem idsOf_nil : idsOf [] = [] := rfl

@[simp] theorem idsOf_cons : idsOf (n :: ns) = n.id :: idsOf ns := rfl

@[simp] theorem idsOf_append : idsOf (ns ++ ms) = idsOf ns ++ idsOf ms :=
  List.map_append

theorem id_mem_idsOf (h : n ∈ ns) : n.id ∈ idsOf ns :=
  List.mem_map_of_mem h

/-- Which ids are taken is all that counts. -/
theorem fresh_congr (h : ∀ id, id ∈ taken ↔ id ∈ taken') : fresh taken ns = fresh taken' ns := by
  induction ns generalizing taken taken' with
  | nil => rfl
  | cons n ns ih =>
    simp only [fresh, h n.id]
    split
    · exact ih h
    · have hmore : ∀ id, id ∈ taken ++ [n.id] ↔ id ∈ taken' ++ [n.id] := by
        intro id
        rw [List.mem_append, List.mem_append, h id]
      rw [ih hmore]

theorem mem_of_mem_fresh (h : n ∈ fresh taken ns) : n ∈ ns := by
  induction ns generalizing taken with
  | nil => exact h
  | cons m ns ih =>
    rw [fresh] at h
    split at h
    · exact List.mem_cons_of_mem _ (ih h)
    · rcases List.mem_cons.mp h with rfl | h
      · exact List.mem_cons_self
      · exact List.mem_cons_of_mem _ (ih h)

/-- **Every new id is among the fresh nodes, and no other.** -/
theorem mem_idsOf_fresh : id ∈ idsOf (fresh taken ns) ↔ id ∈ idsOf ns ∧ id ∉ taken := by
  induction ns generalizing taken with
  | nil => simp [fresh]
  | cons n ns ih =>
    rw [fresh]
    split
    · rename_i hn
      rw [ih, idsOf_cons, List.mem_cons]
      constructor
      · exact fun ⟨h, ht⟩ => ⟨Or.inr h, ht⟩
      · rintro ⟨rfl | h, ht⟩
        · exact absurd hn ht
        · exact ⟨h, ht⟩
    · rename_i hn
      simp only [idsOf_cons, List.mem_cons, ih, List.mem_append, not_or, List.not_mem_nil,
        or_false]
      constructor
      · rintro (rfl | ⟨h, ht, -⟩)
        · exact ⟨Or.inl rfl, hn⟩
        · exact ⟨Or.inr h, ht⟩
      · rintro ⟨rfl | h, ht⟩
        · exact Or.inl rfl
        · by_cases he : id = n.id
          · exact Or.inl he
          · exact Or.inr ⟨h, ht, he⟩

/-- **No two fresh nodes share an id.** -/
theorem nodup_idsOf_fresh (taken : List String) (ns : List Node) :
    (idsOf (fresh taken ns)).Nodup := by
  induction ns generalizing taken with
  | nil => exact List.nodup_nil
  | cons n ns ih =>
    rw [fresh]
    split
    · exact ih taken
    · rw [idsOf_cons, List.nodup_cons]
      refine ⟨fun h => ?_, ih _⟩
      exact (mem_idsOf_fresh.mp h).2 (by simp)

/-- Where all ids differ and none is taken, all nodes are fresh. -/
theorem fresh_eq_self (hd : (idsOf ns).Nodup) (ht : ∀ id ∈ idsOf ns, id ∉ taken) :
    fresh taken ns = ns := by
  induction ns generalizing taken with
  | nil => rfl
  | cons n ns ih =>
    rw [idsOf_cons, List.nodup_cons] at hd
    have hn : n.id ∉ taken := ht n.id List.mem_cons_self
    rw [fresh, if_neg hn, ih hd.2]
    intro id hid
    have hne : id ≠ n.id := fun he => hd.1 (he ▸ hid)
    simp [ht id (List.mem_cons_of_mem _ hid), hne]

/-- Where all ids are taken, no node is fresh. -/
theorem fresh_eq_nil (h : ∀ id ∈ idsOf ns, id ∈ taken) : fresh taken ns = [] := by
  induction ns with
  | nil => rfl
  | cons n ns ih =>
    rw [fresh, if_pos (h n.id List.mem_cons_self)]
    exact ih fun id hid => h id (List.mem_cons_of_mem _ hid)

/-- **Two lists are added one after the other.** -/
theorem fresh_append (taken : List String) (ns ms : List Node) :
    fresh taken (ns ++ ms) = fresh taken ns ++ fresh (taken ++ idsOf (fresh taken ns)) ms := by
  induction ns generalizing taken with
  | nil => simp [fresh]
  | cons n ns ih =>
    rw [List.cons_append, fresh, fresh]
    split
    · exact ih taken
    · rw [ih, idsOf_cons, List.cons_append, List.append_assoc, List.singleton_append]

/-- **What is fresh among taken ids** is what is fresh on its own, less what is
taken. -/
theorem fresh_eq_filter (taken : List String) (ns : List Node) :
    fresh taken ns = (fresh [] ns).filter (·.id ∉ taken) := by
  induction ns generalizing taken with
  | nil => rfl
  | cons n ns ih =>
    have hhead : fresh [] (n :: ns) = n :: (fresh [] ns).filter (·.id ∉ [n.id]) := by
      rw [fresh, if_neg List.not_mem_nil, List.nil_append, ih]
    rw [hhead, fresh, List.filter_cons, List.filter_filter]
    by_cases hn : n.id ∈ taken
    · -- the id of the head is taken anyhow, so dropping it twice drops it once
      have hdrop : (fresh [] ns).filter (fun m => decide (m.id ∉ taken) && decide (m.id ∉ [n.id])) =
          (fresh [] ns).filter (·.id ∉ taken) := by
        refine List.filter_congr fun m _ => ?_
        by_cases hm : m.id = n.id <;> simp [hm, hn]
      rw [if_pos hn, if_neg (by simpa using hn), hdrop, ih]
    · have hmore : (fresh [] ns).filter (fun m => decide (m.id ∉ taken) && decide (m.id ∉ [n.id])) =
          (fresh [] ns).filter (·.id ∉ taken ++ [n.id]) := by
        refine List.filter_congr fun m _ => ?_
        simp
      rw [if_neg hn, if_pos (by simpa using hn), hmore, ih]

/-- **The fresh nodes are the first ones of their ids.** -/
theorem fresh_eq_filterMap (taken : List String) (ns : List Node) :
    fresh taken ns = ((distinct (idsOf ns)).filter (· ∉ taken)).filterMap
      fun id => ns.find? fun n => n.id == id := by
  induction ns generalizing taken with
  | nil => rfl
  | cons n ns ih =>
    -- a node at the front answers for its own id and for no other
    have hself : (n :: ns).find? (fun m => m.id == n.id) = some n := by simp
    have hother : ∀ ids : List String, n.id ∉ ids →
        (ids.filterMap fun id => (n :: ns).find? fun m => m.id == id) =
          ids.filterMap fun id => ns.find? fun m => m.id == id := by
      intro ids hids
      refine List.filterMap_congr fun id hid => ?_
      have hne : n.id ≠ id := fun he => hids (he ▸ hid)
      simp [hne]
    rw [idsOf_cons, distinct, fresh, List.filter_cons, List.filter_filter]
    by_cases hn : n.id ∈ taken
    · have hkeep : (distinct (idsOf ns)).filter (fun id => id ∉ taken && id ≠ n.id) =
          (distinct (idsOf ns)).filter (· ∉ taken) := by
        refine List.filter_congr fun id _ => ?_
        by_cases hid : id = n.id <;> simp [hid, hn]
      rw [if_pos hn, if_neg (by simpa using hn), ih, hkeep, hother]
      simp [hn]
    · have hmore : (distinct (idsOf ns)).filter (· ∉ taken ++ [n.id]) =
          (distinct (idsOf ns)).filter (fun id => id ∉ taken && id ≠ n.id) := by
        refine List.filter_congr fun id _ => ?_
        simp
      rw [if_neg hn, if_pos (by simpa using hn), List.filterMap_cons, hself, ih, hmore, hother]
      simp

/-- Among implied nodes the fresh ones are those of the distinct new ids. -/
theorem fresh_map_implied (ids : List String) :
    fresh taken (ids.map Node.implied) =
      ((distinct ids).filter (· ∉ taken)).map Node.implied := by
  induction ids generalizing taken with
  | nil => rfl
  | cons id ids ih =>
    have hid : (Node.implied id).id = id := rfl
    rw [List.map_cons, fresh, hid, distinct, List.filter_cons]
    by_cases ht : id ∈ taken
    · have hdrop : ((distinct ids).filter (· ≠ id)).filter (· ∉ taken) =
          (distinct ids).filter (· ∉ taken) := by
        rw [List.filter_filter]
        refine List.filter_congr fun x _ => ?_
        by_cases hx : x = id <;> simp [hx, ht]
      rw [if_pos ht, ih, if_neg (by simpa using ht), hdrop]
    · have hkeep : (distinct ids).filter (· ∉ taken ++ [id]) =
          ((distinct ids).filter (· ≠ id)).filter (· ∉ taken) := by
        rw [List.filter_filter]
        refine List.filter_congr fun x _ => ?_
        by_cases hx : x = id <;> simp [hx]
      rw [if_neg ht, ih, if_pos (by simpa using ht), hkeep, List.map_cons]

namespace Document

/-- **Adding nodes one by one adds the fresh ones.** -/
theorem defineAll_eq (d : Document) (ns : List Node) :
    d.defineAll ns = { d with nodes := d.nodes ++ fresh (idsOf d.nodes) ns } := by
  induction ns generalizing d with
  | nil => simp [defineAll, fresh]
  | cons n ns ih =>
    have hstep : d.defineAll (n :: ns) = (d.define n).defineAll ns := rfl
    have hknown : (d.nodes.any fun m => m.id == n.id) = true ↔ n.id ∈ idsOf d.nodes := by
      simp [idsOf]
    rw [hstep, ih, fresh]
    by_cases h : n.id ∈ idsOf d.nodes
    · rw [if_pos h, define, if_pos (hknown.mpr h)]
    · rw [if_neg h, define, if_neg fun hn => h (hknown.mp hn)]
      simp

end Document

end Flowchart
