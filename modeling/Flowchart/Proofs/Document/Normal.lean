import Flowchart.Proofs.Document.Parsed

/-!
# The normal form of a document

A document put together by hand may define an id twice, mention ends that no
node defines, and number its edges in any way. Its normal form says what is
left of it once it has been written and read: the first node of each id, an
implied node for every end without one, and edges numbered from zero. A
document that was read is in normal form already (`normal_of_coherent`).
-/

namespace Flowchart

namespace Document

variable {d : Document}

/-- The ids that the edges mention, the source of an edge before its target. -/
def mentions (d : Document) : List String :=
  d.edges.flatMap fun e => [e.source, e.target]

/-- The document in normal form. -/
def normal (d : Document) : Document where
  direction := d.direction
  nodes := (distinct (idsOf d.nodes)).filterMap d.node? ++
    ((distinct d.mentions).filter (· ∉ idsOf d.nodes)).map Node.implied
  edges := d.edges.mapIdx fun i e => { e with id := "e" ++ toString i }

/-- Every first node of an id is fresh, and so is every end without a node. -/
theorem normal_eq (d : Document) : d.normal =
    { direction := d.direction
      nodes := fresh [] (d.nodes ++ d.mentions.map Node.implied)
      edges := (d.edges.map Edge.connection).mapIdx fun i c => c.edge i } := by
  have hfirst : (distinct (idsOf d.nodes)).filterMap d.node? = fresh [] d.nodes := by
    rw [fresh_eq_filterMap, List.filter_eq_self.mpr (by simp)]
    rfl
  have hends : ((distinct d.mentions).filter (· ∉ idsOf d.nodes)).map Node.implied =
      fresh (idsOf (fresh [] d.nodes)) (d.mentions.map Node.implied) := by
    rw [← fresh_map_implied]
    refine fresh_congr fun id => ?_
    simp [mem_idsOf_fresh]
  have hedges : (d.edges.mapIdx fun i e => { e with id := "e" ++ toString i }) =
      (d.edges.map Edge.connection).mapIdx fun i c => c.edge i := by
    refine List.ext_getElem (by simp) fun i h₁ h₂ => ?_
    simp [Connection.edge, Edge.connection]
  rw [normal, hfirst, hends, hedges, fresh_append, List.nil_append]

/-- **A document that hangs together is in normal form.** -/
theorem normal_of_coherent (h : d.Coherent) : d.normal = d := by
  have hnodes : fresh [] (d.nodes ++ d.mentions.map Node.implied) = d.nodes := by
    -- no id repeats, and every end that is mentioned has its node
    have hself : fresh [] d.nodes = d.nodes := fresh_eq_self h.nodup_ids (by simp)
    have hnone : fresh (idsOf d.nodes) (d.mentions.map Node.implied) = [] := by
      refine fresh_eq_nil fun id hid => ?_
      obtain ⟨n, hn, rfl⟩ := List.mem_map.mp hid
      obtain ⟨mention, hm, rfl⟩ := List.mem_map.mp hn
      obtain ⟨e, he, hend⟩ := List.mem_flatMap.mp hm
      obtain ⟨hsource, htarget⟩ := h.ends_known e he
      simp only [List.mem_cons, List.not_mem_nil, or_false] at hend
      rcases hend with rfl | rfl
      · exact hsource
      · exact htarget
    rw [fresh_append, hself, List.nil_append, hnone, List.append_nil]
  rw [normal_eq, hnodes, ← h.numbered]

/-- What is done to the nodes without touching their ids leaves a document
hanging together. -/
theorem Coherent.map_nodes (h : d.Coherent) {f : Node → Node} (hf : ∀ n, (f n).id = n.id) :
    Coherent { d with nodes := d.nodes.map f } := by
  have hids : idsOf (d.nodes.map f) = idsOf d.nodes := by
    simp only [idsOf, List.map_map]
    exact List.map_congr_left fun n _ => hf n
  exact {
    nodup_ids := by
      rw [hids]
      exact h.nodup_ids
    ends_known := by
      rw [hids]
      exact h.ends_known
    numbered := h.numbered }

end Document

end Flowchart
